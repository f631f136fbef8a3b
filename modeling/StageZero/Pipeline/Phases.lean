import StageZero.Cxx.Emit
import StageZero.Outline.Program
import StageZero.Pipeline.Basic
import StageZero.Program.Check
import StageZero.Token.Scan
import StageZero.Tree.Read

/-! The phases of the compiler and the plugin that counts errors. -/
namespace StageZero
variable {Memory : Type}

namespace Phase

def recordFaults {Cause : Type} [Wording Cause] (faults : List (Fault Cause)) : Step Memory Unit :=
  Step.record (faults.map Fault.diagnostic)

/-- Tokens of the current file. -/
def lex : Phase Memory Unit Stream where
  name := "lex"
  run _ := do
    let (id, file) ← Step.currentSource
    let scanned := scan id file.contents
    recordFaults scanned.faults
    return scanned.stream
  render stream := "\n".intercalate (stream.marks.map fun mark => "token: " ++ mark.display)

def parse : Phase Memory Stream Tree.File where
  name := "parse"
  run stream := do
    let parsed := StageZero.parse stream
    recordFaults parsed.faults
    return parsed.file
  render file := file.outline.display

/-- A fault without a place of its own is placed in the current file. -/
def typecheck : Phase Memory Tree.File Program where
  name := "typecheck"
  run file := do
    let (id, _) ← Step.currentSource
    let checked := check id file
    recordFaults checked.faults
    return checked.value
  render program := program.outline.display

/-- C++ of a program, with line marks into the registered files if asked for. -/
def generate (lineMarks : Bool) : Phase Memory Program String where
  name := "generate"
  run program := do
    let context ← Step.context
    return Cxx.emit (if lineMarks then some context.files else none) program
  render text := text

end Phase

namespace Plugin

/-- The line on the errors so far, written after a phase. -/
def summaryLine (phase : String) (errors : Nat) : String :=
  "[" ++ phase ++ "] done, " ++ toString errors ++ (if errors = 1 then " error" else " errors") ++ " so far"

/-- Keeps a line after every phase, and shows it too if `echo` is set. -/
def summary (echo : Bool) (keep : String → Memory → Memory) : Plugin Memory where
  name := "phase-summary"
  before _ := Step.pure ()
  after phase := do
    let line := summaryLine phase (← Step.context).errorCount
    if echo then Step.print line
    Step.changeMemory (keep line)

end Plugin

/-- The compiler, with no plugins. -/
def Pipeline.builtin (lineMarks : Bool) : Pipeline Memory Stream Tree.File Program where
  lex := .lex
  parse := .parse
  typecheck := .typecheck
  generate := .generate lineMarks
  plugins := []

def Pipeline.withPlugin {Tokens Parsed Checked : Type}
    (pipeline : Pipeline Memory Tokens Parsed Checked) (plugin : Plugin Memory) :
    Pipeline Memory Tokens Parsed Checked :=
  { pipeline with plugins := pipeline.plugins ++ [plugin] }

end StageZero
