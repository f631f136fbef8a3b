import StageZero.Context

/-! The order of a compilation: four phases, each between the hooks of every plugin, and a gate
before the last that only a context without diagnostics passes. -/
namespace StageZero

/-- What the steps of a compilation work on. `Memory` is what plugins keep for themselves. -/
structure Session (Memory : Type) where
  context : Context
  disk : Disk
  directory : List Name
  /-- The lines shown to the user so far. -/
  shown : List String
  memory : Memory

/-- A step changes the session and gives a value, or stops the compilation. What was changed before
it stopped stays changed. -/
def Step (Memory α : Type) : Type := Session Memory → Except Failure α × Session Memory

namespace Step
variable {Memory α β : Type}

def pure (value : α) : Step Memory α := fun session => (.ok value, session)

def bind (step : Step Memory α) (next : α → Step Memory β) : Step Memory β := fun session =>
  match step session with
  | (.ok value, session) => next value session
  | (.error failure, session) => (.error failure, session)

instance : Monad (Step Memory) where
  pure := pure
  bind := bind

def fail (failure : Failure) : Step Memory α := fun session => (.error failure, session)

def session : Step Memory (Session Memory) := fun session => (.ok session, session)

def context : Step Memory Context := fun session => (.ok session.context, session)

def changeContext (change : Context → Context) : Step Memory Unit := fun session =>
  (.ok (), { session with context := change session.context })

def changeMemory (change : Memory → Memory) : Step Memory Unit := fun session =>
  (.ok (), { session with memory := change session.memory })

def record (diagnostics : List Diagnostic) : Step Memory Unit :=
  changeContext fun context => context.record diagnostics

def print (line : String) : Step Memory Unit := fun session =>
  (.ok (), { session with shown := session.shown ++ [line] })

def currentSource : Step Memory (FileId × SourceFile) := fun session =>
  (session.context.currentSource, session)

/-- One step after the other. -/
def each : List (Step Memory Unit) → Step Memory Unit
  | [] => pure ()
  | step :: later => bind step fun _ => each later

end Step

/-- A phase turns one form of the source into the next. It records what is wrong with the source
and fails only when it cannot go on. -/
structure Phase (Memory α β : Type) where
  name : String
  run : α → Step Memory β
  /-- How what it made is shown. -/
  render : β → String

/-- Hooks that run before and after each phase, and are told its name. -/
structure Plugin (Memory : Type) where
  name : String
  before : String → Step Memory Unit
  after : String → Step Memory Unit

/-- Four phases, each of which takes what the one before it made. -/
structure Pipeline (Memory Tokens Parsed Checked : Type) where
  lex : Phase Memory Unit Tokens
  parse : Phase Memory Tokens Parsed
  typecheck : Phase Memory Parsed Checked
  generate : Phase Memory Checked String
  plugins : List (Plugin Memory)

/-- How a compilation ended that was not stopped. -/
inductive Outcome where
  | generated (text : String)
  | rejected (errorCount : Nat)
deriving DecidableEq

namespace Phase
variable {Memory α β : Type}

/-- Runs a phase between the hooks of the plugins, and shows what it made if asked to. -/
def runWith (phase : Phase Memory α β) (plugins : List (Plugin Memory)) (shown : Bool) (input : α) :
    Step Memory β := do
  Step.each (plugins.map fun plugin => plugin.before phase.name)
  let output ← phase.run input
  if shown then Step.print (phase.render output)
  Step.each (plugins.map fun plugin => plugin.after phase.name)
  return output

/-- What can be seen of a phase that has run. -/
structure View where
  phase : String
  shown : String
  errorCount : Nat

/-- Runs a phase alone, and takes a view of it. -/
def watch (phase : Phase Memory α β) (input : α) : Step Memory (β × View) := do
  let output ← phase.run input
  return (output, ⟨phase.name, phase.render output, (← Step.context).errorCount⟩)

end Phase

namespace Pipeline
variable {Memory Tokens Parsed Checked : Type}

/-- Compiles the current file. The first three phases always run, whatever they record; the last
runs only if there is no diagnostic at all. -/
def run (pipeline : Pipeline Memory Tokens Parsed Checked) : Step Memory Outcome := do
  let _ ← Step.currentSource
  let flags := (← Step.context).flags
  let tokens ← pipeline.lex.runWith pipeline.plugins flags.lexer ()
  let parsed ← pipeline.parse.runWith pipeline.plugins flags.parser tokens
  let checked ← pipeline.typecheck.runWith pipeline.plugins flags.typechecker parsed
  let context ← Step.context
  if context.hasErrors then return .rejected context.errorCount
  let text ← pipeline.generate.runWith pipeline.plugins false checked
  return .generated text

/-- Runs the phases one after the other, with no plugins and no gate, and takes a view of each. -/
def watch (pipeline : Pipeline Memory Tokens Parsed Checked) : Step Memory (List Phase.View) := do
  let (tokens, lexed) ← pipeline.lex.watch ()
  let (parsed, read) ← pipeline.parse.watch tokens
  let (checked, typed) ← pipeline.typecheck.watch parsed
  let (_, generated) ← pipeline.generate.watch checked
  return [lexed, read, typed, generated]

end Pipeline
end StageZero
