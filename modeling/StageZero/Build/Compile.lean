import StageZero.Build.Report
import StageZero.Config
import StageZero.Pipeline.Phases

/-! A whole compilation: from the current file of a context to a report. -/
namespace StageZero

/-- Something said to the user beside the generated text. -/
inductive Notice where
  /-- A text as it stands. -/
  | text (text : String)
  | complaint (complaint : Complaint)
  | toolFailure (failure : ToolFailure)
  | failure (failure : CompileFailure)

def Notice.line (text : String) : Notice := .text (text ++ "\n")

/-- What a compilation leaves behind. -/
structure Compiled where
  result : Except CompileFailure Report
  context : Context
  machine : Machine
  notices : List Notice

/-- Compiles a C++ file, and formats it if that is asked for and the compiler succeeded. -/
def Machine.runTools (machine : Machine) (launcher : Launcher) (config : Config) :
    Except ToolFailure Unit × Machine :=
  let compiled := machine.runTool launcher .compiler
    (.compile config.tools.compiler config.tools.runtime config.binaryPath config.cppPath)
  match compiled with
  | (.error failure, machine) => (.error failure, machine)
  | (.ok (), machine) =>
    if config.prettify then
      machine.runTool launcher .formatter
        (.format config.tools.formatter config.tools.style config.cppPath)
    else (.ok (), machine)

/-- Writes a generated text, runs the tools on it and, if that is asked for, what they built. -/
def Machine.build (machine : Machine) (launcher : Launcher) (config : Config) (text : String) :
    Except CompileFailure Report × Machine :=
  let source := config.cppPath
  let binary := config.binaryPath
  let written := machine.disk.writeText machine.directory source text
  let machine := { machine with disk := written.disk }
  match written.failure with
  | some failure => (.error (.write failure), machine)
  | none =>
    match machine.runTools launcher config with
    | (.error failure, machine) => (.ok (.buildFailed source failure), machine)
    | (.ok (), machine) =>
      if config.mode = .buildAndRun then
        match machine.runBinary launcher binary with
        | (.error failure, machine) => (.ok (.buildFailed source failure), machine)
        | (.ok code, machine) => (.ok (.ran binary code), machine)
      else (.ok (.built source binary config.prettify), machine)

/-- The compiler as a configuration asks for it. -/
def Config.pipeline (config : Config) : Pipeline Unit Stream Tree.File Program :=
  let builtin := Pipeline.builtin config.lineMarks
  if config.flags.summary then builtin.withPlugin (.summary true fun _ memory => memory)
  else builtin

/-- Diagnostics are shown when the pipeline has come to its end, whatever it came to. -/
def compile (launcher : Launcher) (config : Config) (context : Context) (machine : Machine) :
    Compiled :=
  let (outcome, session) :=
    config.pipeline.run ⟨context, machine.disk, machine.directory, [], ()⟩
  let context := session.context
  let machine := { machine with disk := session.disk }
  let shown := session.shown.map Notice.line
  match outcome with
  | .error failure => ⟨.error (.pipeline failure), context, machine, shown⟩
  | .ok outcome =>
    let notices := shown ++ context.complaints.map Notice.complaint
    match outcome with
    | .rejected errorCount => ⟨.ok (.rejected errorCount), context, machine, notices⟩
    | .generated text =>
      if config.mode = .emit then ⟨.ok (.emitted text), context, machine, notices⟩
      else
        let (result, machine) := machine.build launcher config text
        ⟨result, context, machine, notices⟩

end StageZero
