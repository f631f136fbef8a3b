import StageZero.Build.Compile
import StageZero.CommandLine.Resolve

/-! The program as it is called: from the words of a command line to an exit code. -/
namespace StageZero

structure Run where
  exitCode : Nat
  output : String := ""
  notices : List Notice := []
  machine : Machine

namespace Report.Part

def output : Report.Part → String
  | .source text => text
  | .status _ | .failure _ => ""

def notices : Report.Part → List Notice
  | .source _ => []
  | .status text => [.line text]
  | .failure why => [.toolFailure why]

end Report.Part

/-- Registers the input, compiles it and says what the report says. -/
def Config.perform (config : Config) (launcher : Launcher) (machine : Machine) : Run :=
  let start : Context := { flags := config.flags }
  match start.register machine.disk machine.directory config.input.path with
  | .error complaint => { exitCode := 1, notices := [.complaint complaint], machine := machine }
  | .ok (id, context) =>
    let compiled := compile launcher config (context.setCurrent id) machine
    match compiled.result with
    | .error failure =>
      { exitCode := 1, notices := compiled.notices ++ [.failure failure], machine := compiled.machine }
    | .ok report =>
      { exitCode := report.exitCode
        output := String.join (report.parts.map Report.Part.output)
        notices := compiled.notices ++ report.parts.flatMap Report.Part.notices
        machine := compiled.machine }

/-- Runs the program with the words of a command line, of which the first is the program itself. -/
def runCommandLine (launcher : Launcher) (machine : Machine) (words : List String) : Run :=
  match resolve machine.directory words with
  | .error error => { exitCode := 1, notices := [.text error.report], machine := machine }
  | .ok .help => { exitCode := 0, output := helpText, machine := machine }
  | .ok .version => { exitCode := 0, output := versionText, machine := machine }
  | .ok (.compile config) => config.perform launcher machine

namespace Notice

/-- A message, what it points at and what helps. -/
def block (message : String) (details : List String) : String :=
  String.join (("error: " ++ message ++ "\n") :: details.map fun detail => "  " ++ detail ++ "\n")

def helpLine (help : Option String) : List String := (help.map ("help: " ++ ·)).toList

def labelLine (source : Option String) (label : Label) : String :=
  label.text ++ " at " ++ (source.map (· ++ ":")).getD "" ++ toString label.start ++ ".." ++
    toString (label.start + label.length)

def render : Notice → String
  | .text shown => shown
  | .complaint c =>
    let causes := match c with
      | .unreadable _ cause => ["caused by: " ++ cause.message]
      | .located .. | .detached _ => []
    block c.message (causes ++ c.labels.map (labelLine c.source?) ++ helpLine c.help?)
  | .toolFailure f =>
    block f.message
      ((f.cause?.map fun cause => "caused by: " ++ cause.message).toList ++ helpLine f.help?)
  | .failure f =>
    match f.messages with
    | [] => ""
    | message :: causes => block message (causes.map ("caused by: " ++ ·))

end Notice
end StageZero
