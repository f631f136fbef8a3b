import StageZero.Toolchain.Machine

/-! Running the tools that a build needs and the program that it makes, and how that fails. -/
namespace StageZero

def signalName? : Nat → Option String
  | 1 => some "SIGHUP"
  | 2 => some "SIGINT"
  | 3 => some "SIGQUIT"
  | 4 => some "SIGILL"
  | 5 => some "SIGTRAP"
  | 6 => some "SIGABRT"
  | 7 => some "SIGBUS"
  | 8 => some "SIGFPE"
  | 9 => some "SIGKILL"
  | 10 => some "SIGUSR1"
  | 11 => some "SIGSEGV"
  | 12 => some "SIGUSR2"
  | 13 => some "SIGPIPE"
  | 14 => some "SIGALRM"
  | 15 => some "SIGTERM"
  | 16 => some "SIGSTKFLT"
  | 24 => some "SIGXCPU"
  | 25 => some "SIGXFSZ"
  | 26 => some "SIGVTALRM"
  | 27 => some "SIGPROF"
  | 29 => some "SIGIO"
  | 30 => some "SIGPWR"
  | 31 => some "SIGSYS"
  | _ => none

def Ending.display : Ending → String
  | .exited code => "exit status: " ++ toString code
  | .killed signal =>
    "signal: " ++ toString signal ++
      match signalName? signal with
      | some name => " (" ++ name ++ ")"
      | none => ""

/-- A tool by the name that users know it by, and the option that gives its path. -/
structure Tool where
  name : String
  option : String

def Tool.compiler : Tool := ⟨"C++ compiler", "--cxx-compiler-path"⟩

def Tool.formatter : Tool := ⟨"clang-format", "--clang-format-path"⟩

inductive ToolFailure where
  | unlaunched (tool : Tool) (command : Command) (cause : Cause)
  | failed (tool : Tool) (command : Command) (ending : Ending)
  /-- The program that was built could not be started. -/
  | unrun (binary : Path) (cause : Cause)

namespace ToolFailure

def code : String := "jakt::toolchain"

def message : ToolFailure → String
  | .unlaunched tool command _ => "failed to launch " ++ tool.name ++ ": \x60" ++ command.line ++ "\x60"
  | .failed tool command ending =>
    tool.name ++ " exited with " ++ ending.display ++ ": \x60" ++ command.line ++ "\x60"
  | .unrun binary _ => "failed to run compiled program \x60" ++ binary.display ++ "\x60"

def help? : ToolFailure → Option String
  | .unlaunched tool .. =>
    some ("check that " ++ tool.name ++ " is installed, or pass its path with " ++ tool.option)
  | .failed .. | .unrun .. => none

def cause? : ToolFailure → Option Cause
  | .unlaunched _ _ cause | .unrun _ cause => some cause
  | .failed .. => none

end ToolFailure

namespace Machine

/-- Runs a tool, which has to exit with zero. -/
def runTool (machine : Machine) (launcher : Launcher) (tool : Tool) (command : Command) :
    Except ToolFailure Unit × Machine :=
  match machine.launch launcher command with
  | (.error cause, machine) => (.error (.unlaunched tool command cause), machine)
  | (.ok (.exited 0), machine) => (.ok (), machine)
  | (.ok ending, machine) => (.error (.failed tool command ending), machine)

/-- Runs a built program by its path from the root and gives its exit code, which is one if a signal
ended it. -/
def runBinary (machine : Machine) (launcher : Launcher) (binary : Path) :
    Except ToolFailure Nat × Machine :=
  let program := binary.absolute machine.directory
  match machine.launch launcher (.run program) with
  | (.error cause, machine) => (.error (.unrun program cause), machine)
  | (.ok (.exited code), machine) => (.ok code, machine)
  | (.ok (.killed _), machine) => (.ok 1, machine)

end Machine
end StageZero
