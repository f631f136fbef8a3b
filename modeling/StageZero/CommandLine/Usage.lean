import StageZero.CommandLine.Key
import StageZero.Path.Location
import StageZero.Text.Controls

/-! What can be wrong with a command line, and what is said about it. -/
namespace StageZero

inductive Misuse where
  /-- An argument that there is no key for. -/
  | unexpected (argument : String)
  | repeated (key : Key)
  /-- A value for a key that takes none. -/
  | surplus (key : Key) (value : String)
  | missingValue (setting : Setting)
  /-- A file whose path is empty. -/
  | emptyFile
deriving DecidableEq

def usageLine : String := "Usage: jakt [OPTIONS] <FILE>\n"

def moreLine : String := "For more information, try '--help'.\n"

namespace Misuse

def missing (argument : String) : String :=
  "error: a value is required for '" ++ argument ++ "' but none was supplied\n\n" ++
    moreLine ++ "\n" ++ usageLine

/-- The text shown for a misuse, in which the user's own words are free of controls. The usage stands
last in it where a value is missing. -/
def text : Misuse → String
  | .unexpected argument =>
    let shown := Text.withoutControls argument
    "error: unexpected argument '" ++ shown ++ "' found\n\n  tip: to pass '" ++ shown ++
      "' as a value, use '-- " ++ shown ++ "'\n\n" ++ usageLine ++ "\n" ++ moreLine
  | .repeated key =>
    "error: the argument '" ++ key.display ++ "' cannot be used multiple times\n\n" ++
      usageLine ++ "\n" ++ moreLine
  | .surplus key value =>
    "error: unexpected value '" ++ Text.withoutControls value ++ "' for '" ++ key.display ++
      "' found; no more were expected\n\n" ++ usageLine ++ "\n" ++ moreLine
  | .missingValue setting => missing (Key.setting setting).display
  | .emptyFile => missing "[FILE]..."

end Misuse

/-- Why there is nothing to compile. -/
inductive UsageError where
  | noArguments
  | missingInput
  | tooManyInputs
  | wrongExtension (input : Location)
  | invalid (misuse : Misuse)
deriving DecidableEq

namespace UsageError

def message : UsageError → String
  | .noArguments => "no arguments given"
  | .missingInput => "you must pass a source file"
  | .tooManyInputs => "you may pass only one source file"
  | .wrongExtension _ => "the compiler expects files with file extension .jakt"
  | .invalid misuse => misuse.text

/-- What is written before the program ends. -/
def report : UsageError → String
  | .noArguments => usageLine
  | .invalid misuse => misuse.text
  | error => "error: " ++ error.message ++ "\n\n" ++ usageLine

end UsageError

def versionText : String := "jakt 0.1.0\n"

def helpText : String :=
  "Compile Jakt source files to C++ and native executables\n" ++
  "\n" ++
  "Usage: jakt [OPTIONS] <FILE>\n" ++
  "\n" ++
  "Arguments:\n" ++
  "  [FILE]...  Source file to compile (exactly one, with a .jakt extension)\n" ++
  "\n" ++
  "Options:\n" ++
  "  -v, --version                       Print version\n" ++
  "  -l                                  Print the token stream\n" ++
  "  -p                                  Print the parsed syntax tree\n" ++
  "  -t                                  Print the checked program\n" ++
  "  -b                                  Compile the generated C++ into an executable\n" ++
  "  -r                                  Build, then run the executable\n" ++
  "  -d                                  Emit #line directives pointing back at the Jakt source\n" ++
  "      --debug-print                   Print a summary after every compiler phase\n" ++
  "      --prettify-cpp-source           Run clang-format on the generated C++\n" ++
  "  -F, --clang-format-path <PATH>      Path to clang-format [default: clang-format]\n" ++
  "  -D, --dot-clang-format-path <PATH>  Path to a .clang-format style file\n" ++
  "  -R, --runtime-path <PATH>           Path to the Jakt runtime headers [default: runtime]\n" ++
  "  -o, --binary-dir <PATH>             Output directory for generated C++ and executables [default: build]\n" ++
  "  -C, --cxx-compiler-path <PATH>      Path to the C++ compiler [default: clang++]\n" ++
  "  -h, --help                          Print help\n"

end StageZero
