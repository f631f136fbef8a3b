import StageZero.CommandLine.Request
import StageZero.Config

/-! From a command line to what the program has to do. -/
namespace StageZero

inductive Invocation where
  | compile (config : Config)
  | help
  | version
deriving DecidableEq

namespace Request

def isOn (request : Request) (switch : Switch) : Bool := switch ∈ request.switches

def path? (request : Request) (setting : Setting) : Option Path :=
  (request.value? setting).map .ofString

def flags (request : Request) : DebugFlags where
  lexer := request.isOn .showTokens
  parser := request.isOn .showTree
  typechecker := request.isOn .showProgram
  summary := request.isOn .summary

/-- A setting that is not given keeps its default. -/
def tools (request : Request) : Tools :=
  let defaults : Tools := {}
  { compiler := (request.path? .compiler).getD defaults.compiler
    formatter := (request.path? .formatter).getD defaults.formatter
    style := request.path? .style
    runtime := (request.path? .runtime).getD defaults.runtime
    outputs := (request.path? .outputs).getD defaults.outputs }

/-- The configuration of a request for one file. -/
def config (request : Request) (directory : List Name) : Except UsageError Config :=
  match request.files with
  | [] => .error .missingInput
  | [file] =>
    match Config.ofInput directory (.ofString file) with
    | .error error => .error error
    | .ok config =>
      .ok { config with
        flags := request.flags
        lineMarks := request.isOn .lineMarks
        build := request.isOn .build || request.isOn .run
        run := request.isOn .run
        prettify := request.isOn .prettify
        tools := request.tools }
  | _ :: _ :: _ => .error .tooManyInputs

end Request

/-- What the words of a command line ask for, of which the first is the program itself. -/
def resolve (directory : List Name) : List String → Except UsageError Invocation
  | [] | [_] => .error .noArguments
  | _ :: words =>
    match Request.ofWords words with
    | .error .help => .ok .help
    | .error .version => .ok .version
    | .error (.misuse misuse) => .error (.invalid misuse)
    | .ok request => (request.config directory).map .compile

end StageZero
