import StageZero.CommandLine.Usage
import StageZero.Context

/-! What a compilation is asked to do. -/
namespace StageZero

/-- The tools and directories of a build. -/
structure Tools where
  compiler : Path := .ofString "clang++"
  formatter : Path := .ofString "clang-format"
  /-- A file with a style for the formatter. -/
  style : Option Path := none
  runtime : Path := .ofString "runtime"
  /-- The directory that outputs are written to. -/
  outputs : Path := .ofString "build"
deriving DecidableEq

/-- What becomes of the generated text. -/
inductive Mode where
  | emit | build | buildAndRun
deriving DecidableEq

structure Config where
  input : Location
  flags : DebugFlags := {}
  lineMarks : Bool := false
  build : Bool := false
  run : Bool := false
  prettify : Bool := false
  tools : Tools := {}
deriving DecidableEq

namespace Config

/-- Every option at its default, for an input that has to be called something with `.jakt`. -/
def ofInput (directory : List Name) (path : Path) : Except UsageError Config :=
  let input := Location.ofPath directory path
  if input.extension = some "jakt" then .ok ⟨input, {}, false, false, false, false, {}⟩
  else .error (.wrongExtension input)

/-- Running needs building, also where that is not asked for. -/
def mode (config : Config) : Mode :=
  if config.run then .buildAndRun else if config.build then .build else .emit

def outputName (config : Config) : String := config.input.stem

/-- Where the generated text is written. -/
def cppPath (config : Config) : Path :=
  config.tools.outputs.join (.ofString (config.outputName ++ ".cpp"))

/-- Where the C++ compiler is to put the executable. -/
def binaryPath (config : Config) : Path :=
  config.tools.outputs.join (.ofString config.outputName)

end Config
end StageZero
