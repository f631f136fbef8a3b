import StageZero.Path.Basic

/-! The commands that are given to other programs. -/
namespace StageZero
open Text (Octets)

structure Command where
  program : Path
  arguments : List Octets
deriving DecidableEq

namespace Command

def words (command : Command) : List Octets := command.program.bytes :: command.arguments

/-- Whether a zero octet stands in the way of starting the program. -/
def holdsZero (command : Command) : Bool := command.words.any Text.holdsZero

/-- A word as it is shown. One with a zero octet is not shown itself. -/
def shownWord (word : Octets) : String :=
  if Text.holdsZero word then "<string-with-nul>" else Text.lossy word

/-- A command as it is shown. Its words are not quoted. -/
def line (command : Command) : String := " ".intercalate (command.words.map shownWord)

/-- Switches for warnings that generated text draws whatever it was generated from. -/
def quiet : List String :=
  ["-Wno-unknown-warning-option", "-Wno-trigraphs", "-Wno-parentheses-equality",
    "-Wno-unqualified-std-cast-call", "-Wno-user-defined-literals", "-Wno-deprecated-declarations"]

/-- Compiles a C++ file into an executable, with the headers of the runtime. -/
def compile (compiler runtime binary source : Path) : Command where
  program := compiler
  arguments := (["-fcolor-diagnostics", "-std=c++20"] ++ quiet ++ ["-I"]).map Text.octets ++
    [runtime.bytes, Text.octets "-o", binary.bytes, source.bytes]

/-- Formats a C++ file in place, in the style that a file describes if there is one. -/
def format (formatter : Path) (style : Option Path) (source : Path) : Command where
  program := formatter
  arguments := [Text.octets "-i", source.bytes] ++
    (style.map fun file => Text.octets "--style=file:" ++ file.bytes).toList

def run (program : Path) : Command := ⟨program, []⟩

end Command
end StageZero
