import StageZero.Path.Location
import StageZero.Source.Span

/-! Source files that have been read. -/
namespace StageZero

structure SourceFile where
  location : Location
  contents : String

/-- The line that holds a byte, counted from one. -/
def SourceFile.lineOf (file : SourceFile) (offset : Nat) : Nat :=
  ((Text.octets file.contents).take offset).count 0x0A + 1

/-- Files in the order of their ids. -/
abbrev Sources := List SourceFile

def Sources.file? (sources : Sources) (id : FileId) : Option SourceFile := sources[id.index]?

/-- The place of the first file that was read from a location. -/
def Sources.id? (sources : Sources) (location : Location) : Option FileId :=
  (sources.findIdx? fun file => file.location = location).map FileId.mk

end StageZero
