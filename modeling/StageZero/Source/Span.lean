/-! Byte ranges of source files. -/
namespace StageZero

/-- A source file, named by its place in the order of registration. -/
structure FileId where
  index : Nat
deriving DecidableEq

def FileId.display (file : FileId) : String := "#" ++ toString file.index

/-- The bytes of `file` from `start` up to and excluding `stop`. -/
structure Span where
  file : FileId
  start : Nat
  stop : Nat
deriving DecidableEq

namespace Span

/-- Zero for a span that stops before it starts. -/
def length (span : Span) : Nat := span.stop - span.start

def isEmpty (span : Span) : Bool := span.length == 0

/-- The least span around two, in the file of the first. -/
def cover (a b : Span) : Span := ⟨a.file, min a.start b.start, max a.stop b.stop⟩

/-- The empty span where a span stops. -/
def after (span : Span) : Span := ⟨span.file, span.stop, span.stop⟩

theorem cover_self (span : Span) : span.cover span = span := by
  cases span; simp [cover]

theorem cover_assoc (a b c : Span) : (a.cover b).cover c = a.cover (b.cover c) := by
  simp [cover, Nat.min_assoc, Nat.max_assoc]

end Span
end StageZero
