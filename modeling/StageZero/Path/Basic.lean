import StageZero.Text.Octets

/-! Paths as they are spelled: octets between slashes. A spelling is kept as it was given, since it
is shown to the user and passed on to tools. -/
namespace StageZero
open Text (Octets)

/-- A name in a directory. It need not be text. -/
abbrev Name := Octets

structure Path where
  bytes : Octets
deriving DecidableEq

namespace Path

def slash : UInt8 := 0x2F
def dot : UInt8 := 0x2E

def ofString (text : String) : Path := ⟨Text.octets text⟩

def display (path : Path) : String := Text.lossy path.bytes

/-- The octets between slashes, of which there is one more than slashes. -/
def split : Octets → List Octets
  | [] => [[]]
  | byte :: rest =>
    if byte = slash then [] :: split rest
    else match split rest with
      | [] => [[byte]]
      | segment :: later => (byte :: segment) :: later

def joined (segments : List Octets) : Octets := List.intercalate [slash] segments

theorem split_ne_nil (bytes : Octets) : split bytes ≠ [] := by
  fun_cases split bytes <;> simp_all

theorem joined_split (bytes : Octets) : joined (split bytes) = bytes := by
  fun_induction split bytes with
  | case1 => rfl
  | case2 rest ih =>
    obtain ⟨segment, later, segments⟩ := List.exists_cons_of_ne_nil (split_ne_nil rest)
    rw [segments] at ih ⊢
    simp_all [joined, List.intercalate]
  | case3 byte rest _ nothing => exact absurd nothing (split_ne_nil rest)
  | case4 byte rest _ segment later segments ih =>
    rw [segments] at ih
    cases later <;> simp_all [joined, List.intercalate]

def isEmpty (path : Path) : Bool := path.bytes.isEmpty

def isRooted (path : Path) : Bool := path.bytes.head? = some slash

def endsInSlash (path : Path) : Bool := path.bytes.getLast? = some slash

/-- A part of a path that means something: nothing between two slashes means nothing. -/
inductive Part where
  | here | up
  | name (bytes : Name)
deriving DecidableEq

def Part.ofSegment? (segment : Octets) : Option Part :=
  if segment = [] then none
  else if segment = [dot] then some .here
  else if segment = [dot, dot] then some .up
  else some (.name segment)

def Part.bytes : Part → Octets
  | .here => [dot]
  | .up => [dot, dot]
  | .name bytes => bytes

def parts (path : Path) : List Part := (split path.bytes).filterMap Part.ofSegment?

/-- A path below another. A rooted path stays itself, and an empty one leaves a slash behind. -/
def join (base path : Path) : Path :=
  if path.isRooted then path
  else if base.isEmpty || base.endsInSlash then ⟨base.bytes ++ path.bytes⟩
  else ⟨base.bytes ++ slash :: path.bytes⟩

/-- The segments of a path without those at its end that lead nowhere. -/
def trimmed (segments : List Octets) : List Octets :=
  (segments.reverse.dropWhile fun segment => segment = [] ∨ segment = [dot]).reverse

/-- The directory that holds what a path names, or nothing for the root and the empty path. -/
def parent? (path : Path) : Option Path :=
  match split path.bytes with
  | [] => none
  | first :: rest =>
    let below := trimmed rest
    if first = [] then
      if below = [] then none else some ⟨slash :: joined (trimmed below.dropLast)⟩
    else
      if below = [] then some ⟨[]⟩ else some ⟨joined (first :: trimmed below.dropLast)⟩

end Path
end StageZero
