import StageZero.Path.Basic

/-! Where files are. A location is the normal form of a path: two spellings of one file have the
same location, and no file system is asked. -/
namespace StageZero

/-- The names that lead from the root to a file. The empty path leads nowhere. -/
inductive Location where
  | nowhere
  | rooted (names : List Name)
deriving DecidableEq

namespace Location

/-- Follows one part of a path. The root is above itself. -/
def follow (names : List Name) : Path.Part → List Name
  | .here => names
  | .up => names.dropLast
  | .name bytes => names ++ [bytes]

/-- The names of a path that is read in `directory`. -/
def namesOf (directory : List Name) (path : Path) : List Name :=
  path.parts.foldl follow (if path.isRooted then [] else directory)

def ofPath (directory : List Name) (path : Path) : Location :=
  if path.isEmpty then .nowhere else .rooted (namesOf directory path)

def path : Location → Path
  | .nowhere => ⟨[]⟩
  | .rooted names => ⟨Path.slash :: Path.joined names⟩

def display (location : Location) : String := location.path.display

def isRooted : Location → Bool
  | .nowhere => false
  | .rooted _ => true

def lastName? : Location → Option Name
  | .nowhere => none
  | .rooted names => names.getLast?

/-- A name cut at its last dot. A dot that a name begins with does not cut it. -/
def cut (name : Name) : Name × Option Name :=
  let fromLast := name.reverse.span (· ≠ Path.dot)
  match fromLast.2 with
  | [] | [_] => (name, none)
  | _ :: before => (before.reverse, some fromLast.1.reverse)

/-- What stands behind the last dot of the last name, if it is text. -/
def extension (location : Location) : Option String :=
  location.lastName?.bind fun name => (cut name).2.bind Text.text?

/-- The last name, or nothing where it is not text. -/
def basename (location : Location) : String := (location.lastName?.bind Text.text?).getD ""

/-- The last name without its extension, or nothing where that is not text. -/
def stem (location : Location) : String :=
  (location.lastName?.bind fun name => Text.text? (cut name).1).getD ""

instance : Ord Location where
  compare
    | .nowhere, .nowhere => .eq
    | .nowhere, .rooted _ => .lt
    | .rooted _, .nowhere => .gt
    | .rooted a, .rooted b => compare a b

end Location

namespace Path

/-- The spelling of a path from the root: what is spelled `..` stays, and so do two slashes in
front and one behind. The empty path stays empty. -/
def absolute (path : Path) (directory : List Name) : Path :=
  if path.isEmpty then path
  else
    let twoSlashes := path.bytes.take 2 = [slash, slash] ∧ path.bytes[2]? ≠ some slash
    let root := if twoSlashes then [slash, slash] else [slash]
    let base := if path.isRooted then [] else directory
    let names := base ++ path.parts.filterMap fun part =>
      if part = .here then none else some part.bytes
    let spelled := root ++ joined names
    if path.endsInSlash && spelled.getLast? ≠ some slash then ⟨spelled ++ [slash]⟩ else ⟨spelled⟩

end Path
end StageZero
