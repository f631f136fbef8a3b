import StageZero.Disk.Basic

/-! Writing a text file together with the directories it stands in. -/
namespace StageZero

/-- The directories from a path up to the root or to where the path starts, the path first. -/
def Path.ancestors (path : Path) : List Path := (go (split path.bytes).reverse).map Path.mk
where
  go : List Text.Octets → List Text.Octets
    | [] => []
    | segment :: above =>
      if segment = [] ∨ segment = [dot] then go above
      else joined (segment :: above).reverse :: go above

/-- What came of an action on a disk. What was done before a failure stays done. -/
structure Attempt (ε : Type) where
  failure : Option ε
  disk : Disk

inductive WriteFailure where
  | directory (path : Path) (cause : Cause)
  | file (path : Path) (cause : Cause)

/-- What failed, and under it why. -/
def WriteFailure.messages : WriteFailure → List String
  | .directory path cause => ["failed to create directory '" ++ path.display ++ "'", cause.message]
  | .file path cause => ["failed to write '" ++ path.display ++ "'", cause.message]

namespace Disk

/-- Makes the first directory of a list in which each one is held by the next. One that is there
already is left as it is. -/
def makeEach (disk : Disk) (directory : List Name) : List Path → Attempt Cause
  | [] => ⟨none, disk⟩
  | path :: above =>
    match disk.makeDirectory directory path with
    | .ok disk => ⟨none, disk⟩
    | .error .missing =>
      let held := makeEach disk directory above
      match held.failure with
      | some cause => ⟨some cause, held.disk⟩
      | none =>
        match held.disk.makeDirectory directory path with
        | .ok disk => ⟨none, disk⟩
        | .error cause =>
          ⟨if held.disk.isDirectory directory path then none else some cause, held.disk⟩
    | .error cause => ⟨if disk.isDirectory directory path then none else some cause, disk⟩

def makeDirectories (disk : Disk) (directory : List Name) (path : Path) : Attempt Cause :=
  disk.makeEach directory path.ancestors

def makeParent (disk : Disk) (directory : List Name) (path : Path) : Attempt WriteFailure :=
  match path.parent? with
  | none => ⟨none, disk⟩
  | some parent =>
    let made := disk.makeDirectories directory parent
    ⟨made.failure.map (.directory parent), made.disk⟩

/-- Writes a text to a file, in directories that are made where they are missing. -/
def writeText (disk : Disk) (directory : List Name) (path : Path) (text : String) :
    Attempt WriteFailure :=
  let made := disk.makeParent directory path
  match made.failure with
  | some failure => ⟨some failure, made.disk⟩
  | none =>
    match made.disk.write directory path (.bytes (Text.octets text)) false with
    | .ok disk => ⟨none, disk⟩
    | .error cause => ⟨some (.file path cause), made.disk⟩

/-- Puts a file where a path says, in directories that are made where they are missing. What cannot
be put there is left out. -/
def place (disk : Disk) (directory : List Name) (path : Path) (content : Content)
    (executable : Bool) : Disk :=
  let made := (disk.makeParent directory path).disk
  match made.write directory path content executable with
  | .ok disk => disk
  | .error _ => made

/-- The nodes below a directory by the octets of their paths from there, in the order of octets. -/
def listing (disk : Disk) (directory : List Name) : List (Path × Node) :=
  let below := disk.nodes.filterMap fun entry =>
    if directory.isPrefixOf entry.1 then
      some (Path.mk (Path.joined (entry.1.drop directory.length)), entry.2)
    else none
  (below.filter fun entry => !entry.1.isEmpty).mergeSort fun a b =>
    (compare a.1.bytes b.1.bytes).isLE

end Disk
end StageZero
