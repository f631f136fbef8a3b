import StageZero.Path.Location

/-! A tree of files and directories, and what reading and writing it gives. Names are resolved part
by part, as the tree has no links. -/
namespace StageZero
open Text (Octets)

inductive Cause where
  | missing | denied | exists | notDirectory | isDirectory | nameTooLong | notText | notProgram
  /-- A path with a zero octet in it. -/
  | zeroInPath
  /-- A command with a zero octet in one of its words. -/
  | zeroInWord
deriving DecidableEq

def Cause.message : Cause → String
  | .missing => "No such file or directory (os error 2)"
  | .denied => "Permission denied (os error 13)"
  | .exists => "File exists (os error 17)"
  | .notDirectory => "Not a directory (os error 20)"
  | .isDirectory => "Is a directory (os error 21)"
  | .nameTooLong => "File name too long (os error 36)"
  | .notText => "stream did not contain valid UTF-8"
  | .notProgram => "Exec format error (os error 8)"
  | .zeroInPath => "file name contained an unexpected NUL byte"
  | .zeroInWord => "nul byte found in provided data"

inductive Ending where
  | exited (code : Nat)
  | killed (signal : Nat)
deriving DecidableEq

/-- A program that builds at most one other program and ends. -/
structure Standin where
  ending : Ending
  /-- How the program ends that is written to where `-o` says. -/
  builds : Option Ending
deriving DecidableEq

inductive Content where
  | bytes (octets : Octets)
  | program (standin : Standin)
deriving DecidableEq

/-- The bytes of a file. Of a program only its first two are fixed. -/
def Content.read : Content → Octets
  | .bytes octets => octets
  | .program _ => Text.octets "#!"

inductive Node where
  | directory
  | file (content : Content) (executable : Bool)
deriving DecidableEq

/-- Every node but the root, each under the names that lead to it. -/
structure Disk where
  nodes : List (List Name × Node)

namespace Disk

def empty : Disk := ⟨[]⟩

/-- The root is always a directory. -/
def node? (disk : Disk) (names : List Name) : Option Node :=
  if names = [] then some .directory else disk.nodes.lookup names

def put (disk : Disk) (names : List Name) (node : Node) : Disk :=
  ⟨(names, node) :: disk.nodes.filter fun entry => entry.1 ≠ names⟩

theorem node?_put (disk : Disk) (names : List Name) (node : Node) (some : names ≠ []) :
    (disk.put names node).node? names = .some node := by
  simp [node?, put, some]

/-- Removes a node and what is below it. -/
def remove (disk : Disk) (names : List Name) : Disk :=
  ⟨disk.nodes.filter fun entry => !names.isPrefixOf entry.1⟩

def longestName : Nat := 255

def longestPath : Nat := 4095

/-- What stands under a name in a directory, if anything does. -/
def entry? (disk : Disk) (names : List Name) (name : Name) : Except Cause (Option Node) :=
  if longestName < name.length then .error .nameTooLong else .ok (disk.node? (names ++ [name]))

/-- Follows one part of a path from one directory to another. -/
def enter (disk : Disk) (names : List Name) : Path.Part → Except Cause (List Name)
  | .here => .ok names
  | .up => .ok names.dropLast
  | .name name =>
    match disk.entry? names name with
    | .error cause => .error cause
    | .ok none => .error .missing
    | .ok (some .directory) => .ok (names ++ [name])
    | .ok (some (.file ..)) => .error .notDirectory

def walk (disk : Disk) (names : List Name) : List Path.Part → Except Cause (List Name)
  | [] => .ok names
  | part :: later =>
    match disk.enter names part with
    | .error cause => .error cause
    | .ok next => disk.walk next later

/-- What the last part of a path stands for. -/
inductive Target where
  /-- A directory that is there. -/
  | directory (names : List Name)
  /-- A name in a directory that is there. With a slash behind, it can only name a directory. -/
  | name (names : List Name) (name : Name) (slash : Bool)

def target (disk : Disk) (directory : List Name) (path : Path) : Except Cause Target :=
  if Text.holdsZero path.bytes then .error .zeroInPath
  else if longestPath < path.bytes.length then .error .nameTooLong
  else if path.isEmpty then .error .missing
  else
    let parts := path.parts
    match disk.walk (if path.isRooted then [] else directory) parts.dropLast with
    | .error cause => .error cause
    | .ok names =>
      match parts.getLast? with
      | none | some .here => .ok (.directory names)
      | some .up => .ok (.directory names.dropLast)
      | some (.name name) => .ok (.name names name path.endsInSlash)

/-- The names of the file at a path and the file. -/
def file (disk : Disk) (directory : List Name) (path : Path) :
    Except Cause (List Name × Content × Bool) :=
  match disk.target directory path with
  | .error cause => .error cause
  | .ok (.directory _) => .error .isDirectory
  | .ok (.name names name slash) =>
    match disk.entry? names name with
    | .error cause => .error cause
    | .ok none => .error .missing
    | .ok (some .directory) => .error .isDirectory
    | .ok (some (.file content executable)) =>
      if slash then .error .notDirectory else .ok (names ++ [name], content, executable)

def read (disk : Disk) (directory : List Name) (path : Path) : Except Cause Octets :=
  match disk.file directory path with
  | .error cause => .error cause
  | .ok (_, content, _) => .ok content.read

def readText (disk : Disk) (directory : List Name) (path : Path) : Except Cause String :=
  match disk.read directory path with
  | .error cause => .error cause
  | .ok bytes =>
    match Text.text? bytes with
    | some text => .ok text
    | none => .error .notText

def isDirectory (disk : Disk) (directory : List Name) (path : Path) : Bool :=
  match disk.target directory path with
  | .error _ => false
  | .ok (.directory _) => true
  | .ok (.name names name _) =>
    match disk.entry? names name with
    | .ok (some .directory) => true
    | _ => false

def makeDirectory (disk : Disk) (directory : List Name) (path : Path) : Except Cause Disk :=
  match disk.target directory path with
  | .error cause => .error cause
  | .ok (.directory _) => .error .exists
  | .ok (.name names name _) =>
    match disk.entry? names name with
    | .error cause => .error cause
    | .ok none => .ok (disk.put (names ++ [name]) .directory)
    | .ok (some _) => .error .exists

/-- Replaces what a file holds, or makes a file. `executable` says whether it is marked so; a file
that is replaced keeps its mark as well. A name with a slash behind it is refused as a directory's,
whatever stands under it. -/
def write (disk : Disk) (directory : List Name) (path : Path) (content : Content)
    (executable : Bool) : Except Cause Disk :=
  match disk.target directory path with
  | .error cause => .error cause
  | .ok (.directory _) => .error .isDirectory
  | .ok (.name _ _ true) => .error .isDirectory
  | .ok (.name names name false) =>
    match disk.entry? names name with
    | .error cause => .error cause
    | .ok (some .directory) => .error .isDirectory
    | .ok (some (.file _ marked)) =>
      .ok (disk.put (names ++ [name]) (.file content (marked || executable)))
    | .ok none => .ok (disk.put (names ++ [name]) (.file content executable))

end Disk
end StageZero
