import StageZero.Disk.Basic
import StageZero.Source.Diagnostic
import StageZero.Source.File

/-! What the phases of a compilation share: the files read so far, the diagnostics, and the file
that is being worked on. Diagnostics are only ever added, behind those that are there. -/
namespace StageZero

/-- Which phases show what they made. None of them changes what is made. -/
structure DebugFlags where
  lexer : Bool := false
  parser : Bool := false
  typechecker : Bool := false
  summary : Bool := false
deriving DecidableEq

structure Context where
  files : Sources := []
  /-- The id of each location that a file was read from. -/
  ids : List (Location × FileId) := []
  diagnostics : List Diagnostic := []
  current : Option FileId := none
  flags : DebugFlags := {}

inductive Complaint where
  | unreadable (location : Location) (cause : Cause)
  /-- A diagnostic, with the file that it points into. -/
  | located (file : SourceFile) (diagnostic : Diagnostic)
  /-- A diagnostic that points into no file. -/
  | detached (diagnostic : Diagnostic)

structure Label where
  text : String
  start : Nat
  length : Nat

def Label.at (text : String) (span : Span) : Label := ⟨text, span.start, span.length⟩

namespace Complaint

def message : Complaint → String
  | .unreadable location _ => "failed to read '" ++ location.display ++ "'"
  | .located _ diagnostic | .detached diagnostic => diagnostic.message

def code : Complaint → String
  | .unreadable .. => "jakt::io"
  | .located .. | .detached _ => "jakt::compile_error"

def help? : Complaint → Option String
  | .unreadable .. => some "check that the file exists and is readable UTF-8"
  | .located .. | .detached _ => none

def labels : Complaint → List Label
  | .located _ diagnostic =>
    .at (diagnostic.phase ++ " error") diagnostic.span ::
      (diagnostic.hint.map fun hint => Label.at hint.message hint.span).toList
  | .unreadable .. | .detached _ => []

/-- What the complaint goes back to: a cause, or the file that it points into. -/
def source? : Complaint → Option String
  | .unreadable _ cause => some cause.message
  | .located file _ => some file.location.display
  | .detached _ => none

end Complaint

inductive Failure where
  | noCurrentFile
  | unregistered (file : FileId)
  /-- A failure of a phase or a plugin, in its own words. -/
  | reported (message : String)
deriving DecidableEq

def Failure.message : Failure → String
  | .noCurrentFile => "no current file set - register a file before running phases"
  | .unregistered file => "current file " ++ file.display ++ " is not registered"
  | .reported message => message

namespace Context

/-- The id of a location, if a file was read from it. -/
def id? (context : Context) (location : Location) : Option FileId := context.ids.lookup location

/-- Gives a file the next id. -/
def enter (context : Context) (location : Location) (contents : String) : FileId × Context :=
  let id : FileId := ⟨context.files.length⟩
  (id, { context with
    files := context.files ++ [⟨location, contents⟩]
    ids := context.ids ++ [(location, id)] })

/-- Reads a file on first sight. A path of a known location gets the id it has, and the disk is not
asked again. -/
def register (context : Context) (disk : Disk) (directory : List Name) (path : Path) :
    Except Complaint (FileId × Context) :=
  let location := Location.ofPath directory path
  match context.id? location with
  | some id => .ok (id, context)
  | none =>
    match disk.readText directory location.path with
    | .error cause => .error (.unreadable location cause)
    | .ok contents => .ok (context.enter location contents)

def setCurrent (context : Context) (file : FileId) : Context := { context with current := some file }

def currentSource (context : Context) : Except Failure (FileId × SourceFile) :=
  match context.current with
  | none => .error .noCurrentFile
  | some id =>
    match context.files.file? id with
    | none => .error (.unregistered id)
    | some file => .ok (id, file)

def record (context : Context) (diagnostics : List Diagnostic) : Context :=
  { context with diagnostics := context.diagnostics ++ diagnostics }

def hasErrors (context : Context) : Bool := !context.diagnostics.isEmpty

def errorCount (context : Context) : Nat := context.diagnostics.length

def complaint (context : Context) (diagnostic : Diagnostic) : Complaint :=
  match context.files.file? diagnostic.span.file with
  | some file => .located file diagnostic
  | none => .detached diagnostic

/-- The diagnostics in the order they were found, each with its file. -/
def complaints (context : Context) : List Complaint := context.diagnostics.map context.complaint

end Context
end StageZero
