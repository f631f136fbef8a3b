import StageZero.CommandLine.Usage

/-! Reading the words of a command line, from left to right. A value or file that stands in a word
of its own is judged when the next word is read, and an unknown word is reported before that. -/
namespace StageZero

/-- What a word looks like. -/
inductive Word where
  /-- Two dashes alone: every later word is a file. -/
  | separator
  /-- Two dashes, a name and what stands behind an equals sign. -/
  | long (name : String) (value : Option String)
  /-- One dash and letters. -/
  | short (letters : List Char)
  | plain (text : String)
deriving DecidableEq

/-- One dash alone is plain. -/
def Word.ofChars : List Char → Word
  | ['-', '-'] => .separator
  | '-' :: '-' :: rest =>
    let name := String.ofList (rest.takeWhile (· ≠ '='))
    match rest.dropWhile (· ≠ '=') with
    | [] => .long name none
    | _ :: value => .long name (some (String.ofList value))
  | '-' :: letter :: letters => .short (letter :: letters)
  | text => .plain (String.ofList text)

structure Request where
  switches : List Switch := []
  settings : List (Setting × String) := []
  files : List String := []
deriving DecidableEq

/-- Why reading stops before the last word. -/
inductive Stop where
  | help
  | version
  | misuse (misuse : Misuse)
deriving DecidableEq

namespace Request

def turnOn (request : Request) (switch : Switch) : Except Stop Request :=
  if switch ∈ request.switches then .error (.misuse (.repeated (.switch switch)))
  else .ok { request with switches := request.switches ++ [switch] }

def value? (request : Request) (setting : Setting) : Option String :=
  request.settings.lookup setting

/-- An empty value is as good as none, but what has a value takes no other, not even an empty one. -/
def give (request : Request) (setting : Setting) (value : String) : Except Stop Request :=
  if (request.value? setting).isSome then .error (.misuse (.repeated (.setting setting)))
  else if value = "" then .error (.misuse (.missingValue setting))
  else .ok { request with settings := request.settings ++ [(setting, value)] }

def addFiles (request : Request) (files : List String) : Except Stop Request :=
  if "" ∈ files then .error (.misuse .emptyFile)
  else .ok { request with files := request.files ++ files }

end Request

/-- What the words up to here leave open. -/
inductive Pending where
  | nothing
  /-- A setting whose value is to be the next word. -/
  | value (setting : Setting)
  | given (setting : Setting) (value : String)
  | files (files : List String)
deriving DecidableEq

/-- A command line of which some words are read. -/
structure Reader where
  request : Request := {}
  pending : Pending := .nothing

namespace Reader

/-- Judges what is open. -/
def settle (reader : Reader) : Except Stop Request :=
  match reader.pending with
  | .nothing => .ok reader.request
  | .value setting => .error (.misuse (.missingValue setting))
  | .given setting value => reader.request.give setting value
  | .files files => reader.request.addFiles files

/-- Settles, goes on with the request and leaves nothing open. -/
def settleWith (reader : Reader) (next : Request → Except Stop Request) : Except Stop Reader := do
  let request ← reader.settle
  return ⟨← next request, .nothing⟩

/-- Settles and leaves something else open. -/
def settleThen (reader : Reader) (pending : Pending) : Except Stop Reader := do
  return ⟨← reader.settle, pending⟩

/-- Takes a key that has no value in its own word. -/
def takeKey (reader : Reader) : Key → Except Stop Reader
  | .switch switch => reader.settleWith fun request => request.turnOn switch
  | .setting setting => reader.settleThen (.value setting)
  | .version => reader.settleWith fun _ => .error .version
  | .help => reader.settleWith fun _ => .error .help

/-- Takes letters up to the first setting, whose value is the rest of the word. -/
def takeLetters (reader : Reader) : List Char → Except Stop Reader
  | [] => .ok reader
  | letter :: rest =>
    match Key.ofLetter? letter, rest with
    | none, _ => .error (.misuse (.unexpected ("-" ++ letter.toString)))
    | some (.setting setting), '=' :: value =>
      reader.settleWith fun request => request.give setting (String.ofList value)
    | some (.setting setting), first :: value =>
      reader.settleWith fun request => request.give setting (String.ofList (first :: value))
    | some key, _ => do
      (← reader.takeKey key).takeLetters rest

/-- Takes a name and the value in its own word, if there is one. -/
def takeLong (reader : Reader) (name : String) (value : Option String) : Except Stop Reader :=
  match Key.ofName? name, value with
  | none, _ => .error (.misuse (.unexpected ("--" ++ name)))
  | some key, none => reader.takeKey key
  | some (.setting setting), some value =>
    reader.settleWith fun request => request.give setting value
  | some key, some value => .error (.misuse (.surplus key value))

/-- Takes a word as the value that is waited for, or else as a file. -/
def takePlain (reader : Reader) (text : String) : Except Stop Reader :=
  match reader.pending with
  | .value setting => .ok { reader with pending := .given setting text }
  | .files files => .ok { reader with pending := .files (files ++ [text]) }
  | .nothing | .given .. => reader.settleThen (.files [text])

def read (reader : Reader) : List String → Except Stop Request
  | [] => reader.settle
  | word :: later => do
    match Word.ofChars word.toList with
    | .separator => (← reader.settle).addFiles later
    | .long name value => (← reader.takeLong name value).read later
    | .short letters => (← reader.takeLetters letters).read later
    | .plain text => (← reader.takePlain text).read later

end Reader

def Request.ofWords (words : List String) : Except Stop Request := Reader.read {} words

end StageZero
