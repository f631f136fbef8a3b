/-! What can be asked for on the command line, and the letters and names it is asked for by. -/
namespace StageZero

/-- What is either asked for or not. -/
inductive Switch where
  | showTokens | showTree | showProgram
  | build | run | lineMarks
  | summary | prettify
deriving DecidableEq

/-- What is given a path. -/
inductive Setting where
  | formatter | style | runtime | outputs | compiler
deriving DecidableEq

inductive Key where
  | switch (switch : Switch)
  | setting (setting : Setting)
  | version
  | help
deriving DecidableEq

namespace Switch

def letter? : Switch → Option Char
  | .showTokens => some 'l'
  | .showTree => some 'p'
  | .showProgram => some 't'
  | .build => some 'b'
  | .run => some 'r'
  | .lineMarks => some 'd'
  | .summary | .prettify => none

def name? : Switch → Option String
  | .summary => some "debug-print"
  | .prettify => some "prettify-cpp-source"
  | _ => none

def all : List Switch :=
  [.showTokens, .showTree, .showProgram, .build, .run, .lineMarks, .summary, .prettify]

end Switch

namespace Setting

def letter : Setting → Char
  | .formatter => 'F'
  | .style => 'D'
  | .runtime => 'R'
  | .outputs => 'o'
  | .compiler => 'C'

def name : Setting → String
  | .formatter => "clang-format-path"
  | .style => "dot-clang-format-path"
  | .runtime => "runtime-path"
  | .outputs => "binary-dir"
  | .compiler => "cxx-compiler-path"

def all : List Setting := [.formatter, .style, .runtime, .outputs, .compiler]

end Setting

namespace Key

/-- The letter that stands behind one dash. -/
def letter? : Key → Option Char
  | .switch s => s.letter?
  | .setting s => some s.letter
  | .version => some 'v'
  | .help => some 'h'

/-- The name that stands behind two dashes. -/
def name? : Key → Option String
  | .switch s => s.name?
  | .setting s => some s.name
  | .version => some "version"
  | .help => some "help"

def all : List Key := Switch.all.map .switch ++ Setting.all.map .setting ++ [.version, .help]

def ofLetter? (letter : Char) : Option Key := all.find? fun key => key.letter? = some letter

def ofName? (name : String) : Option Key := all.find? fun key => key.name? = some name

/-- No two keys share a letter. -/
theorem ofLetter?_letter (key : Key) (letter : Char) (short : key.letter? = some letter) :
    ofLetter? letter = some key := by
  cases key with
  | switch s => cases s <;> cases short <;> decide
  | setting s => cases s <;> cases short <;> decide
  | version => cases short; decide
  | help => cases short; decide

/-- No two keys share a name. -/
theorem ofName?_name (key : Key) (name : String) (long : key.name? = some name) :
    ofName? name = some key := by
  cases key with
  | switch s => cases s <;> cases long <;> decide
  | setting s => cases s <;> cases long <;> decide
  | version => cases long; decide
  | help => cases long; decide

/-- How a key is shown: by its name if it has one. -/
def display (key : Key) : String :=
  let spelled :=
    match key.name?, key.letter? with
    | some name, _ => "--" ++ name
    | none, some letter => "-" ++ letter.toString
    | none, none => ""
  match key with
  | .setting _ => spelled ++ " <PATH>"
  | .switch _ | .version | .help => spelled

end Key
end StageZero
