import StageZero.Cxx.Layout
import StageZero.Cxx.Literal
import StageZero.Program.Basic
import StageZero.Source.File

/-! C++ from checked programs. The functions of a program stand in a namespace of their own, and a
global `main` calls the one of that name. -/
namespace StageZero.Cxx
open Program (Expression Statement Function Target)

def typeName : Ty → String
  | .void => "void"
  | .i64 => "std::int64_t"
  | .string => "std::string"
  | .unknown => "auto"

def stream : Target → String
  | .output => "std::cout"
  | .errors => "std::cerr"

def inserted (item : String) : String := " << " ++ item

/-- Pieces and arguments by turns, a piece first; an empty piece is left out. -/
def insertions : List String → List String → String
  | [], _ => ""
  | piece :: pieces, arguments =>
    (if piece = "" then "" else inserted ("\"" ++ escape piece ++ "\"")) ++
      match arguments with
      | [] => insertions pieces []
      | argument :: later => inserted argument ++ insertions pieces later

mutual

def expression : Expression → String
  | .number value => toString value
  | .quotation text => "std::string(\"" ++ escape text ++ "\")"
  | .variable name _ => name
  | .call callee _ => callee ++ "()"
  | .print target pieces arguments =>
    stream target ++ insertions pieces (expressions arguments) ++ inserted "std::endl"
  | .garbage => "/* invalid expression */"

def expressions : List Expression → List String
  | [] => []
  | argument :: later => expression argument :: expressions later

end

def statementLine : Statement → String
  | .let name type initial _ => typeName type ++ " " ++ name ++ " = " ++ expression initial ++ ";"
  | .return none _ => "return;"
  | .return (some value) _ => "return " ++ expression value ++ ";"
  | .expression value _ => expression value ++ ";"

/-- The directive that places the next line at the start of a span, if its file is known. -/
def lineMark (sources : Sources) (span : Span) : List Item :=
  match sources.file? span.file with
  | none => []
  | some file => [.line ("#line " ++ toString (file.lineOf span.start) ++ " \"" ++
      escape file.location.display ++ "\"")]

/-- A statement, behind its line mark when there are sources to refer to. -/
def statement (sources : Option Sources) (statement : Statement) : List Item :=
  (match sources with
    | none => []
    | some sources => lineMark sources statement.span) ++ [.line (statementLine statement)]

def signature (function : Function) : String :=
  typeName function.returnType ++ " " ++ function.name ++ "()"

def definition (sources : Option Sources) (function : Function) : List Item :=
  [.blank, .block (signature function ++ " \x7b") "\x7d" (function.body.flatMap (statement sources))]

/-- The global entry: a number from `main` becomes the exit status. -/
def entry (program : Program) : List Item :=
  match program.function? "main" with
  | none => []
  | some main =>
    let body := if main.returnType = .i64 then [.line "return static_cast<int>(Jakt::main());"]
      else [.line "Jakt::main();", .line "return 0;"]
    [.blank, .block "int main() \x7b" "\x7d" body]

def items (sources : Option Sources) (program : Program) : List Item :=
  [.line "// Generated by the Jakt compiler. Do not edit.", .line "#include <cstdint>",
    .line "#include <iostream>", .line "#include <string>", .blank,
    .block "namespace Jakt \x7b" "\x7d // namespace Jakt"
      (program.functions.map (fun function => .line (signature function ++ ";")) ++
        program.functions.flatMap (definition sources))] ++ entry program

/-- The C++ text of a program, with line marks when sources are given. -/
def emit (sources : Option Sources) (program : Program) : String := layOut (items sources program)

end StageZero.Cxx
