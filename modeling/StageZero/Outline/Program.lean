import StageZero.Outline.Tree
import StageZero.Program.Basic

/-! Outlines of checked programs. -/
namespace StageZero

def Ty.outline : Ty → Outline
  | .void => .atom "Void"
  | .i64 => .atom "I64"
  | .string => .atom "String"
  | .unknown => .atom "Unknown"

namespace Program

def Target.outline : Target → Outline
  | .output => .atom "Stdout"
  | .errors => .atom "Stderr"

mutual

def Expression.outline : Expression → Outline
  | .call callee type => .record "Call" [("name", .text callee), ("ty", type.outline)]
  | .print target pieces arguments =>
    .record "Print" [("target", target.outline), ("pieces", .list (pieces.map .text)),
      ("args", .list (Expression.outlines arguments))]
  | .variable name type => .record "Var" [("name", .text name), ("ty", type.outline)]
  | .number value => .tuple "Number" [.int value]
  | .quotation text => .tuple "QuotedString" [.text text]
  | .garbage => .atom "Garbage"

def Expression.outlines : List Expression → List Outline
  | [] => []
  | argument :: later => argument.outline :: Expression.outlines later

end

def Statement.outline : Statement → Outline
  | .let name type initial span =>
    .record "Let" [("name", .text name), ("ty", type.outline), ("init", initial.outline),
      ("span", span.outline)]
  | .return value span =>
    .record "Return" [("value", .option (value.map Expression.outline)), ("span", span.outline)]
  | .expression value span =>
    .record "Expression" [("expr", value.outline), ("span", span.outline)]

def Function.outline (function : Function) : Outline :=
  .record "CheckedFunction" [("name", .text function.name),
    ("return_type", function.returnType.outline),
    ("body", .list (function.body.map Statement.outline))]

end Program

def Program.outline (program : Program) : Outline :=
  .record "CheckedProgram" [("functions", .list (program.functions.map Program.Function.outline))]

end StageZero
