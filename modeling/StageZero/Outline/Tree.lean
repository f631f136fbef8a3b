import StageZero.Outline.Basic
import StageZero.Tree.Basic

/-! Outlines of spans and trees. -/
namespace StageZero

def Span.outline (span : Span) : Outline :=
  .record "Span" [("file_id", .tuple "FileId" [.nat span.file.index]), ("start", .nat span.start),
    ("end", .nat span.stop)]

namespace Tree

mutual

def Expression.outline : Expression → Outline
  | .call callee arguments span =>
    .record "Call" [("name", .text callee), ("args", .list (Expression.outlines arguments)),
      ("span", span.outline)]
  | .variable name span => .tuple "Var" [.text name, span.outline]
  | .number value span => .tuple "Number" [.int value, span.outline]
  | .quotation text span => .tuple "QuotedString" [.text text, span.outline]
  | .garbage span => .tuple "Garbage" [span.outline]

def Expression.outlines : List Expression → List Outline
  | [] => []
  | argument :: later => argument.outline :: Expression.outlines later

end

def Statement.outline : Statement → Outline
  | .let name nameSpan initial =>
    .record "Let" [("name", .text name), ("name_span", nameSpan.outline), ("init", initial.outline)]
  | .return value span =>
    .record "Return" [("value", .option (value.map Expression.outline)), ("span", span.outline)]
  | .expression value => .tuple "Expression" [value.outline]

def Named.outline (named : Named) : Outline := .tuple "" [.text named.name, named.span.outline]

def Function.outline (function : Function) : Outline :=
  .record "ParsedFunction" [("name", .text function.name), ("name_span", function.nameSpan.outline),
    ("return_type", .option (function.returnType.map Named.outline)),
    ("body", .record "ParsedBlock" [("statements", .list (function.body.map Statement.outline))])]

def File.outline (file : File) : Outline :=
  .record "ParsedFile" [("functions", .list (file.functions.map Function.outline))]

end Tree
end StageZero
