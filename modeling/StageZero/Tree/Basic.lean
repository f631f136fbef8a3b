import StageZero.Source.Span

/-! The tree of a source file: functions, the statements in them, and expressions. -/
namespace StageZero.Tree

inductive Expression where
  | call (callee : String) (arguments : List Expression) (span : Span)
  | variable (name : String) (span : Span)
  | number (value : Int) (span : Span)
  | quotation (text : String) (span : Span)
  /-- Stands where no expression could be read. -/
  | garbage (span : Span)

namespace Expression

def span : Expression → Span
  | .call _ _ span | .variable _ span | .number _ span | .quotation _ span | .garbage span => span

end Expression

inductive Statement where
  | let (name : String) (nameSpan : Span) (initial : Expression)
  | return (value : Option Expression) (span : Span)
  | expression (value : Expression)

/-- A binding runs from its name, not from its keyword. -/
def Statement.span : Statement → Span
  | .let _ nameSpan initial => nameSpan.cover initial.span
  | .return _ span => span
  | .expression value => value.span

/-- A name where it is written. -/
structure Named where
  name : String
  span : Span

structure Function where
  name : String
  nameSpan : Span
  /-- The type after the arrow, if there is an arrow. -/
  returnType : Option Named
  body : List Statement

structure File where
  functions : List Function

end StageZero.Tree
