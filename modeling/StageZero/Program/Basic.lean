import StageZero.Source.Span

/-! Checked programs: every name is resolved and every expression has a type. -/
namespace StageZero

inductive Ty where
  | void | i64 | string
  /-- The type of what did not check. It agrees with every type. -/
  | unknown
deriving DecidableEq

namespace Ty

def ofName? : String → Option Ty
  | "void" => some .void
  | "i64" => some .i64
  | "String" => some .string
  | _ => none

def display : Ty → String
  | .void => "void"
  | .i64 => "i64"
  | .string => "String"
  | .unknown => "<unknown>"

/-- Whether a value of one type may stand where the other is asked for. -/
def agrees (a b : Ty) : Bool := a == b || a == .unknown || b == .unknown

end Ty

namespace Program

/-- Where a print function writes. -/
inductive Target where
  | output | errors
deriving DecidableEq

/-- The function that prints to a target. -/
def Target.callee : Target → String
  | .output => "println"
  | .errors => "eprintln"

def Target.ofCallee? : String → Option Target
  | "println" => some .output
  | "eprintln" => some .errors
  | _ => none

theorem Target.ofCallee?_callee (target : Target) : ofCallee? target.callee = some target := by
  cases target <;> rfl

inductive Expression where
  | call (callee : String) (type : Ty)
  /-- The pieces of text around the arguments, of which there is one more than arguments. -/
  | print (target : Target) (pieces : List String) (arguments : List Expression)
  | variable (name : String) (type : Ty)
  | number (value : Int)
  | quotation (text : String)
  | garbage

def Expression.type : Expression → Ty
  | .call _ type | .variable _ type => type
  | .print .. => .void
  | .number _ => .i64
  | .quotation _ => .string
  | .garbage => .unknown

inductive Statement where
  | let (name : String) (type : Ty) (initial : Expression) (span : Span)
  | return (value : Option Expression) (span : Span)
  | expression (value : Expression) (span : Span)

def Statement.span : Statement → Span
  | .let _ _ _ span | .return _ span | .expression _ span => span

structure Function where
  name : String
  returnType : Ty
  body : List Statement

end Program

structure Program where
  functions : List Program.Function

def Program.function? (program : Program) (name : String) : Option Program.Function :=
  program.functions.find? fun function => function.name = name

end StageZero
