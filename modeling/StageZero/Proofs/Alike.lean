import Mathlib.Data.List.Forall2
import StageZero.Program.Check
import StageZero.Token.Basic
import StageZero.Tree.Basic

/-! Tokens, trees and programs that are alike but for their places: they are made in the same way, and their
spans are related one by one. What a relation says of spans can be anything that covering keeps. -/
namespace StageZero

/-- A relation that is kept when spans are covered. -/
def Span.Covers (R : Span → Span → Prop) : Prop :=
  ∀ ⦃first other later behind : Span⦄, R first other → R later behind → R (first.cover later) (other.cover behind)

section
variable (R : Span → Span → Prop)

structure Token.Alike (token other : Token) : Prop where
  symbol : token.symbol = other.symbol
  span : R token.span other.span

structure Stream.Alike (stream other : Stream) : Prop where
  tokens : List.Forall₂ (Token.Alike R) stream.tokens other.tokens
  stop : R stream.stop other.stop

structure Hint.Alike (hint other : Hint) : Prop where
  message : hint.message = other.message
  span : R hint.span other.span

structure Diagnostic.Alike (diagnostic other : Diagnostic) : Prop where
  phase : diagnostic.phase = other.phase
  message : diagnostic.message = other.message
  span : R diagnostic.span other.span
  hint : Option.Rel (Hint.Alike R) diagnostic.hint other.hint

/-- Faults that are worded alike. -/
def Fault.Alike {Cause : Type} [Wording Cause] (fault other : Fault Cause) : Prop :=
  fault.diagnostic.Alike R other.diagnostic

namespace Tree

inductive Expression.Alike : Expression → Expression → Prop
  | call {callee items others span place} : List.Forall₂ Alike items others → R span place →
      Alike (.call callee items span) (.call callee others place)
  | variable {name span place} : R span place → Alike (.variable name span) (.variable name place)
  | number {value span place} : R span place → Alike (.number value span) (.number value place)
  | quotation {text span place} : R span place → Alike (.quotation text span) (.quotation text place)
  | garbage {span place} : R span place → Alike (.garbage span) (.garbage place)

inductive Statement.Alike : Statement → Statement → Prop
  | let {name span place initial other} : R span place → initial.Alike R other →
      Alike (.let name span initial) (.let name place other)
  | returnNothing {span place} : R span place → Alike (.return none span) (.return none place)
  | return {value other span place} : value.Alike R other → R span place →
      Alike (.return (some value) span) (.return (some other) place)
  | expression {value other} : value.Alike R other → Alike (.expression value) (.expression other)

structure Named.Alike (named other : Named) : Prop where
  name : named.name = other.name
  span : R named.span other.span

structure Function.Alike (function other : Function) : Prop where
  name : function.name = other.name
  nameSpan : R function.nameSpan other.nameSpan
  returnType : Option.Rel (Named.Alike R) function.returnType other.returnType
  body : List.Forall₂ (Statement.Alike R) function.body other.body

def File.Alike (file other : File) : Prop := List.Forall₂ (Function.Alike R) file.functions other.functions

end Tree

namespace Program

inductive Statement.Alike : Statement → Statement → Prop
  | let {name type initial span place} : R span place →
      Alike (.let name type initial span) (.let name type initial place)
  | return {value span place} : R span place → Alike (.return value span) (.return value place)
  | expression {value span place} : R span place → Alike (.expression value span) (.expression value place)

structure Function.Alike (function other : Function) : Prop where
  name : function.name = other.name
  returnType : function.returnType = other.returnType
  body : List.Forall₂ (Statement.Alike R) function.body other.body

end Program

def Program.Alike (program other : Program) : Prop :=
  List.Forall₂ (Program.Function.Alike R) program.functions other.functions

end

variable {R : Span → Span → Prop}

/-! ### Expressions -/

namespace Tree.Expression.Alike

/-- Induction along two expressions that are alike, one by one along the arguments of a call. -/
theorem induct {motive : Expression → Expression → Prop}
    (call : ∀ {callee items others span place},
      List.Forall₂ (fun item other => item.Alike R other ∧ motive item other) items others → R span place →
        motive (.call callee items span) (.call callee others place))
    (name : ∀ {name span place}, R span place → motive (.variable name span) (.variable name place))
    (number : ∀ {value span place}, R span place → motive (.number value span) (.number value place))
    (quotation : ∀ {text span place}, R span place → motive (.quotation text span) (.quotation text place))
    (garbage : ∀ {span place}, R span place → motive (.garbage span) (.garbage place))
    {tree other : Expression} (alike : tree.Alike R other) : motive tree other := by
  refine @Alike.rec R (fun tree other _ => motive tree other)
    (fun items others _ => List.Forall₂ (fun item other => item.Alike R other ∧ motive item other) items others)
    ?call ?name ?number ?quotation ?garbage ?nil ?cons _ _ alike
  case call => exact fun _ near ih => call ih near
  case name => exact fun near => name near
  case number => exact fun near => number near
  case quotation => exact fun near => quotation near
  case garbage => exact fun near => garbage near
  case nil => exact .nil
  case cons => exact fun item _ ih ihLater => .cons ⟨item, ih⟩ ihLater

theorem span {tree other : Expression} (alike : tree.Alike R other) : R tree.span other.span := by
  cases alike <;> assumption

end Tree.Expression.Alike

theorem Tree.Statement.Alike.span (covers : Span.Covers R) {statement other : Statement}
    (alike : statement.Alike R other) : R statement.span other.span := by
  cases alike with
  | «let» near initial => exact covers near initial.span
  | returnNothing near | «return» _ near => exact near
  | expression value => exact value.span

theorem Program.Statement.Alike.span {statement other : Program.Statement} (alike : statement.Alike R other) :
    R statement.span other.span := by
  cases alike <;> assumption

end StageZero
