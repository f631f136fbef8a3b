import StageZero.Proofs.Checking

/-! What becomes of a tree in its program, also where it does not check. An expression keeps its place or leaves garbage
there. What it becomes depends on the results of functions and the types of variables only. -/
namespace StageZero
namespace Tree
open Program (Splits Target placeholders)

/-- What becomes of an expression where functions have some results and variables some types, or none. Of a call that
does not check nothing is left, and a call of a function leaves its arguments out. -/
inductive Expression.Becomes (results types : String → Option Ty) : Expression → Program.Expression → Prop
  | number {value span} : Becomes results types (.number value span) (.number value)
  | quotation {text span} : Becomes results types (.quotation text span) (.quotation text)
  | garbage {span} : Becomes results types (.garbage span) .garbage
  | bound {name type span} : types name = some type →
      Becomes results types (.variable name span) (.variable name type)
  | unbound {name span} : types name = none → Becomes results types (.variable name span) .garbage
  | call {callee type items span} : Target.ofCallee? callee = none → results callee = some type →
      Becomes results types (.call callee items span) (.call callee type)
  | unknown {callee items span} : Target.ofCallee? callee = none → results callee = none →
      Becomes results types (.call callee items span) .garbage
  | print {callee target text textSpan items pieces arguments span} : Target.ofCallee? callee = some target →
      Splits text.toList (pieces.map String.toList) → pieces.length = arguments.length + 1 →
      List.Forall₂ (Becomes results types) items arguments →
      Becomes results types (.call callee (.quotation text textSpan :: items) span) (.print target pieces arguments)
  | unformatted {callee target items span} : Target.ofCallee? callee = some target →
      (∀ text textSpan arguments, items = .quotation text textSpan :: arguments →
        placeholders text.toList ≠ arguments.length) →
      Becomes results types (.call callee items span) .garbage

/-- What becomes of a statement. A binding has the type of what is bound. -/
inductive Statement.Becomes (results types : String → Option Ty) : Statement → Program.Statement → Prop
  | let {name nameSpan initial value} : initial.Becomes results types value →
      Becomes results types (.let name nameSpan initial) (.let name value.type value (nameSpan.cover initial.span))
  | returnNothing {span} : Becomes results types (.return none span) (.return none span)
  | return {tree value span} : tree.Becomes results types value →
      Becomes results types (.return (some tree) span) (.return (some value) span)
  | expression {tree value} : tree.Becomes results types value →
      Becomes results types (.expression tree) (.expression value tree.span)

end Tree

namespace Program

/-- The return types of the functions that are declared. -/
def Signatures.results (signatures : Signatures) (name : String) : Option Ty :=
  (signatures.lookup name).map Signature.returnType

/-- The types of the variables in scope. -/
def Scope.types (scope : Scope) (name : String) : Option Ty := (scope.lookup name).map Binding.type

variable {signatures : Signatures} {scope : Scope}

theorem checkCall_becomes {types : String → Option Ty} {callee : String} (other : Target.ofCallee? callee = none)
    (items : List Tree.Expression) (arguments : List Argument) (span : Span) :
    (Tree.Expression.call callee items span).Becomes signatures.results types
      (checkCall signatures callee arguments span).value := by
  unfold checkCall
  cases found : signatures.lookup callee with
  | none => exact .unknown other (by rw [Signatures.results, found, Option.map_none])
  | some signature => exact .call other (by rw [Signatures.results, found, Option.map_some])

theorem checkPrint_becomes {results types : String → Option Ty} {callee : String} {target : Target}
    (prints : Target.ofCallee? callee = some target) (format : Tree.Expression) {items : List Tree.Expression}
    {arguments : List Argument} (span : Span)
    (become : List.Forall₂ (Tree.Expression.Becomes results types) items
      (arguments.map fun argument => argument.checked.value)) :
    (Tree.Expression.call callee (format :: items) span).Becomes results types
      (checkPrint target format arguments).value := by
  have count : items.length = arguments.length := become.length_eq.trans (List.length_map _)
  unfold checkPrint
  cases format with
  | quotation text textSpan =>
      dsimp only
      rw [length_pieces, Nat.add_sub_cancel]
      split
      case isTrue arity =>
        refine .print prints (splits_pieces text) ?_ become
        rw [List.length_map, ← arity, length_pieces]
      case isFalse arity =>
        refine .unformatted prints ?_
        rintro _ _ _ ⟨rfl⟩
        rwa [count]
  | call | «variable» | number | garbage => exact .unformatted prints nofun

mutual

theorem checkExpression_becomes (tree : Tree.Expression) :
    tree.Becomes signatures.results scope.types (checkExpression signatures scope tree).value := by
  cases tree with
  | number =>
      rw [checkExpression]
      exact .number
  | quotation =>
      rw [checkExpression]
      exact .quotation
  | garbage =>
      rw [checkExpression]
      exact .garbage
  | «variable» name span =>
      rw [checkExpression]
      cases found : scope.lookup name with
      | some binding => exact .bound (by rw [Scope.types, found, Option.map_some])
      | none => exact .unbound (by rw [Scope.types, found, Option.map_none])
  | call callee items span =>
      have become := checkArguments_become items
      rw [checkExpression]
      cases target : Target.ofCallee? callee with
      | none => exact checkCall_becomes target items _ span
      | some _ =>
          cases items with
          | nil => exact .unformatted target nofun
          | cons format items =>
              rw [checkArguments] at become ⊢
              exact checkPrint_becomes target format span (List.forall₂_cons.mp become).2

theorem checkArguments_become (items : List Tree.Expression) :
    List.Forall₂ (Tree.Expression.Becomes signatures.results scope.types) items
      ((checkArguments signatures scope items).map fun argument => argument.checked.value) := by
  cases items with
  | nil =>
      rw [checkArguments]
      exact .nil
  | cons item items =>
      rw [checkArguments]
      exact .cons (checkExpression_becomes item) (checkArguments_become items)

end

theorem checkStatement_becomes (signatures : Signatures) (returnType : Ty) (scope : Scope) (tree : Tree.Statement) :
    tree.Becomes signatures.results scope.types (checkStatement signatures returnType scope tree).statement := by
  cases tree with
  | «let» name nameSpan initial => exact .let (checkExpression_becomes initial)
  | «return» value span =>
      cases value with
      | none => exact .returnNothing
      | some value => exact .return (checkExpression_becomes value)
  | expression value => exact .expression (checkExpression_becomes value)

end Program
end StageZero
