import Mathlib.Data.List.Basic
import StageZero.Proofs.Grammar

/-! The leaves of trees: the numbers and the string literals in them. They are those among the tokens, in their
order. -/
namespace StageZero

def Symbol.isLeaf : Symbol → Bool
  | .number _ | .quotation _ => true
  | _ => false

def Token.leaves (tokens : List Token) : List Symbol := (tokens.map Token.symbol).filter Symbol.isLeaf

namespace Tree

mutual

def Expression.leaves : Expression → List Symbol
  | .number value _ => [.number value]
  | .quotation text _ => [.quotation text]
  | .call _ arguments _ => leavesAll arguments
  | .variable .. | .garbage _ => []

def leavesAll : List Expression → List Symbol
  | [] => []
  | argument :: later => argument.leaves ++ leavesAll later

end

def Statement.leaves : Statement → List Symbol
  | .let _ _ initial => initial.leaves
  | .return none _ => []
  | .return (some value) _ | .expression value => value.leaves

def Function.leaves (function : Function) : List Symbol := function.body.flatMap Statement.leaves

def File.leaves (file : File) : List Symbol := file.functions.flatMap Function.leaves

end Tree

/-- What is picked from leaves alone is picked from the tokens. -/
theorem Token.filterMap_leaves {α : Type} {pick : Symbol → Option α}
    (leafy : ∀ symbol, symbol.isLeaf = false → pick symbol = none) (tokens : List Token) :
    (leaves tokens).filterMap pick = tokens.filterMap fun token => pick token.symbol := by
  rw [leaves, List.filterMap_filter, List.filterMap_map]
  refine List.filterMap_congr fun token _ => ?_
  rw [Function.comp_apply]
  split
  case isTrue => rfl
  case isFalse other => exact (leafy _ (Bool.eq_false_iff.mpr other)).symm

theorem Token.leaves_append (front back : List Token) : leaves (front ++ back) = leaves front ++ leaves back := by
  rw [leaves, List.map_append, List.filter_append, leaves, leaves]

namespace Tree.Grammar

theorem Newlines.leaves_eq {gap : List Token} (newlines : Newlines gap) : Token.leaves gap = [] := by
  refine List.filter_eq_nil_iff.mpr (List.forall_mem_map.mpr fun token member => ?_)
  rw [newlines token member]
  exact Bool.false_ne_true

theorem Separators.leaves_eq {gap : List Token} (separators : Separators gap) : Token.leaves gap = [] := by
  refine List.filter_eq_nil_iff.mpr (List.forall_mem_map.mpr fun token member => ?_)
  rcases separators token member with same | same <;> rw [same] <;> exact Bool.false_ne_true

theorem Expression.leaves_eq {tokens : List Token} {tree : Tree.Expression} (derived : Expression tokens tree) :
    Token.leaves tokens = tree.leaves := by
  refine @Expression.rec (fun tokens tree _ => Token.leaves tokens = tree.leaves)
    (fun tokens items _ => Token.leaves tokens = Tree.leavesAll items)
    (fun tokens items _ => Token.leaves tokens = Tree.leavesAll items)
    ?number ?quotation ?garbage ?name ?call ?none ?some ?last ?more _ _ derived
  case number | quotation | garbage | name => intros; rw [Tree.Expression.leaves]; rfl
  case call =>
    intro name span opening gap tokens items closing newlines _ ih
    change Token.leaves (gap ++ tokens ++ [⟨.closeParen, closing⟩]) = _
    rw [Token.leaves_append, Token.leaves_append, newlines.leaves_eq, ih, Tree.Expression.leaves]
    exact List.append_nil _
  case none => rw [Tree.leavesAll]; rfl
  case some => exact fun _ ih => ih
  case last =>
    intro tokens item gap _ newlines ih
    rw [Token.leaves_append, newlines.leaves_eq, ih, Tree.leavesAll, Tree.leavesAll]
  case more =>
    intro tokens item gap comma next rest items _ newlines behind _ ih ihLater
    rw [Token.leaves_append, Token.leaves_append, newlines.leaves_eq, ih, List.append_nil, Tree.leavesAll]
    change item.leaves ++ Token.leaves (next ++ rest) = _
    rw [Token.leaves_append, behind.leaves_eq, ihLater, List.nil_append]

theorem Statement.leaves_eq {tokens : List Token} {statement : Tree.Statement}
    (derived : Statement tokens statement) : Token.leaves tokens = statement.leaves := by
  cases derived with
  | «let» value | «return» value | expression value => exact value.leaves_eq
  | returnNothing => rfl

theorem Statements.leaves_eq {tokens : List Token} {statements : List Tree.Statement}
    (derived : Statements tokens statements) : Token.leaves tokens = statements.flatMap Tree.Statement.leaves := by
  induction derived with
  | last statement separators =>
      rw [Token.leaves_append, separators.leaves_eq, statement.leaves_eq, List.flatMap_singleton, List.append_nil]
  | more statement separators _ _ ih =>
      rw [Token.leaves_append, Token.leaves_append, separators.leaves_eq, statement.leaves_eq, ih, List.append_nil,
        List.flatMap_cons]

theorem Block.leaves_eq {tokens : List Token} {body : List Tree.Statement} (derived : Block tokens body) :
    Token.leaves tokens = body.flatMap Tree.Statement.leaves := by
  cases derived with
  | @empty opening gap closing separators =>
      change Token.leaves (gap ++ [⟨.closeBrace, closing⟩]) = _
      rw [Token.leaves_append, separators.leaves_eq]
      rfl
  | @full opening gap tokens statements closing separators listed =>
      change Token.leaves (gap ++ tokens ++ [⟨.closeBrace, closing⟩]) = _
      rw [Token.leaves_append, Token.leaves_append, separators.leaves_eq, listed.leaves_eq]
      exact List.append_nil _

theorem Function.leaves_eq {tokens : List Token} {function : Tree.Function} (derived : Function tokens function) :
    Token.leaves tokens = function.leaves := by
  cases derived with
  | @plain start name span opening closing gap tokens body newlines block =>
      change Token.leaves (gap ++ tokens) = _
      rw [Token.leaves_append, newlines.leaves_eq, block.leaves_eq]
      rfl
  | @typed start name span opening closing arrow type typeSpan gap tokens body newlines block =>
      change Token.leaves (gap ++ tokens) = _
      rw [Token.leaves_append, newlines.leaves_eq, block.leaves_eq]
      rfl

theorem Functions.leaves_eq {tokens : List Token} {functions : List Tree.Function}
    (derived : Functions tokens functions) : Token.leaves tokens = functions.flatMap Tree.Function.leaves := by
  induction derived with
  | none => rfl
  | more function newlines _ ih =>
      rw [Token.leaves_append, Token.leaves_append, newlines.leaves_eq, function.leaves_eq, ih, List.append_nil,
        List.flatMap_cons]

/-- A derivation loses no leaf and adds none. -/
theorem File.leaves_eq {tokens : List Token} {file : Tree.File} (derived : File tokens file) :
    Token.leaves tokens = file.leaves := by
  obtain ⟨newlines, functions⟩ := derived
  rw [Token.leaves_append, newlines.leaves_eq, functions.leaves_eq]
  rfl

end Tree.Grammar
end StageZero
