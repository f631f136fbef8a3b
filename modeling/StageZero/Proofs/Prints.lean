import Mathlib.Data.List.Infix
import StageZero.Cxx.Emit
import StageZero.Proofs.Extents
import StageZero.Proofs.Variables

/-! Prints of programs, accepted or not. Each stands where a format does, and its pieces are those around the
placeholders of that format. In C++ the pieces and the arguments are inserted by turns, and none but an empty piece is
left out. -/
namespace StageZero

/-- Where an expression stands in a file: in which function of those that are checked, in which statement of it, and
behind which arguments of prints. -/
structure Position where
  function : Nat
  statement : Nat
  arguments : List Nat

namespace Tree

/-- The expression at some arguments of prints. The format of a print is not one of its arguments. -/
def Expression.at? : List Nat → Expression → Option Expression
  | [], tree => some tree
  | index :: later, .call _ (_ :: items) _ => items[index]?.bind (at? later)
  | _ :: _, _ => none

def File.at? (tree : File) (position : Position) : Option Expression :=
  (tree.functions.filter tree.checks)[position.function]?.bind fun function =>
    function.body[position.statement]?.bind fun statement =>
      statement.value?.bind (Expression.at? position.arguments)

end Tree

namespace Program

/-- The expression that a statement holds, if it holds one. -/
def Statement.value? : Statement → Option Expression
  | .let _ _ value _ | .return (some value) _ | .expression value _ => some value
  | .return none _ => none

def Expression.at? : List Nat → Expression → Option Expression
  | [], value => some value
  | index :: later, .print _ _ arguments => arguments[index]?.bind (at? later)
  | _ :: _, _ => none

end Program

/-- The expression at a position of a program. -/
def Program.at? (program : Program) (position : Position) : Option Expression :=
  program.functions[position.function]?.bind fun function =>
    function.body[position.statement]?.bind fun statement =>
      statement.value?.bind (Expression.at? position.arguments)

/-! ### What stands opposite -/

theorem exists_getElem?_of_forall₂ {α β : Type} {R : α → β → Prop} {items : List α} {others : List β}
    (alike : List.Forall₂ R items others) {index : Nat} {other : β} (there : others[index]? = some other) :
    ∃ item, items[index]? = some item ∧ R item other := by
  induction alike generalizing index with
  | nil => cases there
  | cons first _ ih =>
      cases index with
      | zero =>
          cases there
          exact ⟨_, rfl, first⟩
      | succ index => exact ih there

namespace Tree
variable {results types : String → Option Ty}

-- The induction goes along the path: only a print has arguments in the program, so only there does it go on.
theorem Expression.Becomes.exists_at? {tree : Expression} {value node : Program.Expression}
    (become : tree.Becomes results types value) {path : List Nat} (there : value.at? path = some node) :
    ∃ source, tree.at? path = some source ∧ source.Becomes results types node := by
  induction path generalizing tree value with
  | nil =>
      cases there
      exact ⟨tree, rfl, become⟩
  | cons index later ih =>
      cases become with
      | print _ _ _ each =>
          obtain ⟨argument, found, inside⟩ := Option.bind_eq_some_iff.mp there
          obtain ⟨item, opposite, become⟩ := exists_getElem?_of_forall₂ each found
          obtain ⟨source, at?, become⟩ := ih become inside
          exact ⟨source, Option.bind_eq_some_iff.mpr ⟨item, opposite, at?⟩, become⟩
      | number | quotation | garbage | bound | unbound | call | unknown | unformatted => cases there

theorem Statement.Becomes.exists_value? {tree : Statement} {statement : Program.Statement}
    (become : tree.Becomes results types statement) {value : Program.Expression}
    (held : statement.value? = some value) : ∃ source, tree.value? = some source ∧ source.Becomes results types value := by
  cases become with
  | «let» become | «return» become | expression become =>
      cases held
      exact ⟨_, rfl, become⟩
  | returnNothing => cases held

end Tree

namespace Program

theorem exists_at? (file : FileId) (tree : Tree.File) {position : Position} {node : Expression}
    (there : (check file tree).value.at? position = some node) :
    ∃ source types, tree.at? position = some source ∧ source.Becomes tree.results types node := by
  obtain ⟨result, atFunction, inside⟩ := Option.bind_eq_some_iff.mp there
  obtain ⟨statement, atStatement, inside⟩ := Option.bind_eq_some_iff.mp inside
  obtain ⟨value, held, inside⟩ := Option.bind_eq_some_iff.mp inside
  obtain ⟨function, oppositeFunction, -, statements⟩ := exists_getElem?_of_forall₂ (check_bodies file tree) atFunction
  have become : List.Forall₂ (fun written statement => ∃ types, written.Becomes tree.results types statement)
      function.body result.body := by
    rw [← map_snd_withEarlier [] function.body, ← map_snd_withEarlier [] result.body, List.forall₂_map_left_iff,
      List.forall₂_map_right_iff]
    exact statements.imp fun _ _ known => ⟨_, known.becomes⟩
  obtain ⟨written, oppositeStatement, types, become⟩ := exists_getElem?_of_forall₂ become atStatement
  obtain ⟨opposite, oppositeValue, become⟩ := become.exists_value? held
  obtain ⟨source, oppositeNode, become⟩ := become.exists_at? inside
  refine ⟨source, types, ?_, become⟩
  rw [Tree.File.at?, oppositeFunction, Option.bind_some, oppositeStatement, Option.bind_some, oppositeValue,
    Option.bind_some, oppositeNode]

/-! ### Pieces -/

theorem not_infix_of_placeholders {text : List Char} (clean : placeholders text = 0) : ¬ ['{', '}'] <:+: text := by
  rw [placeholders, List.countP_eq_zero] at clean
  intro inside
  obtain ⟨tail, starts, ends⟩ := List.infix_iff_prefix_suffix.mp inside
  exact clean tail ((List.mem_tails _ _).mpr ends) (List.isPrefixOf_iff_prefix.mpr starts)

theorem joined_eq_intercalate (pieces : List (List Char)) : joined pieces = ['{', '}'].intercalate pieces := by
  fun_induction joined pieces with
  | case1 => rfl
  | case2 piece => simp
  | case3 piece next later ih => rw [ih]; simp

theorem Splits.intercalate_eq {text : String} {pieces : List String}
    (splits : Splits text.toList (pieces.map String.toList)) : "\x7b\x7d".intercalate pieces = text := by
  refine String.toList_injective ?_
  rw [String.toList_intercalate, ← splits.whole, joined_eq_intercalate]
  rfl

end Program

/-! ### Insertions -/

namespace Cxx
open Program (Expression)

/-- What is inserted into a stream. -/
inductive Insertion where
  | piece (text : String)
  | argument (value : Expression)

namespace Insertion

/-- The operand of C++ for an insertion; a piece is a literal. -/
def text : Insertion → String
  | .piece text => "\"" ++ escape text ++ "\""
  | .argument value => expression value

/-- Whether there is anything to insert. -/
def isShown : Insertion → Bool
  | .piece text => text ≠ ""
  | .argument _ => true

def piece? : Insertion → Option String
  | .piece text => some text
  | .argument _ => none

def argument? : Insertion → Option Expression
  | .piece _ => none
  | .argument value => some value

end Insertion

/-- Pieces and arguments by turns, a piece first, and all that is left where one of them ends. -/
def byTurns : List String → List Expression → List Insertion
  | piece :: pieces, argument :: arguments => .piece piece :: .argument argument :: byTurns pieces arguments
  | pieces, [] => pieces.map .piece
  | [], arguments => arguments.map .argument

theorem filterMap_piece? (items : List Insertion) :
    (items.filter Insertion.isShown).filterMap Insertion.piece? =
      (items.filterMap Insertion.piece?).filter (· ≠ "") := by
  induction items with
  | nil => rfl
  | cons item items ih =>
      cases item with
      | argument => exact ih
      | piece text =>
          rw [List.filter_cons, List.filterMap_cons_some (f := Insertion.piece?) rfl, List.filter_cons]
          by_cases empty : text = ""
          · rw [if_neg (by simp [Insertion.isShown, empty]), if_neg (by simp [empty]), ih]
          · rw [if_pos (by simp [Insertion.isShown, empty]), if_pos (by simp [empty]), ← ih]
            rfl

theorem filterMap_argument? (items : List Insertion) :
    (items.filter Insertion.isShown).filterMap Insertion.argument? = items.filterMap Insertion.argument? := by
  rw [List.filterMap_filter]
  refine List.filterMap_congr fun item _ => ?_
  cases item with
  | argument => rfl
  | piece => exact ite_self _

theorem byTurns_pieces (pieces : List String) (arguments : List Expression) :
    (byTurns pieces arguments).filterMap Insertion.piece? = pieces := by
  fun_induction byTurns pieces arguments with
  | case1 piece pieces argument arguments ih => exact congrArg (piece :: ·) ih
  | case2 pieces =>
      rw [List.filterMap_map]
      exact List.filterMap_some
  | case3 arguments _ =>
      rw [List.filterMap_map]
      exact List.filterMap_eq_nil_iff.mpr fun _ _ => rfl

theorem byTurns_arguments (pieces : List String) (arguments : List Expression) :
    (byTurns pieces arguments).filterMap Insertion.argument? = arguments := by
  fun_induction byTurns pieces arguments with
  | case1 piece pieces argument arguments ih => exact congrArg (argument :: ·) ih
  | case2 pieces =>
      rw [List.filterMap_map]
      exact List.filterMap_eq_nil_iff.mpr fun _ _ => rfl
  | case3 arguments _ =>
      rw [List.filterMap_map]
      exact List.filterMap_some

theorem insertions_eq {pieces : List String} {arguments : List Expression}
    (count : pieces.length = arguments.length + 1) :
    insertions pieces (expressions arguments) =
      String.join (((byTurns pieces arguments).filter Insertion.isShown).map fun item => inserted item.text) := by
  have first (piece : String) (items : List Insertion) :
      (if piece = "" then "" else inserted ("\"" ++ escape piece ++ "\"")) ++
          String.join ((items.filter Insertion.isShown).map fun item => inserted item.text) =
        String.join (((Insertion.piece piece :: items).filter Insertion.isShown).map fun item => inserted item.text) := by
    by_cases empty : piece = ""
    · rw [if_pos empty, List.filter_cons_of_neg (by simp [Insertion.isShown, empty]), String.empty_append]
    · rw [if_neg empty, List.filter_cons_of_pos (by simp [Insertion.isShown, empty]), List.map_cons, String.join_cons]
      rfl
  induction arguments generalizing pieces with
  | nil =>
      obtain ⟨piece, rfl⟩ := List.length_eq_one_iff.mp count
      rw [expressions]
      exact first piece []
  | cons argument arguments ih =>
      obtain ⟨piece, pieces, rfl⟩ := List.exists_cons_of_length_eq_add_one count
      rw [expressions, insertions, byTurns, ← first, List.filter_cons_of_pos rfl, List.map_cons, String.join_cons,
        ih (Nat.succ.inj count)]
      rfl

end Cxx

/-- Every print of every program is exact. It stands where a call of a print function does whose format is its pieces
joined up with placeholders, and no piece has a placeholder of its own. In C++ its pieces and arguments are inserted by
turns into the stream of its target, all the arguments and all the pieces that are not empty, in their order. -/
theorem print_exact (file : FileId) (tree : Tree.File) {position : Position} {target : Program.Target}
    {pieces : List String} {arguments : List Program.Expression}
    (there : (check file tree).value.at? position = some (.print target pieces arguments)) :
    (∃ callee formatSpan items span,
        tree.at? position = some (.call callee (.quotation ("\x7b\x7d".intercalate pieces) formatSpan :: items) span) ∧
          Program.Target.ofCallee? callee = some target ∧ items.length = arguments.length) ∧
      pieces.length = arguments.length + 1 ∧ (∀ piece ∈ pieces, ¬ "\x7b\x7d".toList <:+: piece.toList) ∧
      let shown := (Cxx.byTurns pieces arguments).filter Cxx.Insertion.isShown
      Cxx.expression (.print target pieces arguments) =
          Cxx.stream target ++ String.join (shown.map fun item => " << " ++ item.text) ++ " << std::endl" ∧
        shown.filterMap Cxx.Insertion.argument? = arguments ∧
        shown.filterMap Cxx.Insertion.piece? = pieces.filter (· ≠ "") := by
  obtain ⟨source, types, opposite, become⟩ := Program.exists_at? file tree there
  cases become with
  | print prints splits count each =>
      refine ⟨⟨_, _, _, _, splits.intercalate_eq.symm ▸ opposite, prints, each.length_eq⟩, count, ?_, ?_, ?_, ?_⟩
      · exact fun piece member => Program.not_infix_of_placeholders (splits.clean _ (List.mem_map_of_mem member))
      · rw [Cxx.expression, Cxx.insertions_eq count]
        rfl
      · rw [Cxx.filterMap_argument?, Cxx.byTurns_arguments]
      · rw [Cxx.filterMap_piece?, Cxx.byTurns_pieces]

theorem print_exact_nested :
    let place : Span := ⟨⟨0⟩, 0, 1⟩
    let inner : Tree.Expression :=
      .call "eprintln" [.quotation "\x7b\x7d\x7b\x7d!" place, .number 1 place, .variable "x" place] place
    let tree : Tree.File :=
      ⟨[⟨"main", place, none, [.expression (.call "println" [.quotation "\x7b\x7b\x7d\x7d" place, inner] place)]⟩]⟩
    let printed : Program.Expression := .print .errors ["", "", "!"] [.number 1, .garbage]
    tree.at? ⟨0, 0, [0]⟩ = some inner ∧ (check ⟨0⟩ tree).value.at? ⟨0, 0, [0]⟩ = some printed ∧
      Cxx.expression printed = "std::cerr << 1 << /* invalid expression */ << \"!\" << std::endl" := by
  intro place inner tree printed
  have there : (check ⟨0⟩ tree).value.at? ⟨0, 0, [0]⟩ = some printed := rfl
  exact ⟨rfl, there, (print_exact ⟨0⟩ tree there).2.2.2.1.trans (by decide +kernel)⟩

end StageZero
