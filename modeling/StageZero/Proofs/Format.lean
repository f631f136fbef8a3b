import Mathlib.Data.List.Basic
import StageZero.Program.Format

/-! Formats against what a placeholder is: the two braces, wherever they stand next to each other. -/
namespace StageZero.Program

/-- The number of places where a placeholder starts. -/
def placeholders (text : List Char) : Nat := text.tails.countP fun tail => ['{', '}'].isPrefixOf tail

theorem placeholders_open_close (rest : List Char) :
    placeholders ('{' :: '}' :: rest) = placeholders rest + 1 := by
  simp [placeholders, List.isPrefixOf]

theorem placeholders_cons {c : Char} {rest : List Char}
    (other : ∀ later, c :: rest = '{' :: '}' :: later → False) :
    placeholders (c :: rest) = placeholders rest := by
  have notHere : ['{', '}'].isPrefixOf (c :: rest) = false := by
    rw [Bool.eq_false_iff]
    intro starts
    obtain ⟨later, whole⟩ := List.isPrefixOf_iff_prefix.mp starts
    exact other later whole.symm
  exact List.countP_cons_of_neg (Bool.eq_false_iff.mp notHere)

/-- There is one more piece than placeholders. -/
theorem length_piecesOf (text : List Char) : (piecesOf text).length = placeholders text + 1 := by
  fun_induction piecesOf text with
  | case1 => rfl
  | case2 rest ih => rw [placeholders_open_close, List.length_cons, ih]
  | case3 c rest _ nothing => exact absurd nothing (piecesOf_ne_nil rest)
  | case4 c rest other piece later shape ih =>
      rw [placeholders_cons, ← ih, shape, List.length_cons, List.length_cons]
      rintro more same
      obtain ⟨rfl, rfl⟩ := List.cons_eq_cons.mp same
      exact other more rfl rfl

/-- Pieces of some text, without placeholders of their own. -/
structure Splits (text : List Char) (pieces : List (List Char)) : Prop where
  nonempty : pieces ≠ []
  whole : joined pieces = text
  clean : ∀ piece ∈ pieces, placeholders piece = 0

theorem joined_cons (c : Char) (piece : List Char) (later : List (List Char)) :
    joined ((c :: piece) :: later) = c :: joined (piece :: later) := by
  cases later with
  | nil | cons => rfl

theorem placeholders_of_mem_piecesOf {text piece : List Char} (member : piece ∈ piecesOf text) :
    placeholders piece = 0 := by
  fun_induction piecesOf text generalizing piece with
  | case1 =>
      rw [List.mem_singleton.mp member]
      rfl
  | case2 rest ih =>
      rcases List.mem_cons.mp member with rfl | later
      · rfl
      · exact ih later
  | case3 c rest _ nothing => exact absurd nothing (piecesOf_ne_nil rest)
  | case4 c rest other first later shape ih =>
      rw [shape] at ih
      rcases List.mem_cons.mp member with rfl | behind
      · rw [placeholders_cons]
        · exact ih (List.mem_cons_self ..)
        · rintro more same
          obtain ⟨rfl, rfl⟩ := List.cons_eq_cons.mp same
          have whole := joined_piecesOf rest
          rw [shape, joined_cons] at whole
          exact other _ rfl whole.symm
      · exact ih (List.mem_cons_of_mem _ behind)

theorem splits_piecesOf (text : List Char) : Splits text (piecesOf text) where
  nonempty := piecesOf_ne_nil text
  whole := joined_piecesOf text
  clean _ := placeholders_of_mem_piecesOf

theorem placeholders_cons_eq_zero {c : Char} {rest : List Char} (clean : placeholders (c :: rest) = 0) :
    (∀ later, c :: rest = '{' :: '}' :: later → False) ∧ placeholders rest = 0 := by
  have other : ∀ later, c :: rest = '{' :: '}' :: later → False := by
    intro later same
    rw [same, placeholders_open_close] at clean
    exact absurd clean (Nat.succ_ne_zero _)
  exact ⟨other, placeholders_cons other ▸ clean⟩

theorem piecesOf_cons {c : Char} {rest piece : List Char} {later : List (List Char)}
    (other : ∀ later, c :: rest = '{' :: '}' :: later → False) (shape : piecesOf rest = piece :: later) :
    piecesOf (c :: rest) = (c :: piece) :: later := by
  rw [piecesOf, shape]
  rintro more rfl rfl
  exact other more rfl

theorem piecesOf_of_clean {piece : List Char} (clean : placeholders piece = 0) :
    piecesOf piece = [piece] := by
  induction piece with
  | nil => rfl
  | cons c piece ih =>
      obtain ⟨other, cleanLater⟩ := placeholders_cons_eq_zero clean
      exact piecesOf_cons other (ih cleanLater)

theorem piecesOf_append {piece : List Char} (clean : placeholders piece = 0) (rest : List Char) :
    piecesOf (piece ++ '{' :: '}' :: rest) = piece :: piecesOf rest := by
  induction piece with
  | nil => rw [List.nil_append, piecesOf]
  | cons c piece ih =>
      obtain ⟨other, cleanLater⟩ := placeholders_cons_eq_zero clean
      refine piecesOf_cons ?_ (ih cleanLater)
      intro later same
      cases piece with
      | nil => exact absurd (List.cons_eq_cons.mp (List.cons_eq_cons.mp same).2).1 (by decide)
      | cons d piece =>
          obtain ⟨rfl, behind⟩ := List.cons_eq_cons.mp same
          obtain ⟨rfl, -⟩ := List.cons_eq_cons.mp behind
          exact other piece rfl

/-- There is one way to split. -/
theorem Splits.piecesOf_eq {text : List Char} {pieces : List (List Char)} (splits : Splits text pieces) :
    piecesOf text = pieces := by
  obtain ⟨nonempty, rfl, clean⟩ := splits
  induction pieces with
  | nil => exact absurd rfl nonempty
  | cons piece later ih =>
      have cleanPiece := clean piece (List.mem_cons_self ..)
      cases later with
      | nil => exact piecesOf_of_clean cleanPiece
      | cons next later =>
          rw [joined, piecesOf_append cleanPiece, ih (List.cons_ne_nil _ _)]
          exact fun piece member => clean piece (List.mem_cons_of_mem _ member)

theorem splits_pieces (text : String) : Splits text.toList ((pieces text).map String.toList) := by
  rw [pieces, List.map_map, String.toList_comp_ofList, List.map_id]
  exact splits_piecesOf _

theorem Splits.pieces_eq {text : String} {split : List String}
    (splits : Splits text.toList (split.map String.toList)) : pieces text = split := by
  rw [pieces, splits.piecesOf_eq, List.map_map, String.ofList_comp_toList, List.map_id]

theorem length_pieces (text : String) : (pieces text).length = placeholders text.toList + 1 := by
  rw [pieces, List.length_map, length_piecesOf]

end StageZero.Program
