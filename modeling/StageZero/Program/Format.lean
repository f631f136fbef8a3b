/-! Formats of print functions: text with the placeholder `{}` where an argument goes. -/
namespace StageZero.Program

/-- The pieces of text before, between and after the placeholders of a format. -/
def piecesOf : List Char → List (List Char)
  | [] => [[]]
  | '{' :: '}' :: rest => [] :: piecesOf rest
  | c :: rest =>
    match piecesOf rest with
    | [] => [[c]]
    | piece :: later => (c :: piece) :: later

/-- Pieces joined up with placeholders. -/
def joined : List (List Char) → List Char
  | [] => []
  | [piece] => piece
  | piece :: next :: later => piece ++ '{' :: '}' :: joined (next :: later)

theorem piecesOf_ne_nil (format : List Char) : piecesOf format ≠ [] := by
  fun_cases piecesOf format <;> simp_all

theorem joined_piecesOf (format : List Char) : joined (piecesOf format) = format := by
  fun_induction piecesOf format with
  | case1 => rfl
  | case2 rest ih =>
    obtain ⟨piece, later, pieces⟩ := List.exists_cons_of_ne_nil (piecesOf_ne_nil rest)
    simp only [pieces, joined] at ih ⊢
    simp [ih]
  | case3 c rest _ nothing => exact absurd nothing (piecesOf_ne_nil rest)
  | case4 c rest _ piece later pieces ih =>
    rw [pieces] at ih
    cases later with
    | nil => simp_all [joined]
    | cons next later => simp_all [joined]

def pieces (format : String) : List String := (piecesOf format.toList).map String.ofList

end StageZero.Program
