import Mathlib.Data.List.Basic
import StageZero.Cxx.Layout
import StageZero.Proofs.Spelling

/-! The rows of a layout. What an item adds to a page are rows, each with its margin and an end of line,
and no row of a page depends on what stands before it but for its depth. -/
namespace StageZero.Cxx
open Text (margin)

mutual

/-- The depth behind an item that starts at some depth. -/
def Item.depthAfter (depth : Nat) : Item → Nat
  | .line _ | .blank => depth
  | .indent => depth + 1
  | .dedent => depth - 1
  | .block _ _ body => depthAfterAll (depth + 1) body - 1

def depthAfterAll (depth : Nat) : List Item → Nat
  | [] => depth
  | item :: later => depthAfterAll (item.depthAfter depth) later

end

mutual

/-- The rows of an item, without the ends of the lines. -/
def Item.rows (depth : Nat) : Item → List String
  | .line text => [margin depth ++ text]
  | .blank => [""]
  | .indent | .dedent => []
  | .block header close body =>
    (margin depth ++ header) :: rowsAll (depth + 1) body ++ [margin (depthAfterAll (depth + 1) body - 1) ++ close]

def rowsAll (depth : Nat) : List Item → List String
  | [] => []
  | item :: later => item.rows depth ++ rowsAll (item.depthAfter depth) later

end

/-- The text of some rows. -/
def lines : List String → String
  | [] => ""
  | row :: later => row ++ "\n" ++ lines later

theorem lines_append (front back : List String) : lines (front ++ back) = lines front ++ lines back := by
  induction front with
  | nil => rw [List.nil_append, lines, String.empty_append]
  | cons row front ih => rw [List.cons_append, lines, lines, ih, String.append_assoc, String.append_assoc, String.append_assoc]

theorem depthAfterAll_append (depth : Nat) (front back : List Item) :
    depthAfterAll depth (front ++ back) = depthAfterAll (depthAfterAll depth front) back := by
  induction front generalizing depth with
  | nil => rfl
  | cons item front ih => exact ih _

theorem rowsAll_append (depth : Nat) (front back : List Item) :
    rowsAll depth (front ++ back) = rowsAll depth front ++ rowsAll (depthAfterAll depth front) back := by
  induction front generalizing depth with
  | nil => rfl
  | cons item front ih =>
      rw [List.cons_append, rowsAll, rowsAll, depthAfterAll, ih, List.append_assoc]

mutual

theorem Page.put_eq (page : Page) (item : Item) :
    page.put item = ⟨item.depthAfter page.depth, page.text ++ lines (item.rows page.depth)⟩ := by
  cases item with
  | line text => simp [Page.put, Page.line, Item.depthAfter, Item.rows, lines, String.append_assoc]
  | blank => simp [Page.put, Page.blank, Item.depthAfter, Item.rows, lines]
  | indent => simp [Page.put, Page.indent, Item.depthAfter, Item.rows, lines]
  | dedent => simp [Page.put, Page.dedent, Item.depthAfter, Item.rows, lines]
  | block header close body =>
      rw [Page.put, Page.putAll_eq, Item.rows, Item.depthAfter]
      simp [Page.line, Page.indent, Page.dedent, lines, lines_append, String.append_assoc]

theorem Page.putAll_eq (page : Page) (items : List Item) :
    page.putAll items = ⟨depthAfterAll page.depth items, page.text ++ lines (rowsAll page.depth items)⟩ := by
  cases items with
  | nil => simp [Page.putAll, depthAfterAll, rowsAll, lines]
  | cons item later =>
      rw [Page.putAll, Page.putAll_eq, Page.put_eq, rowsAll, depthAfterAll, lines_append, String.append_assoc]

end

/-- The text of a layout is the text of its rows. -/
theorem layOut_eq (items : List Item) : layOut items = lines (rowsAll 0 items) := by
  rw [layOut, Page.putAll_eq, String.empty_append]

/-- A text within one row. -/
def Plain (row : String) : Prop := '\n' ∉ row.toList

instance (row : String) : Decidable (Plain row) := inferInstanceAs (Decidable ('\n' ∉ row.toList))

theorem Plain.append {front back : String} (first : Plain front) (second : Plain back) : Plain (front ++ back) := by
  rw [Plain, String.toList_append, List.mem_append, not_or]
  exact ⟨first, second⟩

theorem toList_lines (row : String) (later : List String) :
    (lines (row :: later)).toList = row.toList ++ '\n' :: (lines later).toList := by
  have ending : "\n".toList = ['\n'] := by simp
  rw [lines, String.toList_append, String.toList_append, ending, List.append_assoc, List.singleton_append]

end StageZero.Cxx
