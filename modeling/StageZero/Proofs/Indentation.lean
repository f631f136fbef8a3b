import Mathlib.Data.List.Induction
import Mathlib.Data.List.Infix
import Mathlib.Order.Bounds.Basic
import Mathlib.Order.MinMax
import StageZero.Proofs.Layout

/-! How far in the rows of a layout stand. Where each body closes the indents that it opens, that is four blanks for
each block around a row and each indent that is open in front of it, and behind the items all is as it was. Where it
does not, a dedent with nothing to close counts for nothing, and what is on the page stays there all the same. -/
namespace StageZero.Cxx
open Text (margin)

/-! ### Balanced items -/

/-- How many indents there are among some items, those within blocks apart. -/
def indents (items : List Item) : Nat :=
  items.countP fun
    | .indent => true
    | .line _ | .blank | .dedent | .block .. => false

/-- How many dedents there are among some items, those within blocks apart. -/
def dedents (items : List Item) : Nat :=
  items.countP fun
    | .dedent => true
    | .line _ | .blank | .indent | .block .. => false

/-- No dedent comes before an indent that it closes, and each indent is closed. -/
def Matched (items : List Item) : Prop :=
  (∀ front ∈ items.inits, dedents front ≤ indents front) ∧ dedents items = indents items

instance (items : List Item) : Decidable (Matched items) := inferInstanceAs (Decidable (_ ∧ _))

mutual

/-- The bodies of the blocks of an item, at any depth. -/
def Item.bodies : Item → List (List Item)
  | .line _ | .blank | .indent | .dedent => []
  | .block _ _ body => body :: bodiesAll body

def bodiesAll : List Item → List (List Item)
  | [] => []
  | item :: later => item.bodies ++ bodiesAll later

end

/-- Indents and dedents match among the items and within every block. -/
def Balanced (items : List Item) : Prop := ∀ body ∈ items :: bodiesAll items, Matched body

instance (items : List Item) : Decidable (Balanced items) := inferInstanceAs (Decidable (∀ body ∈ _, Matched body))

/-- How many indents are open behind some items. -/
def opened (items : List Item) : Nat := indents items - dedents items

mutual

/-- The rows of an item at the level of its block. -/
def Item.standing (level : Nat) : Item → List String
  | .line text => [margin level ++ text]
  | .blank => [""]
  | .indent | .dedent => []
  | .block header close body => (margin level ++ header) :: standingAll (level + 1) [] body ++ [margin level ++ close]

/-- The rows of items in a block, behind others in it: each stands at the level of the block and as many more as there
are open indents in front of it. -/
def standingAll (level : Nat) (front : List Item) : List Item → List String
  | [] => []
  | item :: later => item.standing (level + opened front) ++ standingAll level (front ++ [item]) later

end

theorem Matched.front {front back : List Item} (matched : Matched (front ++ back)) : dedents front ≤ indents front :=
  matched.1 front ((List.mem_inits _ _).mpr (List.prefix_append front back))

theorem Matched.opened {items : List Item} (matched : Matched items) : opened items = 0 := by
  rw [Cxx.opened, matched.2, Nat.sub_self]

theorem Matched.step {front later : List Item} {item : Item} (matched : Matched (front ++ item :: later)) :
    Matched (front ++ [item] ++ later) := by
  rwa [← List.append_cons]

theorem opened_concat (front : List Item) (item : Item) :
    opened (front ++ [item]) = indents front + indents [item] - (dedents front + dedents [item]) := by
  rw [opened, indents, dedents, List.countP_append, List.countP_append]
  rfl

mutual

-- What stands in front is carried along: a dedent finds an indent there that is still open, so that nothing is cut off.
theorem Item.depthAfter_eq {front later : List Item} {item : Item} (matched : Matched (front ++ item :: later))
    (within : ∀ body ∈ item.bodies, Matched body) (level : Nat) :
    item.depthAfter (level + opened front) = level + opened (front ++ [item]) := by
  rw [opened_concat]
  cases item with
  | line | blank => rfl
  | indent =>
      have before := matched.front
      change level + (indents front - dedents front) + 1 = level + (indents front + 1 - dedents front)
      omega
  | dedent =>
      change level + (indents front - dedents front) - 1 = level + (indents front - (dedents front + 1))
      have closes := matched.step.front
      have same : indents (front ++ [.dedent]) = indents front := List.countP_append
      have more : dedents (front ++ [.dedent]) = dedents front + 1 := List.countP_append
      omega
  | block header close body =>
      obtain ⟨inside, deeper⟩ := List.forall_mem_cons.mp within
      have after : depthAfterAll (level + opened front + 1) body = level + opened front + 1 :=
        @depthAfterAll_eq [] body inside deeper _
      rw [Item.depthAfter, after]
      rfl

theorem depthAfterAll_eq {front later : List Item} (matched : Matched (front ++ later))
    (within : ∀ body ∈ bodiesAll later, Matched body) (level : Nat) :
    depthAfterAll (level + opened front) later = level := by
  cases later with
  | nil =>
      rw [List.append_nil] at matched
      rw [depthAfterAll, matched.opened, Nat.add_zero]
  | cons item later =>
      obtain ⟨here, behind⟩ := List.forall_mem_append.mp within
      rw [depthAfterAll, Item.depthAfter_eq matched here, depthAfterAll_eq matched.step behind]

end

theorem depthAfterAll_of_balanced {items : List Item} (balanced : Balanced items) (level : Nat) :
    depthAfterAll level items = level := by
  obtain ⟨matched, within⟩ := List.forall_mem_cons.mp balanced
  exact @depthAfterAll_eq [] items matched within level

mutual

theorem Item.rows_eq {item : Item} (within : ∀ body ∈ item.bodies, Matched body) (level : Nat) :
    item.rows level = item.standing level := by
  cases item with
  | line | blank | indent | dedent => rfl
  | block header close body =>
      obtain ⟨inside, deeper⟩ := List.forall_mem_cons.mp within
      have balanced : Balanced body := within
      have rows : rowsAll (level + 1) body = standingAll (level + 1) [] body :=
        @rowsAll_eq [] body inside deeper (level + 1)
      rw [Item.rows, rows, depthAfterAll_of_balanced balanced, Nat.add_sub_cancel, Item.standing]

theorem rowsAll_eq {front later : List Item} (matched : Matched (front ++ later))
    (within : ∀ body ∈ bodiesAll later, Matched body) (level : Nat) :
    rowsAll (level + opened front) later = standingAll level front later := by
  cases later with
  | nil => rfl
  | cons item later =>
      obtain ⟨here, behind⟩ := List.forall_mem_append.mp within
      rw [rowsAll, standingAll, Item.rows_eq here, Item.depthAfter_eq matched here, rowsAll_eq matched.step behind]

end

theorem Page.putAll_of_balanced {items : List Item} (balanced : Balanced items) (page : Page) :
    page.putAll items = ⟨page.depth, page.text ++ lines (standingAll page.depth [] items)⟩ := by
  obtain ⟨matched, within⟩ := List.forall_mem_cons.mp balanced
  have rows : rowsAll page.depth items = standingAll page.depth [] items :=
    @rowsAll_eq [] items matched within page.depth
  rw [Page.putAll_eq, depthAfterAll_of_balanced balanced, rows]

/-! ### Any items -/

/-- What is done to a page at once. -/
inductive Stroke where
  | line (text : String)
  | blank
  | indent | dedent
deriving DecidableEq

mutual

/-- What is done to a page for an item, one after the other. -/
def Item.strokes : Item → List Stroke
  | .line text => [.line text]
  | .blank => [.blank]
  | .indent => [.indent]
  | .dedent => [.dedent]
  | .block header close body => [.line header, .indent] ++ strokesAll body ++ [.dedent, .line close]

def strokesAll : List Item → List Stroke
  | [] => []
  | item :: later => item.strokes ++ strokesAll later

end

/-- How much deeper strokes lead where no level is the outermost. -/
def climb (strokes : List Stroke) : Int := strokes.count .indent - strokes.count .dedent

namespace Page

def stroke (page : Page) : Stroke → Page
  | .line text => page.line text
  | .blank => page.blank
  | .indent => page.indent
  | .dedent => page.dedent

def drawn (page : Page) (strokes : List Stroke) : Page := strokes.foldl stroke page

theorem drawn_append (page : Page) (front back : List Stroke) :
    page.drawn (front ++ back) = (page.drawn front).drawn back := List.foldl_append

mutual

theorem put_eq_drawn (page : Page) (item : Item) : page.put item = page.drawn item.strokes := by
  cases item with
  | line | blank | indent | dedent => rfl
  | block header close body =>
      rw [put, Item.strokes, drawn_append, drawn_append, putAll_eq_drawn]
      rfl

theorem putAll_eq_drawn (page : Page) (items : List Item) : page.putAll items = page.drawn (strokesAll items) := by
  cases items with
  | nil => rfl
  | cons item later => rw [putAll, strokesAll, drawn_append, put_eq_drawn, putAll_eq_drawn]

end

theorem text_prefix_stroke (page : Page) (stroke : Stroke) : page.text.toList <+: (page.stroke stroke).text.toList := by
  cases stroke with
  | line text =>
      simp only [Page.stroke, line, String.toList_append, List.append_assoc]
      exact List.prefix_append _ _
  | blank =>
      simp only [Page.stroke, blank, String.toList_append]
      exact List.prefix_append _ _
  | indent | dedent => exact List.prefix_rfl

theorem text_prefix_drawn (page : Page) (strokes : List Stroke) :
    page.text.toList <+: (page.drawn strokes).text.toList := by
  induction strokes generalizing page with
  | nil => exact List.prefix_rfl
  | cons stroke strokes ih => exact (page.text_prefix_stroke stroke).trans (ih (page.stroke stroke))

/-- A dedent at the outermost level is the only stroke that does not change the depth as it would elsewhere. -/
theorem depth_stroke (page : Page) (stroke : Stroke) :
    ((page.stroke stroke).depth : Int) = max 0 (page.depth + climb [stroke]) := by
  cases stroke with
  | line | blank =>
      change (page.depth : Int) = max 0 (page.depth + 0)
      omega
  | indent =>
      change ((page.depth + 1 : Nat) : Int) = max 0 (page.depth + 1)
      omega
  | dedent =>
      change ((page.depth - 1 : Nat) : Int) = max 0 ((page.depth : Int) + -1)
      omega

end Page

/-- The levels that strokes come to when all of them are counted from a level, or only the last of them from the
outermost one. -/
def levels (start : Int) (strokes : List Stroke) : Set Int :=
  {level | level = start + climb strokes ∨ ∃ last, last <:+ strokes ∧ level = climb last}

theorem climb_concat (strokes : List Stroke) (stroke : Stroke) :
    climb (strokes ++ [stroke]) = climb strokes + climb [stroke] := by
  rw [climb, climb, climb, List.count_append, List.count_append]
  omega

theorem mem_levels_concat {start level : Int} {strokes : List Stroke} {stroke : Stroke} :
    level ∈ levels start (strokes ++ [stroke]) ↔
      level = 0 ∨ ∃ earlier ∈ levels start strokes, level = earlier + climb [stroke] := by
  constructor
  · rintro (rfl | ⟨last, suffix, rfl⟩)
    · exact .inr ⟨_, .inl rfl, by rw [climb_concat, Int.add_assoc]⟩
    · rcases List.suffix_concat_iff.mp suffix with rfl | ⟨before, rfl, within⟩
      · exact .inl rfl
      · exact .inr ⟨_, .inr ⟨before, within, rfl⟩, climb_concat before stroke⟩
  · rintro (rfl | ⟨_, rfl | ⟨last, suffix, rfl⟩, rfl⟩)
    · exact .inr ⟨[], List.nil_suffix, rfl⟩
    · exact .inl (by rw [climb_concat, Int.add_assoc])
    · exact .inr ⟨last ++ [stroke], List.suffix_append_self_iff.mpr suffix, (climb_concat last stroke).symm⟩

-- The induction is from the end: a new stroke goes behind all that is counted, and counting can start anew behind it.
theorem Page.depth_drawn (page : Page) (strokes : List Stroke) :
    IsGreatest (levels page.depth strokes) (page.drawn strokes).depth := by
  induction strokes using List.reverseRecOn with
  | nil =>
      refine ⟨.inl (Int.add_zero _).symm, ?_⟩
      rintro level (rfl | ⟨last, suffix, rfl⟩)
      · exact (Int.add_zero _).le
      · rw [List.suffix_nil.mp suffix]
        exact Int.natCast_nonneg _
  | append_singleton strokes stroke ih =>
      obtain ⟨reached, bound⟩ := ih
      have next := (page.drawn strokes).depth_stroke stroke
      rw [drawn_append]
      change IsGreatest _ (((page.drawn strokes).stroke stroke).depth : Int)
      rw [next]
      constructor
      · rcases max_choice 0 ((page.drawn strokes).depth + climb [stroke]) with outermost | moved
        · exact mem_levels_concat.mpr (.inl outermost)
        · exact mem_levels_concat.mpr (.inr ⟨_, reached, moved⟩)
      · intro level member
        rcases mem_levels_concat.mp member with rfl | ⟨earlier, there, rfl⟩
        · exact le_max_left _ _
        · have below := bound there
          exact le_max_of_le_right (Int.add_le_add_right below _)

/-- An indent does not undo a dedent that had nothing to close. -/
example : (Page.drawn {} [.dedent, .indent]).depth = 1 := rfl

/-- Balanced items leave the depth as it is and add their rows, each at its level: as many as there are blocks around
it and open indents in front of it, from the depth of the page on. Any items at all are strokes one after the other.
Behind each stroke all that was on the page before is still there, and the depth is not below the outermost level: it
is the greatest of what all the strokes so far come to from the depth of the page on, and what the last of them, or
none, come to from the outermost level on. -/
theorem indentation_structural (page : Page) (items : List Item) :
    (Balanced items → page.putAll items = ⟨page.depth, page.text ++ lines (standingAll page.depth [] items)⟩) ∧
      page.putAll items = page.drawn (strokesAll items) ∧
      ∀ front, front <+: strokesAll items →
        page.text.toList <+: (page.drawn front).text.toList ∧
          (page.drawn front).text.toList <+: (page.putAll items).text.toList ∧
          IsGreatest (levels page.depth front) (page.drawn front).depth := by
  refine ⟨fun balanced => Page.putAll_of_balanced balanced page, page.putAll_eq_drawn items, ?_⟩
  rintro front ⟨back, parts⟩
  refine ⟨page.text_prefix_drawn front, ?_, page.depth_drawn front⟩
  rw [page.putAll_eq_drawn, ← parts, Page.drawn_append]
  exact (page.drawn front).text_prefix_drawn back

theorem indentation_structural_nested :
    let body : List Item := [.line "b", .indent, .blank, .block "c \x7b" "\x7d" [.line "d"], .dedent]
    let items : List Item := [.indent, .block "a \x7b" "\x7d" body, .dedent, .line "e"]
    let rows := ["        a \x7b", "            b", "", "                c \x7b", "                    d",
      "                \x7d", "        \x7d", "    e"]
    let front : List Stroke := [.indent, .line "a \x7b", .indent]
    Balanced items ∧ Page.putAll ⟨1, "x\n"⟩ items = ⟨1, "x\n" ++ lines rows⟩ ∧
      front <+: strokesAll items ∧ IsGreatest (levels 1 front) 3 := by
  intro body items rows front
  have balanced : Balanced items := by decide +kernel
  have begins : front <+: strokesAll items := by decide +kernel
  have shown : standingAll 1 [] items = rows := by decide +kernel
  obtain ⟨laid, -, moments⟩ := indentation_structural ⟨1, "x\n"⟩ items
  refine ⟨balanced, ?_, begins, (moments front begins).2.2⟩
  rw [laid balanced, shown]

end StageZero.Cxx
