import StageZero.Text.Margin

/-! Lines of code at a depth. -/
namespace StageZero.Cxx

/-- What a layout is made of. -/
inductive Item where
  | line (text : String)
  | blank
  | indent | dedent
  /-- A header, items one level deeper, and a closing line. -/
  | block (header close : String) (body : List Item)

/-- The text so far, and how deep the next line stands. -/
structure Page where
  depth : Nat := 0
  text : String := ""

namespace Page

def line (page : Page) (text : String) : Page :=
  { page with text := page.text ++ Text.margin page.depth ++ text ++ "\n" }

/-- A blank line has no margin. -/
def blank (page : Page) : Page := { page with text := page.text ++ "\n" }

def indent (page : Page) : Page := { page with depth := page.depth + 1 }

/-- The outermost level has none above it. -/
def dedent (page : Page) : Page := { page with depth := page.depth - 1 }

mutual

def put (page : Page) : Item → Page
  | .line text => page.line text
  | .blank => page.blank
  | .indent => page.indent
  | .dedent => page.dedent
  | .block header close body => (((page.line header).indent.putAll body).dedent).line close

def putAll (page : Page) : List Item → Page
  | [] => page
  | item :: later => (page.put item).putAll later

end

theorem putAll_append (page : Page) (a b : List Item) :
    page.putAll (a ++ b) = (page.putAll a).putAll b := by
  induction a generalizing page with
  | nil => rfl
  | cons item a ih => exact ih (page.put item)

end Page

/-- The text of a layout. -/
def layOut (items : List Item) : String := (Page.putAll {} items).text

end StageZero.Cxx
