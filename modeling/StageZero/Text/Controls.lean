import StageZero.Text.Octets

/-! Text as a terminal would show it: without control characters, and without the sequences that
tell a terminal to do something. Text that holds no control character stays as it is. -/
namespace StageZero.Text

/-- Where a terminal stands in a sequence. -/
inductive Stage where
  | plain
  /-- Behind an escape character. -/
  | escape
  /-- Behind an escape character and the marks that come before its last letter. -/
  | escapeMarks
  /-- Behind a bracket that opens, up to the letter that ends the sequence. -/
  | control
  /-- Behind a bracket that closes, up to a bell. -/
  | system
  /-- Behind the letter that addresses a device. -/
  | device
  | deviceNumbers
  | deviceMarks
  /-- In a string that a terminal takes whole. -/
  | whole
deriving DecidableEq

namespace Stage

/-- The controls that move a terminal to another column or line. -/
def moves (c : Char) : Bool := c = '\t' || c = '\n' || c = '\x0c' || c = '\r'

def isMark (c : Char) : Bool := ' ' ≤ c && c ≤ '/'

/-- The characters that can end a sequence behind its marks. -/
def isFinal (c : Char) : Bool := '0' ≤ c && c ≤ '~'

/-- Whether a character is shown. A sequence that moves break off is shown from there on. -/
def shows (stage : Stage) (c : Char) : Bool :=
  match stage with
  | .plain => moves c || (' ' ≤ c && c ≠ '\x7f')
  | .escape | .escapeMarks | .control => moves c
  | .system | .device | .deviceNumbers | .deviceMarks | .whole => false

/-- What an escape character begins together with the next character. -/
def begun (c : Char) : Stage :=
  match c with
  | '[' => .control
  | ']' => .system
  | 'P' => .device
  | 'X' | '^' | '_' => .whole
  | _ =>
    if moves c || isFinal c then .plain
    else if isMark c then .escapeMarks
    else .escape

/-- Where a terminal stands behind a character that ends no sequence at once. -/
def within (stage : Stage) (c : Char) : Stage :=
  match stage with
  | .plain => .plain
  | .escape => begun c
  | .escapeMarks => if moves c || isFinal c then .plain else .escapeMarks
  | .control => if moves c || ('@' ≤ c && c ≤ '~') then .plain else .control
  | .system => if c = '\x07' then .plain else .system
  | .device =>
    if '@' ≤ c && c ≤ '~' then .whole
    else if isFinal c then .deviceNumbers
    else if isMark c then .deviceMarks
    else .device
  | .deviceNumbers =>
    if '<' ≤ c && c ≤ '~' then .whole
    else if isMark c then .deviceMarks
    else .deviceNumbers
  | .deviceMarks => if isFinal c then .whole else .deviceMarks
  | .whole => if 0x9C ∈ octets c.toString then .plain else .whole

/-- Where a terminal stands behind a character. An escape character begins a sequence anywhere, and
two of the controls end any. -/
def next (stage : Stage) (c : Char) : Stage :=
  if c = '\x1b' then .escape
  else if c = '\x18' ∨ c = '\x1a' then .plain
  else stage.within c

def shown (stage : Stage) : List Char → List Char
  | [] => []
  | c :: rest =>
    if stage.shows c then c :: (stage.next c).shown rest else (stage.next c).shown rest

end Stage

/-- A text as a terminal would show it. A sequence that the text does not end is not shown. -/
def withoutControls (text : String) : String := String.ofList (Stage.plain.shown text.toList)

def isControl (c : Char) : Bool := c < ' ' || c = '\x7f'

theorem Stage.shown_eq_self {text : List Char} (clean : ∀ c ∈ text, isControl c = false) :
    Stage.plain.shown text = text := by
  induction text with
  | nil => rfl
  | cons c rest ih =>
    have here := clean c (by simp)
    have visible : Stage.plain.shows c = true := by
      simp_all [isControl, Stage.shows]
    have stays : Stage.plain.next c = .plain := by
      have low : ¬ c < ' ' := by simp_all [isControl]
      have notEscape : c ≠ '\x1b' := by rintro rfl; exact low (by decide)
      simp [Stage.next, Stage.within, notEscape]
    simp only [Stage.shown, visible, stays, if_true]
    rw [ih fun d member => clean d (by simp [member])]

theorem withoutControls_eq_self {text : String} (clean : ∀ c ∈ text.toList, isControl c = false) :
    withoutControls text = text := by
  simp [withoutControls, Stage.shown_eq_self clean]

end StageZero.Text
