import StageZero.Proofs.Literals

/-! Escaped text inside a C++ string literal. It has no control character and no quote that would close the literal, it
leaves no escape sequence open, and whatever stands behind it, it is read as the text that was escaped. -/
namespace StageZero.Cxx

/-! ### Escape sequences under way -/

/-- How far an escape sequence has come. An octal one is open as long as a digit more would belong to it. -/
inductive Sequence where
  | closed
  | backslash
  | octal (digits : Nat)
deriving DecidableEq

namespace Sequence

/-- Goes on with a character that belongs to no sequence, or starts one. -/
def start (c : Char) : Sequence := if c = '\\' then .backslash else .closed

def step : Sequence → Char → Sequence
  | .closed, c => start c
  | .backslash, c => if isOctalDigit c then .octal 1 else .closed
  | .octal digits, c =>
    if isOctalDigit c then if digits < 2 then .octal (digits + 1) else .closed
    else start c

/-- What some characters from the front of a literal leave open. -/
def after (cs : List Char) : Sequence := cs.foldl step .closed

theorem after_append {front : List Char} (ends : after front = .closed) (back : List Char) :
    after (front ++ back) = after back := by
  rw [after, List.foldl_append, ← after, ends, after]

end Sequence

/-- A quote that stands in some characters stands behind a backslash that escapes it. -/
def QuotesEscaped (cs : List Char) : Prop :=
  ∀ front back, cs = front ++ '"' :: back → Sequence.after front = .backslash

theorem quotesEscaped_of_notMem {cs : List Char} (free : '"' ∉ cs) : QuotesEscaped cs := by
  intro front back parts
  subst parts
  simp at free

theorem QuotesEscaped.append {front back : List Char} (escaped : QuotesEscaped front)
    (ends : Sequence.after front = .closed) (later : QuotesEscaped back) : QuotesEscaped (front ++ back) := by
  intro before behind parts
  rcases List.append_eq_append_iff.mp parts with ⟨between, rfl, inBack⟩ | ⟨between, inFront, rest⟩
  · rw [Sequence.after_append ends]
    exact later between behind inBack
  · cases between with
    | nil =>
        rw [List.append_nil] at inFront
        have first := later [] behind rest.symm
        cases first
    | cons c between =>
        cases rest
        exact escaped before between inFront

/-! ### What is written for a character -/

theorem isControl_octal (digit : Nat) : isControl (octal digit) = false ∧ octal digit ≠ '"' := by
  have each : ∀ n < 8, isControl (Nat.digitChar n) = false ∧ Nat.digitChar n ≠ '"' := by decide
  exact each _ (Nat.mod_lt _ (by decide))

theorem isControl_of_mem_escaped {c d : Char} (member : d ∈ escaped c) : isControl d = false := by
  unfold escaped at member
  split at member
  case h_6 =>
    split at member
    case isTrue =>
      simp only [List.mem_cons, List.not_mem_nil, or_false] at member
      rcases member with rfl | rfl | rfl | rfl
      · rfl
      all_goals exact (isControl_octal _).1
    case isFalse plain =>
      rw [List.mem_singleton.mp member]
      exact Bool.eq_false_iff.mpr plain
  all_goals
    simp only [List.mem_cons, List.not_mem_nil, or_false] at member
    rcases member with rfl | rfl <;> rfl

/-- The third digit of an octal sequence is its last, so nothing is left open. -/
theorem after_escaped (c : Char) : Sequence.after (escaped c) = .closed := by
  unfold escaped
  split
  case h_6 slash _ _ _ _ =>
    split
    case isTrue => simp [Sequence.after, Sequence.step, Sequence.start, isOctalDigit_octal]
    case isFalse => exact if_neg slash
  all_goals rfl

theorem quotesEscaped_escaped (c : Char) : QuotesEscaped (escaped c) := by
  by_cases quote : c = '"'
  · subst quote
    intro front back parts
    have parts : ['\\', '"'] = front ++ '"' :: back := parts
    rcases List.cons_eq_append_iff.mp parts with ⟨-, wrong⟩ | ⟨more, rfl, later⟩
    · cases wrong
    · rcases List.cons_eq_append_iff.mp later with ⟨rfl, -⟩ | ⟨_, -, wrong⟩
      · rfl
      · cases (List.append_eq_nil_iff.mp wrong.symm).2
  · refine quotesEscaped_of_notMem ?_
    unfold escaped
    split
    case h_2 => exact absurd rfl quote
    case h_6 =>
      split
      case isTrue => simp [(isControl_octal _).2.symm]
      case isFalse => simpa using Ne.symm quote
    all_goals decide

/-! ### What is written for a text -/

theorem after_flatMap_escaped (text : List Char) : Sequence.after (text.flatMap escaped) = .closed := by
  induction text with
  | nil => rfl
  | cons c text ih => rw [List.flatMap_cons, Sequence.after_append (after_escaped c), ih]

theorem quotesEscaped_flatMap_escaped (text : List Char) : QuotesEscaped (text.flatMap escaped) := by
  induction text with
  | nil => exact quotesEscaped_of_notMem List.not_mem_nil
  | cons c text ih =>
      rw [List.flatMap_cons]
      exact (quotesEscaped_escaped c).append (after_escaped c) ih

/-- Reads all that stands between the quotes of a literal. It must not close the literal before its end, nor take the
closing quote for itself. -/
def readBody (cs : List Char) : Option (List Char) :=
  match readLiteral (cs ++ ['"']) with
  | some (text, []) => some text
  | _ => none

theorem readBody_flatMap_escaped (text rest : List Char) :
    readBody (text.flatMap escaped ++ rest) = (readBody rest).map (text ++ ·) := by
  rw [readBody, List.append_assoc, readLiteral_flatMap_escaped, readBody]
  rcases readLiteral (rest ++ ['"']) with _ | ⟨read, _ | _⟩ <;> rfl

theorem readBody_nil : readBody [] = some [] := by
  rw [readBody, List.nil_append, readLiteral]

/-- Escaping is undone by reading. An escaped text has no control character and no quote but behind a backslash, no
sequence is open at its end, and so it is read as the text it was made from, whatever stands behind it: more of the
literal, another escaped text, or the closing quote. -/
theorem escape_invertible (text : String) :
    (∀ c ∈ (escape text).toList, isControl c = false) ∧
      QuotesEscaped (escape text).toList ∧
      Sequence.after (escape text).toList = .closed ∧
      readBody (escape text).toList = some text.toList ∧
      (∀ rest, readBody ((escape text).toList ++ rest) = (readBody rest).map (text.toList ++ ·)) ∧
      (∀ other, readBody (escape text ++ escape other).toList = some (text ++ other).toList) ∧
      ∀ rest, readLiteral ((escape text).toList ++ '"' :: rest) = some (text.toList, rest) := by
  have whole (text : String) : readBody (escape text).toList = some text.toList := by
    have alone := readBody_flatMap_escaped text.toList []
    rwa [List.append_nil, readBody_nil, Option.map_some, List.append_nil, ← toList_escape] at alone
  have front (rest : List Char) :
      readBody ((escape text).toList ++ rest) = (readBody rest).map (text.toList ++ ·) := by
    rw [toList_escape, readBody_flatMap_escaped]
  refine ⟨?_, ?_, ?_, whole text, front, ?_, ?_⟩
  · intro c member
    rw [toList_escape] at member
    obtain ⟨source, -, written⟩ := List.mem_flatMap.mp member
    exact isControl_of_mem_escaped written
  · rw [toList_escape]
    exact quotesEscaped_flatMap_escaped text.toList
  · rw [toList_escape]
    exact after_flatMap_escaped text.toList
  · intro other
    rw [String.toList_append, front, whole, Option.map_some, String.toList_append]
  · intro rest
    rw [toList_escape, readLiteral_escape]

/-- A digit behind a control character is a character of its own. -/
example : escape "\x012" = "\\0012" ∧ readBody "\\0012".toList = some ['\x01', '2'] := by decide +kernel

end StageZero.Cxx
