import Mathlib.Data.List.Basic
import StageZero.Cxx.Literal

/-! String literals as C++ reads them, against how they are written. A backslash starts a simple escape
sequence or an octal one, which takes as many digits as there are, up to three. Sequences of other
kinds are never written and are not read. -/
namespace StageZero.Cxx

def simpleEscape? : Char → Option Char
  | '\'' => some '\''
  | '"' => some '"'
  | '?' => some '?'
  | '\\' => some '\\'
  | 'a' => some '\x07'
  | 'b' => some '\x08'
  | 'f' => some '\x0c'
  | 'n' => some '\n'
  | 'r' => some '\r'
  | 't' => some '\t'
  | 'v' => some '\x0b'
  | _ => none

def isOctalDigit (c : Char) : Bool := '0' ≤ c && c ≤ '7'

/-- The digits of an octal escape sequence. -/
def octalRun (cs : List Char) : List Char := (cs.take 3).takeWhile isOctalDigit

/-- Reads the character that an escape sequence stands for, from behind the backslash. -/
def readEscape : List Char → Option (Char × List Char)
  | [] => none
  | c :: rest =>
    match octalRun (c :: rest) with
    | [] => (simpleEscape? c).map fun meant => (meant, rest)
    | digits => some (Char.ofNat (Nat.ofDigitChars 8 digits 0), (c :: rest).drop digits.length)

theorem readEscape_length {cs rest : List Char} {c : Char} (read : readEscape cs = some (c, rest)) :
    rest.length < cs.length := by
  cases cs with
  | nil => cases read
  | cons first later =>
      rw [readEscape] at read
      split at read
      · obtain ⟨_, _, same⟩ := Option.map_eq_some_iff.mp read
        cases same
        exact Nat.lt_succ_self _
      · rename_i digits some
        cases read
        have := List.length_pos_iff.mpr some
        rw [List.length_drop, List.length_cons]
        omega

/-- Reads a literal from behind its opening quote: its characters, and what is left behind its closing
quote. -/
def readLiteral : List Char → Option (List Char × List Char)
  | [] | '\n' :: _ => none
  | '"' :: rest => some ([], rest)
  | '\\' :: rest =>
    match _read : readEscape rest with
    | none => none
    | some (c, behind) => (readLiteral behind).map fun read => (c :: read.1, read.2)
  | c :: rest => (readLiteral rest).map fun read => (c :: read.1, read.2)
termination_by cs => cs.length
decreasing_by
  · have := readEscape_length _read
    rw [List.length_cons]
    omega
  · exact Nat.lt_succ_self _

theorem readLiteral_of_readEscape {cs rest : List Char} {c : Char} (read : readEscape cs = some (c, rest)) :
    readLiteral ('\\' :: cs) = (readLiteral rest).map fun read => (c :: read.1, read.2) := by
  rw [readLiteral]
  split
  · rename_i none
    rw [none] at read
    cases read
  · rename_i other behind same
    rw [read] at same
    cases same
    rfl

theorem readLiteral_length {cs text rest : List Char} (read : readLiteral cs = some (text, rest)) :
    rest.length < cs.length := by
  fun_induction readLiteral cs generalizing text with
  | case1 => cases read
  | case2 => cases read
  | case3 rest =>
      cases read
      exact Nat.lt_succ_self _
  | case4 => cases read
  | case5 cs c behind escape ih =>
      obtain ⟨⟨later, left⟩, found, same⟩ := Option.map_eq_some_iff.mp read
      cases same
      have := ih found
      have := readEscape_length escape
      rw [List.length_cons]
      omega
  | case6 c cs _ _ _ ih =>
      obtain ⟨⟨later, left⟩, found, same⟩ := Option.map_eq_some_iff.mp read
      cases same
      exact Nat.lt_succ_of_lt (ih found)

/-! ### Octal escape sequences -/

theorem isOctalDigit_octal (digit : Nat) : isOctalDigit (octal digit) = true := by
  have each : ∀ n < 8, isOctalDigit (Nat.digitChar n) = true := by decide
  exact each _ (Nat.mod_lt _ (by decide))

theorem octal_toNat (digit : Nat) : (octal digit).toNat - '0'.toNat = digit % 8 := by
  have each : ∀ n < 8, (Nat.digitChar n).toNat - '0'.toNat = n := by decide
  exact each _ (Nat.mod_lt _ (by decide))

/-- Three digits leave nothing for the digits behind them. -/
theorem readEscape_octal (value : Nat) (rest : List Char) (small : value < 512) :
    readEscape (octal (value / 64) :: octal (value / 8) :: octal value :: rest) =
      some (Char.ofNat value, rest) := by
  have run : octalRun (octal (value / 64) :: octal (value / 8) :: octal value :: rest) =
      [octal (value / 64), octal (value / 8), octal value] := by
    simp [octalRun, isOctalDigit_octal]
  have digits : Nat.ofDigitChars 8 [octal (value / 64), octal (value / 8), octal value] 0 = value := by
    simp only [Nat.ofDigitChars_cons, Nat.ofDigitChars_nil, octal_toNat]
    omega
  rw [readEscape, run]
  dsimp only
  rw [digits]
  rfl

/-! ### What is written is read back -/

theorem readLiteral_escaped (c : Char) (rest : List Char) :
    readLiteral (escaped c ++ rest) = (readLiteral rest).map fun read => (c :: read.1, read.2) := by
  unfold escaped
  split
  case h_6 slash quote newline _ _ =>
    split
    case isTrue control =>
      have small : c.toNat < 512 := by
        rcases Bool.or_eq_true_iff.mp control with below | delete
        · have := of_decide_eq_true below
          omega
        · have := eq_of_beq delete
          omega
      have read := readEscape_octal c.toNat rest small
      rw [Char.ofNat_toNat] at read
      exact readLiteral_of_readEscape read
    case isFalse =>
      rw [List.singleton_append, readLiteral]
      · exact newline
      · exact quote
      · exact slash
  all_goals exact readLiteral_of_readEscape rfl

/-- A text that is escaped is read as itself, and what stands behind it as it would be alone. -/
theorem readLiteral_flatMap_escaped (text rest : List Char) :
    readLiteral (text.flatMap escaped ++ rest) = (readLiteral rest).map fun read => (text ++ read.1, read.2) := by
  induction text with
  | nil => simp
  | cons c text ih => simp [readLiteral_escaped, ih, Function.comp_def]

/-- A text that is escaped between quotes is read as itself, and the closing quote is found. -/
theorem readLiteral_escape (text rest : List Char) :
    readLiteral (text.flatMap escaped ++ '"' :: rest) = some (text, rest) := by
  rw [readLiteral_flatMap_escaped, readLiteral]
  simp

theorem toList_escape (text : String) : (escape text).toList = text.toList.flatMap escaped :=
  String.toList_ofList

end StageZero.Cxx
