import Mathlib.Data.List.Induction
import Mathlib.Data.List.TakeWhile
import Mathlib.Data.Nat.Digits.Defs
import StageZero.Proofs.Extents
import StageZero.Proofs.Garbage

/-! Decimal numbers: what their digits stand for, how they are spelled, and which tokens are read from them. A run of
digits is one token, which is the number itself as long as that fits, and garbage else. -/
namespace StageZero

namespace Text

/-- What some digits stand for in decimal. The last of them counts ones. -/
def decimal (digits : List Char) : Nat := Nat.ofDigits 10 (digits.reverse.map fun c => c.toNat - '0'.toNat)

theorem decimal_append_singleton (digits : List Char) (c : Char) :
    decimal (digits ++ [c]) = 10 * decimal digits + (c.toNat - '0'.toNat) := by
  rw [decimal, List.reverse_append, List.reverse_singleton, List.singleton_append, List.map_cons, Nat.ofDigits_cons,
    Nat.add_comm]
  rfl

/-- Reading digit by digit gives what the digits stand for. -/
theorem ofDigitChars_eq (digits : List Char) : Nat.ofDigitChars 10 digits 0 = decimal digits := by
  induction digits using List.reverseRecOn with
  | nil => rfl
  | append_singleton digits c ih =>
      rw [Nat.ofDigitChars_append, ih, decimal_append_singleton, Nat.ofDigitChars_cons, Nat.ofDigitChars_nil]

/-- A word that spells a number in decimal. It starts with a zero only if it is nothing else. -/
structure Numeral (word : List Char) (value : Int) : Prop where
  nonempty : word ≠ []
  digits : ∀ c ∈ word, c.isDigit = true
  value : (decimal word : Int) = value
  leading : word.head? = some '0' → word = ['0']

theorem decimal_toDigits (n : Nat) : decimal (Nat.toDigits 10 n) = n := by
  rw [← ofDigitChars_eq, Nat.ofDigitChars_ten_toDigits]

theorem leading_toDigits (n : Nat) : (Nat.toDigits 10 n).head? = some '0' → Nat.toDigits 10 n = ['0'] := by
  induction n using Nat.strongRecOn with
  | ind n ih =>
      by_cases small : n < 10
      · rw [Nat.toDigits_of_lt_base small]
        exact fun zero => congrArg (· :: []) (Option.some.inj zero)
      · have tens : n / 10 < n := by omega
        rw [Nat.toDigits_of_base_le (by decide) (by omega), List.head?_append_of_ne_nil _ Nat.toDigits_ne_nil]
        intro zero
        -- the digits in front of the last would be a zero alone, and the number would be small
        have nothing := decimal_toDigits (n / 10)
        rw [ih _ tens zero] at nothing
        have none : n / 10 = 0 := nothing.symm
        omega

theorem numeral_toDigits (n : Nat) : Numeral (Nat.toDigits 10 n) n where
  nonempty := Nat.toDigits_ne_nil
  digits _ member := Nat.isDigit_of_mem_toDigits (by decide) (by decide) member
  value := congrArg Nat.cast (decimal_toDigits n)
  leading := leading_toDigits n

/-- All the digits that stand behind some characters of a text, up to where something else follows. -/
structure DigitRun (text : String) (front run : List Char) : Prop where
  nonempty : run ≠ []
  digits : ∀ c ∈ run, c.isDigit = true
  whole : ∃ back, text.toList = front ++ run ++ back ∧ ∀ c ∈ back.head?, c.isDigit = false

end Text

namespace Token

theorem Way.isDigit {file : FileId} {start : Nat} {c : Char} {cs : List Char} {read : Lexeme}
    (way : Way file start c cs read) {value : Int} (number : read.symbol = .number value) : c.isDigit = true := by
  cases way with
  | number digit => exact digit
  | sign sign =>
      have each : ∀ entry ∈ signs, ∀ value, entry.2 ≠ .number value := by simp [signs]
      exact absurd number (each _ sign value)
  | word => exact absurd number (Symbol.ofWord_ne (by simp) (by simp))
  | arrow | closed | unclosed | large | unknown => cases number

/-- There is one way to part some characters behind so many bytes. -/
theorem width_inj {front back other behind : List Char} (same : front ++ back = other ++ behind)
    (wide : width front = width other) : front = other ∧ back = behind := by
  have empty {cs : List Char} (none : width cs = 0) : cs = [] := by
    cases cs with
    | nil => rfl
    | cons c cs =>
        have := c.utf8Size_pos
        rw [width] at none
        omega
  rcases List.append_eq_append_iff.mp same with ⟨between, rfl, rfl⟩ | ⟨between, rfl, rfl⟩
  · rw [width_append] at wide
    rw [empty (by omega : width between = 0)]
    simp
  · rw [width_append] at wide
    rw [empty (by omega : width between = 0)]
    simp

/-- A token that starts behind some characters is that of the lexeme there. -/
theorem eq_ofLexeme {file : FileId} {text : String} {token : Token} (member : token ∈ (scan file text).stream.tokens)
    {front cs : List Char} {c : Char} (whole : text.toList = front ++ c :: cs)
    (starts : token.span.start = width front) :
    token = ofLexeme file front c cs := by
  obtain ⟨other, first, rest, parts, rfl⟩ := exists_lexeme member
  obtain ⟨rfl, later⟩ := width_inj (parts.symm.trans whole) starts
  obtain ⟨rfl, rfl⟩ := List.cons_eq_cons.mp later
  rfl

end Token

/-! ### What is reported over a token -/

/-- Whether two spans of a file have a place in common. -/
def Span.meets (span other : Span) : Bool := span.start < other.stop && other.start < span.stop

theorem Token.reported_inside {file : FileId} {text : String} {token : Token}
    (member : token ∈ (scan file text).stream.tokens) :
    ∀ fault ∈ token.reported (Text.slice text token.span), token.span.start ≤ fault.span.start ∧
      fault.span.start < fault.span.stop ∧ fault.span.stop ≤ token.span.stop := by
  have sized := (scan_apart file text).sized token member
  refine List.forall_mem_append.mpr ⟨fun fault stray => ?_, ?_⟩
  · obtain ⟨c, -, -, -, starts, stops⟩ := strayFaults_inside member fault stray
    obtain ⟨⟨place, d⟩, -, rfl⟩ := List.mem_map.mp stray
    have wide : place < place + 1 + d.utf8Size := by omega
    exact ⟨Nat.le_of_lt starts, wide, stops⟩
  · split
    · exact List.forall_mem_singleton.mpr ⟨Nat.le_refl _, sized, Nat.le_refl _⟩
    · exact List.forall_mem_nil _

theorem filter_flatMap_eq {α β : Type} {p : β → Bool} {f : α → List β} {front back : List α} {a : α}
    (others : ∀ other ∈ front ++ back, ∀ b ∈ f other, p b = false) (own : ∀ b ∈ f a, p b = true) :
    ((front ++ a :: back).flatMap f).filter p = f a := by
  obtain ⟨before, behind⟩ := List.forall_mem_append.mp others
  have none {items : List α} (each : ∀ other ∈ items, ∀ b ∈ f other, p b = false) :
      (items.flatMap f).filter p = [] := by
    refine List.filter_eq_nil_iff.mpr fun b member => ?_
    obtain ⟨other, there, given⟩ := List.mem_flatMap.mp member
    rw [each other there b given]
    exact Bool.false_ne_true
  rw [List.flatMap_append, List.flatMap_cons, List.filter_append, List.filter_append, none before, none behind,
    List.filter_eq_self.mpr own, List.nil_append, List.append_nil]

/-- What meets a token in the reports of a text is what is reported of that token. -/
theorem scan_faults_meeting {file : FileId} {text : String} {token : Token}
    (member : token ∈ (scan file text).stream.tokens) :
    ((scan file text).faults.filter fun fault => fault.span.meets token.span) =
      token.reported (Text.slice text token.span) := by
  have apart := scan_apart file text
  have inside (other : Token) (there : other ∈ (scan file text).stream.tokens) := Token.reported_inside there
  rw [scan_faults]
  obtain ⟨front, back, parts⟩ := List.append_of_mem member
  rw [parts] at apart inside ⊢
  obtain ⟨-, later, before⟩ := Token.Apart.append_iff.mp apart
  obtain ⟨-, behind, -⟩ := Token.Apart.cons_iff.mp later
  refine filter_flatMap_eq (fun other there fault own => ?_) fun fault own => ?_
  · have away : other.span.stop ≤ token.span.start ∨ token.span.stop ≤ other.span.start := by
      rcases List.mem_append.mp there with first | last
      · exact .inl (before other first token (List.mem_cons_self ..))
      · exact .inr (behind other last)
    have among : other ∈ front ++ token :: back :=
      List.mem_append.mpr ((List.mem_append.mp there).imp_right (List.mem_cons_of_mem _))
    have := inside other among fault own
    simp only [Span.meets, Bool.and_eq_false_iff, decide_eq_false_iff_not]
    omega
  · have := inside token (List.mem_append_right _ (List.mem_cons_self ..)) fault own
    simp only [Span.meets, Bool.and_eq_true, decide_eq_true_eq]
    omega

/-! ### Tokens of runs of digits -/

namespace Text.DigitRun
variable {file : FileId} {text : String} {front run : List Char} {token : Token}

/-- A token that starts with a run of digits is over all of it. -/
theorem token_eq (digits : DigitRun text front run) (member : token ∈ (scan file text).stream.tokens)
    (starts : token.span.start = Token.width front) :
    (token = if decimal run ≤ Token.maxNumber
      then ⟨.number (decimal run), ⟨file, Token.width front, Token.width (front ++ run)⟩⟩
      else ⟨.garbage, ⟨file, Token.width front, Token.width (front ++ run)⟩⟩) ∧
    ((scan file text).faults.filter fun fault => fault.span.meets token.span) =
      if decimal run ≤ Token.maxNumber then []
      else [⟨.integerOutOfRange, ⟨file, Token.width front, Token.width (front ++ run)⟩⟩] := by
  obtain ⟨some, all, back, whole, outside⟩ := digits
  obtain ⟨c, more, rfl⟩ := List.exists_cons_of_ne_nil some
  obtain ⟨digit, inside⟩ := List.forall_mem_cons.mp all
  have whole : text.toList = front ++ c :: (more ++ back) := by
    rw [whole, List.append_assoc, List.cons_append]
  have read := Token.lexeme_of_isDigit file (Token.width front) digit inside outside
  simp only [ofDigitChars_eq] at read
  rw [scan_faults_meeting member, Token.eq_ofLexeme member whole starts, Token.slice_ofLexeme whole,
    Token.reported_ofLexeme, Token.ofLexeme, read, Token.width_append front (c :: more)]
  split <;> exact ⟨by rw [Token.width_append], rfl⟩

end Text.DigitRun

/-- A number is read from a run of digits. -/
theorem Token.exists_digitRun {file : FileId} {text : String} {token : Token} {value : Int}
    (member : token ∈ (scan file text).stream.tokens) (number : token.symbol = .number value) :
    ∃ front run, Text.DigitRun text front run ∧ value = Text.decimal run ∧ Text.decimal run ≤ maxNumber ∧
      token.span = ⟨file, width front, width (front ++ run)⟩ := by
  obtain ⟨front, c, cs, whole, rfl⟩ := exists_lexeme member
  have digit : c.isDigit = true := (lexeme_way file _ c cs).isDigit number
  have parts : cs.takeWhile Char.isDigit ++ cs.dropWhile Char.isDigit = cs := List.takeWhile_append_dropWhile
  have inside : ∀ d ∈ cs.takeWhile Char.isDigit, d.isDigit = true := fun _ => List.mem_takeWhile_imp
  have outside : ∀ d ∈ (cs.dropWhile Char.isDigit).head?, d.isDigit = false := by
    intro d first
    have ends := List.head?_dropWhile_not Char.isDigit cs
    rw [first] at ends
    exact ends
  have run : Text.DigitRun text front (c :: cs.takeWhile Char.isDigit) := by
    refine ⟨List.cons_ne_nil _ _, List.forall_mem_cons.mpr ⟨digit, inside⟩, _, ?_, outside⟩
    rw [whole, List.append_assoc, List.cons_append, parts]
  obtain ⟨same, -⟩ := run.token_eq member rfl
  refine ⟨front, _, run, ?_⟩
  rw [same] at number ⊢
  split at number
  case isTrue fits =>
    cases number
    exact ⟨rfl, fits, by rw [if_pos fits]⟩
  case isFalse => cases number

end StageZero
