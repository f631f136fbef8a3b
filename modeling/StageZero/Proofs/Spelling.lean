import StageZero.Proofs.Scanning

/-! Symbols spelled out. Every symbol but garbage has a spelling, and scanning undoes it: where blanks
stand between the spellings of some symbols, those symbols are scanned, and there are no faults. -/
namespace StageZero

/-! ### Spellings -/

/-- A word that starts and goes on as names do, and is no keyword. -/
structure Token.IsName (word : String) : Prop where
  shape : ∃ c more, word.toList = c :: more ∧ isNameStart c = true ∧ ∀ d ∈ more, isNamePart d = true
  free : word ≠ "function" ∧ word ≠ "let" ∧ word ≠ "return"

namespace Symbol

/-- A character as it is written in a string literal. Most stand for themselves. -/
def quotedChar : Char → List Char
  | '\n' => ['\\', 'n']
  | '\t' => ['\\', 't']
  | '\r' => ['\\', 'r']
  | '\x00' => ['\\', '0']
  | '"' => ['\\', '"']
  | '\\' => ['\\', '\\']
  | c => [c]

def spelling : Symbol → List Char
  | .name text => text.toList
  | .number value => (toString value).toList
  | .quotation text => '"' :: text.toList.flatMap quotedChar ++ ['"']
  | .function => "function".toList
  | .let => "let".toList
  | .return => "return".toList
  | .openParen => ['(']
  | .closeParen => [')']
  | .openBrace => ['{']
  | .closeBrace => ['}']
  | .comma => [',']
  | .semicolon => [';']
  | .colon => [':']
  | .equals => ['=']
  | .arrow => ['-', '>']
  | .newline => ['\n']
  | .garbage => []

/-- A symbol that its spelling stands for. A number has no sign and fits into 63 bits. -/
def Spellable : Symbol → Prop
  | .name text => Token.IsName text
  | .number value => 0 ≤ value ∧ value ≤ 9223372036854775807
  | .garbage => False
  | _ => True

end Symbol

/-- The spellings of symbols, with blanks between each two neighbours. -/
inductive Spelled : List Symbol → List Char → Prop
  | nothing : Spelled [] []
  | last {symbol} : symbol.Spellable → Spelled [symbol] symbol.spelling
  | more {symbol next later gap cs} : symbol.Spellable → gap ≠ [] →
      (∀ c ∈ gap, c = ' ' ∨ c = '\t' ∨ c = '\r') → Spelled (next :: later) cs →
      Spelled (symbol :: next :: later) (symbol.spelling ++ gap ++ cs)

/-! ### Boundaries -/

namespace Token

theorem isBlank_iff {c : Char} : isBlank c = true ↔ c = ' ' ∨ c = '\t' ∨ c = '\r' := by
  simp [isBlank, or_assoc]

/-- What ends a word: nothing more, or a blank. -/
def Boundary (rest : List Char) : Prop := ∀ c ∈ rest.head?, isBlank c = true

theorem isNamePart_of_isBlank {c : Char} (blank : isBlank c = true) : isNamePart c = false := by
  rcases isBlank_iff.mp blank with rfl | rfl | rfl <;> decide +kernel

theorem isDigit_of_isBlank {c : Char} (blank : isBlank c = true) : c.isDigit = false := by
  rcases isBlank_iff.mp blank with rfl | rfl | rfl <;> rfl

/-- A run ends in front of the first item that does not belong to it. -/
theorem run_append {α : Type} {p : α → Bool} {word rest : List α} (inside : ∀ c ∈ word, p c = true)
    (outside : ∀ c ∈ rest.head?, p c = false) :
    (word ++ rest).takeWhile p = word ∧ (word ++ rest).dropWhile p = rest := by
  rw [List.takeWhile_append_of_pos inside, List.dropWhile_append_of_pos inside]
  cases rest with
  | nil => simp
  | cons c rest => simp [outside c rfl]

/-- There is one place where a run can end. -/
theorem run_inj {α : Type} {p : α → Bool} {word other rest behind : List α} (inside : ∀ c ∈ word, p c = true)
    (outside : ∀ c ∈ rest.head?, p c = false) (otherInside : ∀ c ∈ other, p c = true)
    (otherOutside : ∀ c ∈ behind.head?, p c = false) (same : word ++ rest = other ++ behind) :
    word = other ∧ rest = behind := by
  obtain ⟨run, left⟩ := run_append inside outside
  obtain ⟨otherRun, otherLeft⟩ := run_append otherInside otherOutside
  rw [same] at run left
  exact ⟨run.symm.trans otherRun, left.symm.trans otherLeft⟩

theorem Boundary.run {p : Char → Bool} {word rest : List Char} (boundary : Boundary rest)
    (inside : ∀ c ∈ word, p c = true) (outside : ∀ c, isBlank c = true → p c = false) :
    (word ++ rest).takeWhile p = word ∧ (word ++ rest).dropWhile p = rest :=
  run_append inside fun c member => outside c (boundary c member)

/-! ### Words and numbers -/

theorem isDigit_of_isNameStart {c : Char} (start : isNameStart c = true) : c.isDigit = false := by
  rw [Bool.eq_false_iff]
  intro digit
  have range := Text.isDigit_iff.mp digit
  have ascii : c.toNat < 128 := by omega
  have letter : c.isAlpha = false := by
    rw [Bool.eq_false_iff]
    intro letter
    rcases Bool.or_eq_true_iff.mp letter with upper | lower
    · have above : 65 ≤ c.toNat := (of_decide_eq_true upper : 'A'.val ≤ c.val ∧ c.val ≤ 'Z'.val).1
      omega
    · have above : 97 ≤ c.toNat := of_decide_eq_true (Bool.and_eq_true_iff.mp lower).1
      omega
  rw [isNameStart, Text.isAlphabetic_of_ascii ascii, letter, Bool.false_or, beq_iff_eq] at start
  subst start
  exact absurd digit (by decide)

theorem isNamePart_of_isNameStart {c : Char} (start : isNameStart c = true) : isNamePart c = true := by
  rcases Bool.or_eq_true_iff.mp start with letter | line
  · rw [isNamePart, letter, Bool.true_or, Bool.true_or]
  · rw [isNamePart, line, Bool.or_true]

theorem IsName.all {word : String} (name : IsName word) : ∀ c ∈ word.toList, isNamePart c = true := by
  obtain ⟨c, more, shape, start, parts⟩ := name.shape
  rw [shape]
  exact List.forall_mem_cons.mpr ⟨isNamePart_of_isNameStart start, parts⟩

end Token

theorem Symbol.ofWord_of_isName {word : String} (name : Token.IsName word) : ofWord word = .name word := by
  obtain ⟨function, binding, back⟩ := name.free
  have free : keyword? word = none := by
    unfold keyword?
    split <;> first | rfl | contradiction
  rw [ofWord, free, Option.getD_none]

namespace Token

/-- A lexeme with no faults that is read from some characters and leaves the rest. -/
def Reads (symbol : Symbol) (word rest : List Char) : Prop :=
  ∃ c more, word = c :: more ∧ isBlank c = false ∧ c ≠ '/' ∧
    ∀ file start, lexeme file start c (more ++ rest) = ⟨symbol, more, rest, []⟩

variable {rest : List Char}

/-- What starts a word starts nothing else. -/
theorem lexeme_of_isNameStart (file : FileId) (place : Nat) {c : Char} (start : isNameStart c = true)
    (cs : List Char) :
    lexeme file place c cs =
      ⟨Symbol.ofWord (String.ofList (c :: cs.takeWhile isNamePart)), cs.takeWhile isNamePart,
        cs.dropWhile isNamePart, []⟩ := by
  have digit := isDigit_of_isNameStart start
  unfold lexeme
  dsimp only
  split
  case h_12 => rw [if_neg (digit ▸ Bool.false_ne_true), if_pos start]
  all_goals exact absurd start (by decide +kernel)

/-- A run of digits is a number if that fits, and garbage else. -/
theorem lexeme_of_isDigit (file : FileId) (place : Nat) {c : Char} {more : List Char} (digit : c.isDigit = true)
    (inside : ∀ d ∈ more, d.isDigit = true) (outside : ∀ d ∈ rest.head?, d.isDigit = false) :
    let value := Nat.ofDigitChars 10 (c :: more) 0
    lexeme file place c (more ++ rest) =
      if value ≤ maxNumber then ⟨.number value, more, rest, []⟩
      else ⟨.garbage, more, rest, [⟨.integerOutOfRange, ⟨file, place, place + width (c :: more)⟩⟩]⟩ := by
  obtain ⟨run, behind⟩ := run_append inside outside
  unfold lexeme
  dsimp only
  split
  case h_12 => rw [if_pos digit, run, behind]
  all_goals exact absurd digit (by decide)

theorem reads_word {word : String} {symbol : Symbol} {c : Char} {more : List Char}
    (shape : word.toList = c :: more) (start : isNameStart c = true)
    (parts : ∀ d ∈ more, isNamePart d = true) (known : Symbol.ofWord word = symbol)
    (boundary : Boundary rest) : Reads symbol word.toList rest := by
  have blank : isBlank c = false := by
    rw [Bool.eq_false_iff]
    intro blank
    have outside := isNamePart_of_isBlank blank
    rw [isNamePart_of_isNameStart start] at outside
    cases outside
  have slash : c ≠ '/' := by
    rintro rfl
    exact absurd start (by decide +kernel)
  obtain ⟨run, behind⟩ := boundary.run parts fun _ => isNamePart_of_isBlank
  refine ⟨c, more, shape, blank, slash, fun file place => ?_⟩
  rw [lexeme_of_isNameStart file place start, run, behind, ← shape, String.ofList_toList, known]

theorem reads_name {word : String} (name : IsName word) (boundary : Boundary rest) :
    Reads (.name word) word.toList rest := by
  obtain ⟨c, more, shape, start, parts⟩ := name.shape
  exact reads_word shape start parts (Symbol.ofWord_of_isName name) boundary

theorem reads_number {value : Nat} (fits : value ≤ maxNumber) (boundary : Boundary rest) :
    Reads (.number value) (Nat.toDigits 10 value) rest := by
  have digits : ∀ c ∈ Nat.toDigits 10 value, c.isDigit = true := fun c member =>
    Nat.isDigit_of_mem_toDigits (by decide) (by decide) member
  have whole : Nat.ofDigitChars 10 (Nat.toDigits 10 value) 0 = value := Nat.ofDigitChars_ten_toDigits
  obtain ⟨c, more, shape⟩ := List.exists_cons_of_ne_nil (l := Nat.toDigits 10 value) Nat.toDigits_ne_nil
  rw [shape] at digits whole
  obtain ⟨digit, others⟩ := List.forall_mem_cons.mp digits
  have outside : ∀ d ∈ rest.head?, d.isDigit = false := fun d member => isDigit_of_isBlank (boundary d member)
  refine ⟨c, more, shape, ?_, ?_, fun file place => ?_⟩
  · rw [Bool.eq_false_iff]
    intro blank
    rw [isDigit_of_isBlank blank] at digit
    cases digit
  · rintro rfl
    exact absurd digit (by decide)
  · rw [lexeme_of_isDigit file place digit others outside, whole, if_pos fits]

/-! ### String literals -/

/-- A character that is written for a string literal is read back, and reading goes on behind it. -/
theorem quotation_quotedChar (offset : Nat) (c : Char) (cs : List Char) :
    quotation offset (Symbol.quotedChar c ++ cs) =
      let later := quotation (offset + width (Symbol.quotedChar c)) cs
      { later with body := Symbol.quotedChar c ++ later.body, value := c :: later.value } := by
  unfold Symbol.quotedChar
  split
  case h_7 newline tab back zero quote slash =>
    rw [List.singleton_append, quotation]
    · rfl
    all_goals simp_all
  all_goals
    rw [List.cons_append, List.singleton_append, quotation]
    · rfl
    all_goals simp

theorem quotation_quoted (offset : Nat) (text : List Char) :
    quotation offset (text.flatMap Symbol.quotedChar ++ '"' :: rest) =
      ⟨text.flatMap Symbol.quotedChar ++ ['"'], rest, text, true, []⟩ := by
  induction text generalizing offset with
  | nil => rfl
  | cons c text ih => rw [List.flatMap_cons, List.append_assoc, quotation_quotedChar, ih, List.append_assoc]

theorem reads_quotation (text : String) : Reads (.quotation text) (Symbol.quotation text).spelling rest := by
  refine ⟨'"', text.toList.flatMap Symbol.quotedChar ++ ['"'], rfl, rfl, by decide, fun file start => ?_⟩
  rw [List.append_assoc, List.singleton_append]
  unfold lexeme
  dsimp only
  rw [quotation_quoted, String.ofList_toList]
  rfl

/-! ### Any symbol -/

theorem reads_spelling {symbol : Symbol} (spellable : symbol.Spellable) (boundary : Boundary rest) :
    Reads symbol symbol.spelling rest := by
  cases symbol with
  | name text => exact reads_name spellable boundary
  | number value =>
      obtain ⟨value, rfl⟩ := Int.eq_ofNat_of_zero_le spellable.1
      have fits : value ≤ maxNumber := by
        have := spellable.2
        unfold maxNumber
        omega
      have digits : (Symbol.number value).spelling = Nat.toDigits 10 value := Nat.toList_repr
      rw [digits]
      exact reads_number fits boundary
  | quotation text => exact reads_quotation text
  | function | «let» | «return» =>
      exact reads_word rfl (by decide +kernel) (List.all_eq_true.mp (by decide +kernel)) rfl boundary
  | openParen | closeParen | openBrace | closeBrace | comma | semicolon | colon | equals | newline | arrow =>
      exact ⟨_, _, rfl, rfl, by decide, fun _ _ => rfl⟩
  | garbage => exact spellable.elim

theorem afterGap_append {gap : List Char} (blank : ∀ c ∈ gap, isBlank c = true) (cs : List Char) :
    afterGap (gap ++ cs) = afterGap cs := by
  induction gap with
  | nil => rfl
  | cons c gap ih =>
      obtain ⟨first, later⟩ := List.forall_mem_cons.mp blank
      rw [List.cons_append, afterGap, if_pos first, ih later]

theorem word_spellable {c : Char} {more : List Char} (start : isNameStart c = true)
    (parts : ∀ d ∈ more, isNamePart d = true) : (Symbol.ofWord (String.ofList (c :: more))).Spellable := by
  unfold Symbol.ofWord Symbol.keyword?
  split
  case h_4 function binding back =>
    exact ⟨⟨c, more, String.toList_ofList, start, parts⟩, function, binding, back⟩
  all_goals exact trivial

/-- What is read without faults can be spelled. -/
def Lexeme.Spells (lexeme : Lexeme) : Prop := lexeme.faults = [] → lexeme.symbol.Spellable

theorem Way.spells {file : FileId} {start : Nat} {c : Char} {cs : List Char} {read : Lexeme}
    (way : Way file start c cs read) : read.Spells := by
  cases way with
  | sign sign =>
      have each : ∀ entry ∈ signs, entry.2.Spellable := by simp [signs, Symbol.Spellable]
      exact fun _ => each _ sign
  | arrow | closed => exact fun _ => trivial
  | number _ _ fits =>
      refine fun _ => ⟨Int.natCast_nonneg _, ?_⟩
      unfold maxNumber at fits
      omega
  | word start => exact fun _ => word_spellable start (List.all_eq_true.mp List.all_takeWhile)
  | unclosed => exact fun clean => absurd (List.append_eq_nil_iff.mp clean).2 (List.cons_ne_nil _ _)
  | large | unknown => exact fun clean => absurd clean (List.cons_ne_nil _ _)

end Token

/-- A scan of some symbols in which there are no faults. -/
def Scan.Gives (scan : Scan) (symbols : List Symbol) : Prop :=
  scan.stream.tokens.map Token.symbol = symbols ∧ scan.faults = []

theorem Scan.gives_cons {symbol : Symbol} {symbols : List Symbol} {gap word rest : List Char}
    (blank : ∀ c ∈ gap, Token.isBlank c = true) (reads : Token.Reads symbol word rest)
    (later : ∀ file offset, (ofChars file offset rest).Gives symbols) (file : FileId) (offset : Nat) :
    (ofChars file offset (gap ++ (word ++ rest))).Gives (symbol :: symbols) := by
  obtain ⟨c, more, rfl, other, slash, read⟩ := reads
  have found : Token.afterGap (gap ++ (c :: more ++ rest)) = c :: (more ++ rest) := by
    rw [Token.afterGap_append blank, List.cons_append, Token.afterGap, if_neg (other ▸ Bool.false_ne_true),
      if_neg fun comment => slash comment.1]
  rw [ofChars_eq, found]
  dsimp only [Gives]
  rw [read, List.map_cons, List.nil_append]
  exact ⟨congrArg _ (later _ _).1, (later _ _).2⟩

-- Each step reads the blanks of the gap before it, so the induction is for any such gap.
theorem Spelled.gives {symbols : List Symbol} {cs gap : List Char} (spelled : Spelled symbols cs)
    (blank : ∀ c ∈ gap, Token.isBlank c = true) (file : FileId) (offset : Nat) :
    (Scan.ofChars file offset (gap ++ cs)).Gives symbols := by
  induction spelled generalizing gap file offset with
  | nothing =>
      rw [Scan.ofChars_eq, Token.afterGap_append blank]
      exact ⟨rfl, rfl⟩
  | @last symbol spellable =>
      have reads : Token.Reads symbol symbol.spelling [] := Token.reads_spelling spellable nofun
      have nothing : ∀ file offset, (Scan.ofChars file offset []).Gives [] := by
        intro file offset
        rw [Scan.ofChars_eq]
        exact ⟨rfl, rfl⟩
      rw [← List.append_nil symbol.spelling]
      exact Scan.gives_cons blank reads nothing file offset
  | @more symbol next later between cs spellable some blanks _ ih =>
      have inner : ∀ c ∈ between, Token.isBlank c = true := fun c member =>
        Token.isBlank_iff.mpr (blanks c member)
      have boundary : Token.Boundary (between ++ cs) := by
        obtain ⟨c, between, rfl⟩ := List.exists_cons_of_ne_nil some
        rintro _ ⟨rfl⟩
        exact inner c (List.mem_cons_self ..)
      rw [List.append_assoc]
      exact Scan.gives_cons blank (Token.reads_spelling spellable boundary) (fun _ _ => ih inner _ _) file offset

/-- Scanning undoes spelling: the marks of a spelled text are its symbols and the end, and there are no
faults. -/
theorem scan_spelled {symbols : List Symbol} {cs : List Char} (spelled : Spelled symbols cs) (file : FileId) :
    (scan file (String.ofList cs)).stream.marks.map Mark.symbol = symbols.map some ++ [none] ∧
      (scan file (String.ofList cs)).faults = [] := by
  have nothing : ∀ c ∈ ([] : List Char), Token.isBlank c = true := nofun
  obtain ⟨tokens, faults⟩ := spelled.gives nothing file 0
  rw [List.nil_append] at tokens faults
  rw [scan, String.toList_ofList]
  refine ⟨?_, faults⟩
  rw [Stream.marks, List.map_append, ← tokens, List.map_map, List.map_map]
  rfl

theorem scan_spelled_binding :
    let symbols := [.let, .name "é_1", .equals, .quotation "\"//\n"]
    let cs := "let \té_1 = \"\\\"//\\n\"".toList
    Spelled symbols cs ∧ (scan ⟨0⟩ (String.ofList cs)).stream.marks.map Mark.symbol = symbols.map some ++ [none] ∧
      (scan ⟨0⟩ (String.ofList cs)).faults = [] := by
  intro symbols cs
  have name : Token.IsName "é_1" :=
    ⟨⟨'é', ['_', '1'], by decide +kernel, by decide +kernel, List.all_eq_true.mp (by decide +kernel)⟩, by decide⟩
  have spelled : Spelled symbols cs := by
    have spelling : cs = Symbol.let.spelling ++ [' ', '\t'] ++ ((Symbol.name "é_1").spelling ++ [' '] ++
        (Symbol.equals.spelling ++ [' '] ++ (Symbol.quotation "\"//\n").spelling)) := by decide +kernel
    rw [spelling]
    refine .more trivial (by decide) (by simp) (.more name (by decide) (by simp) ?_)
    exact .more trivial (by decide) (by simp) (.last trivial)
  exact ⟨spelled, scan_spelled spelled ⟨0⟩⟩

/-- All symbols of a text without faults can be spelled. -/
theorem scan_spellable {file : FileId} {text : String} (clean : (scan file text).faults = []) :
    Token.Each Symbol.Spellable (scan file text).stream.tokens :=
  Scan.ofChars_each (fun start c cs => (Token.lexeme_way file start c cs).spells) clean

end StageZero
