import StageZero.Token.Scan

/-! Scanning reports what forms no token. -/
namespace StageZero

/-- Tokens whose symbols all have a property. -/
def Token.Each (P : Symbol → Prop) (tokens : List Token) : Prop := ∀ token ∈ tokens, P token.symbol

theorem Token.Each.append_iff {P : Symbol → Prop} {front back : List Token} :
    Each P (front ++ back) ↔ Each P front ∧ Each P back := List.forall_mem_append

theorem Token.Each.cons_iff {P : Symbol → Prop} {token : Token} {rest : List Token} :
    Each P (token :: rest) ↔ P token.symbol ∧ Each P rest := List.forall_mem_cons

/-- Tokens among which is no garbage. -/
def Token.Clean (tokens : List Token) : Prop := ∀ token ∈ tokens, token.symbol ≠ .garbage

/-- A word is read as itself, or as one of the keywords. -/
theorem Symbol.ofWord_ne {word : String} {other : Symbol} (name : other ≠ .name word)
    (keyword : other ∉ [.function, .let, .return]) : ofWord word ≠ other := by
  unfold ofWord keyword?
  split
  case h_4 => exact name.symm
  all_goals
    rintro rfl
    exact keyword (by decide)

/-! ### The ways to read a token -/

namespace Token

/-- Characters that are tokens of their own. -/
def signs : List (Char × Symbol) :=
  [('\n', .newline), ('(', .openParen), (')', .closeParen), ('\x7b', .openBrace), ('\x7d', .closeBrace), (',', .comma),
    (';', .semicolon), (':', .colon), ('=', .equals)]

/-- An escape sequence without a meaning is reported over its backslash and the character behind it. -/
def strayFault (file : FileId) (stray : Nat × Char) : Fault LexicalCause :=
  ⟨.unknownEscape stray.2, ⟨file, stray.1, stray.1 + 1 + stray.2.utf8Size⟩⟩

/-- The ways to read a token from its first character and those behind it. -/
inductive Way (file : FileId) (start : Nat) : Char → List Char → Lexeme → Prop
  | sign {c cs symbol} : (c, symbol) ∈ signs → Way file start c cs ⟨symbol, [], cs, []⟩
  | arrow {rest} : Way file start '-' ('>' :: rest) ⟨.arrow, ['>'], rest, []⟩
  | closed {cs q} : quotation (start + 1) cs = q → q.closed = true →
      Way file start '"' cs ⟨.quotation (String.ofList q.value), q.body, q.rest, q.strays.map (strayFault file)⟩
  | unclosed {cs q} : quotation (start + 1) cs = q → q.closed = false →
      Way file start '"' cs ⟨.garbage, q.body, q.rest, q.strays.map (strayFault file) ++
        [⟨.unterminatedString, ⟨file, start, start + 1 + width q.body⟩⟩]⟩
  | number {c cs} {value : Nat} : c.isDigit = true → Nat.ofDigitChars 10 (c :: cs.takeWhile Char.isDigit) 0 = value →
      value ≤ maxNumber →
      Way file start c cs ⟨.number value, cs.takeWhile Char.isDigit, cs.dropWhile Char.isDigit, []⟩
  | large {c cs} : c.isDigit = true → maxNumber < Nat.ofDigitChars 10 (c :: cs.takeWhile Char.isDigit) 0 →
      Way file start c cs ⟨.garbage, cs.takeWhile Char.isDigit, cs.dropWhile Char.isDigit,
        [⟨.integerOutOfRange, ⟨file, start, start + width (c :: cs.takeWhile Char.isDigit)⟩⟩]⟩
  | word {c cs} : isNameStart c = true →
      Way file start c cs ⟨Symbol.ofWord (String.ofList (c :: cs.takeWhile isNamePart)), cs.takeWhile isNamePart,
        cs.dropWhile isNamePart, []⟩
  | unknown {c cs} : c ≠ '\n' → c ≠ '"' → c.isDigit = false →
      Way file start c cs ⟨.garbage, [], cs, [⟨.unknownCharacter c, ⟨file, start, start + c.utf8Size⟩⟩]⟩

theorem lexeme_way (file : FileId) (start : Nat) (c : Char) (cs : List Char) :
    Way file start c cs (lexeme file start c cs) := by
  unfold lexeme
  dsimp only
  split
  case h_10 =>
    split
    case h_1 => exact .arrow
    case h_2 => exact .unknown (by decide) (by decide) rfl
  case h_11 =>
    split
    case isTrue closed => exact .closed rfl closed
    case isFalse unclosed => exact .unclosed rfl (Bool.eq_false_iff.mpr unclosed)
  case h_12 newline _ _ _ _ _ _ _ _ _ quote =>
    split
    case isTrue digit =>
      split
      case isTrue fits => exact .number digit rfl fits
      case isFalse large => exact .large digit (Nat.lt_of_not_le large)
    case isFalse digit =>
      split
      case isTrue start => exact .word start
      case isFalse => exact .unknown newline quote (Bool.eq_false_iff.mpr digit)
  all_goals exact .sign (by decide)

/-- Garbage is always reported. -/
def Lexeme.Reports (lexeme : Lexeme) : Prop := lexeme.symbol = .garbage → lexeme.faults ≠ []

theorem Way.reports {file : FileId} {start : Nat} {c : Char} {cs : List Char} {read : Lexeme}
    (way : Way file start c cs read) : read.Reports := by
  cases way with
  | sign sign =>
      have other : ∀ entry ∈ signs, entry.2 ≠ .garbage := by decide
      exact fun garbage => absurd garbage (other _ sign)
  | arrow | closed | number => exact nofun
  | unclosed => exact fun _ => List.append_ne_nil_of_right_ne_nil _ (List.cons_ne_nil _ _)
  | large | unknown => exact fun _ => List.cons_ne_nil _ _
  | word => exact fun garbage => absurd garbage (Symbol.ofWord_ne (by simp) (by decide))

end Token

/-! ### Texts -/

theorem Token.width_append (front back : List Char) : width (front ++ back) = width front + width back := by
  induction front with
  | nil => exact (Nat.zero_add _).symm
  | cons c front ih => rw [List.cons_append, width, width, ih, Nat.add_assoc]

theorem Token.width_toList (text : String) : width text.toList = text.utf8ByteSize := by
  rw [String.utf8ByteSize, ← String.utf8Encode_toList, List.utf8Encode, List.size_toByteArray]
  induction text.toList with
  | nil => rfl
  | cons c cs ih => rw [List.flatMap_cons, List.length_append, String.length_utf8EncodeChar, width, ih]

/-- A gap, a token and what is left are all of the characters. -/
theorem Token.gap_append_lexeme {cs rest : List Char} {c : Char} (found : afterGap cs = c :: rest) (file : FileId)
    (start : Nat) :
    gap cs ++ (c :: (lexeme file start c rest).more ++ (lexeme file start c rest).rest) = cs := by
  rw [List.cons_append, lexeme_more_append_rest, ← found, gap_append_afterGap]

theorem Scan.ofChars_eq (file : FileId) (offset : Nat) (cs : List Char) :
    ofChars file offset cs =
      let start := offset + Token.width (Token.gap cs)
      match Token.afterGap cs with
      | [] => ⟨⟨[], ⟨file, start, start⟩⟩, []⟩
      | c :: rest =>
        let next := Token.lexeme file start c rest
        let stop := start + Token.width (c :: next.more)
        let later := ofChars file stop next.rest
        ⟨⟨⟨next.symbol, ⟨file, start, stop⟩⟩ :: later.stream.tokens, later.stream.stop⟩,
          next.faults ++ later.faults⟩ := by
  rw [ofChars]
  dsimp only
  split
  case h_1 found => rw [found]
  case h_2 found => rw [found]

/-- What holds of each symbol that is read without faults holds of all tokens of a text without
faults. -/
theorem Scan.ofChars_each {P : Symbol → Prop} {file : FileId} {offset : Nat} {cs : List Char}
    (reads : ∀ start c cs, (Token.lexeme file start c cs).faults = [] → P (Token.lexeme file start c cs).symbol)
    (clean : (ofChars file offset cs).faults = []) : Token.Each P (ofChars file offset cs).stream.tokens := by
  induction offset, cs using ofChars.induct file with
  | case1 offset cs found =>
      rw [ofChars_eq, found]
      exact List.forall_mem_nil _
  | case2 offset cs start c rest found next stop ih =>
      rw [ofChars_eq, found] at clean ⊢
      obtain ⟨cleanFirst, cleanLater⟩ := List.append_eq_nil_iff.mp clean
      exact Token.Each.cons_iff.mpr ⟨reads start c rest cleanFirst, ih cleanLater⟩

/-- What is scanned without faults has no garbage. -/
theorem scan_clean {file : FileId} {text : String} (clean : (scan file text).faults = []) :
    Token.Clean (scan file text).stream.tokens := by
  have each : Token.Each (· ≠ .garbage) (scan file text).stream.tokens := by
    refine Scan.ofChars_each (fun start c cs nothing garbage => ?_) clean
    exact (Token.lexeme_way file start c cs).reports garbage nothing
  exact each

end StageZero
