import StageZero.Proofs.Tiling

/-! What the tokens and the faults of a text are read from. Each token is over the characters of one lexeme, and each
fault is a fault of the lexeme of one token. -/
namespace StageZero

/-! ### Slices -/

namespace Text

/-- The characters that a span is over. -/
def slice (text : String) (span : Span) : List Char :=
  ((text? (between text span.start span.stop)).getD "").toList

theorem slice_ofList (front piece back : List Char) (file : FileId) :
    slice (String.ofList (front ++ piece ++ back)) ⟨file, Token.width front, Token.width (front ++ piece)⟩ =
      piece := by
  have bytes := between_ofList front piece back
  rw [← octets_ofList] at bytes
  rw [slice, bytes, text?_octets, Option.getD_some, String.toList_ofList]

end Text

/-! ### Inside string literals -/

namespace Token

/-- The escape sequences in some characters of a string literal, of which the first stands at `offset`: where each
backslash stands, and the character behind it. -/
def escapes (offset : Nat) : List Char → List (Nat × Char)
  | '\\' :: c :: rest => (offset, c) :: escapes (offset + 1 + c.utf8Size) rest
  | c :: rest => escapes (offset + c.utf8Size) rest
  | [] => []

/-- What some characters of a string literal stand for. An escape sequence without a meaning stands for nothing. -/
def unescaped : List Char → List Char
  | '\\' :: c :: rest => (escape? c).toList ++ unescaped rest
  | c :: rest => c :: unescaped rest
  | [] => []

def strays (offset : Nat) (cs : List Char) : List (Nat × Char) :=
  (escapes offset cs).filter fun sequence => (escape? sequence.2).isNone

theorem escapes_plain {c : Char} (other : c ≠ '\\') (offset : Nat) (cs : List Char) :
    escapes offset (c :: cs) = escapes (offset + c.utf8Size) cs := by
  rw [escapes]
  simp [other]

theorem unescaped_plain {c : Char} (other : c ≠ '\\') (cs : List Char) : unescaped (c :: cs) = c :: unescaped cs := by
  rw [unescaped]
  simp [other]

theorem escapes_place (before cs : List Char) :
    ∀ sequence ∈ escapes (width before) cs,
      ∃ front back, cs = front ++ '\\' :: sequence.2 :: back ∧ sequence.1 = width (before ++ front) := by
  generalize place : width before = offset
  fun_induction escapes offset cs generalizing before with
  | case1 offset c rest ih =>
      refine List.forall_mem_cons.mpr ⟨⟨[], rest, rfl, by rw [List.append_nil, place]⟩, ?_⟩
      intro sequence member
      have along : width (before ++ ['\\', c]) = offset + 1 + c.utf8Size := by
        rw [width_append, place]
        exact (Nat.add_assoc ..).symm
      obtain ⟨front, back, rfl, there⟩ := ih _ along sequence member
      exact ⟨'\\' :: c :: front, back, rfl, by simp [there]⟩
  | case2 offset c rest _ ih =>
      intro sequence member
      have along : width (before ++ [c]) = offset + c.utf8Size := by
        rw [width_append, place]
        rfl
      obtain ⟨front, back, rfl, there⟩ := ih _ along sequence member
      exact ⟨c :: front, back, rfl, by simp [there]⟩
  | case3 => exact List.forall_mem_nil _

/-- The characters of a literal in front of its closing quote, if there is one, tell what it stands for and which escape
sequences in it have no meaning. -/
theorem quotation_eq (offset : Nat) (cs : List Char) :
    ∃ inner, (quotation offset cs).body = inner ++ (if (quotation offset cs).closed then ['"'] else []) ∧
      (quotation offset cs).strays = strays offset inner ∧
      ((quotation offset cs).closed = true → (quotation offset cs).value = unescaped inner) := by
  fun_induction quotation offset cs with
  | case1 | case2 | case3 => exact ⟨[], rfl, rfl, fun _ => rfl⟩
  | case4 | case5 => exact ⟨['\\'], rfl, rfl, fun closed => absurd closed Bool.false_ne_true⟩
  | case6 offset c rest newline q meant good ih =>
      obtain ⟨inner, body, found, value⟩ := ih
      refine ⟨'\\' :: c :: inner, by simp [q, body], ?_, ?_⟩
      · simp [q, found, strays, escapes, good]
      · intro closed
        simp [q, value closed, unescaped, good]
  | case7 offset c rest newline q bad ih =>
      obtain ⟨inner, body, found, value⟩ := ih
      refine ⟨'\\' :: c :: inner, by simp [q, body], ?_, ?_⟩
      · simp [q, found, strays, escapes, bad]
      · intro closed
        simp [q, value closed, unescaped, bad]
  | case8 offset c rest newline quote slash slashNewline slashOther q ih =>
      obtain ⟨inner, body, found, value⟩ := ih
      have other : c ≠ '\\' := by
        rintro rfl
        cases rest with
        | nil => exact slash rfl rfl
        | cons next rest => exact slashOther next rest rfl rfl
      refine ⟨c :: inner, by simp [q, body], ?_, ?_⟩
      · simp [q, found, strays, escapes_plain other]
      · intro closed
        simp [q, value closed, unescaped_plain other]

/-! ### What is reported of a lexeme -/

/-- What stands between the quotes of a string literal, or behind the one quote of a literal that is not closed. -/
def inner : Symbol → List Char → List Char
  | .quotation _, _ :: rest => rest.dropLast
  | .garbage, '"' :: rest => rest
  | _, _ => []

/-- Why some characters form no token. -/
def complaint : List Char → LexicalCause
  | [] | '"' :: _ => .unterminatedString
  | c :: _ => if c.isDigit then .integerOutOfRange else .unknownCharacter c

theorem inner_garbage {c : Char} (other : c ≠ '"') (cs : List Char) : inner .garbage (c :: cs) = [] := by
  unfold inner
  split <;> simp_all

theorem complaint_cons {c : Char} (other : c ≠ '"') (cs : List Char) :
    complaint (c :: cs) = if c.isDigit then .integerOutOfRange else .unknownCharacter c := by
  unfold complaint
  split <;> simp_all

namespace Way
variable {file : FileId} {start : Nat} {c : Char} {cs : List Char} {read : Lexeme}

theorem reported (way : Way file start c cs read) :
    read.faults = (strays (start + 1) (inner read.symbol (c :: read.more))).map (strayFault file) ++
      if read.symbol = .garbage then
        [⟨complaint (c :: read.more), ⟨file, start, start + width (c :: read.more)⟩⟩]
      else [] := by
  cases way with
  | sign sign =>
      have each : ∀ entry ∈ signs, inner entry.2 [entry.1] = [] ∧ entry.2 ≠ .garbage := by decide
      obtain ⟨nothing, other⟩ := each _ sign
      rw [nothing, if_neg other]
      rfl
  | arrow | number => rfl
  | @closed _ q quoted closed =>
      obtain ⟨inside, body, found, -⟩ := quotation_eq (start + 1) cs
      rw [quoted] at body found
      rw [if_pos closed] at body
      simp [body, found, inner]
  | @unclosed _ q quoted unclosed =>
      obtain ⟨inside, body, found, -⟩ := quotation_eq (start + 1) cs
      rw [quoted] at body found
      rw [unclosed, if_neg Bool.false_ne_true, List.append_nil] at body
      simp [body, found, inner, complaint, width, Nat.add_assoc]
      rfl
  | large digit =>
      have quote : c ≠ '"' := by
        rintro rfl
        exact absurd digit (by decide)
      simp [inner_garbage quote, complaint_cons quote, digit, strays, escapes]
  | word =>
      unfold Symbol.ofWord Symbol.keyword?
      split <;> rfl
  | unknown _ quote digit => simp [inner_garbage quote, complaint_cons quote, digit, strays, escapes, width]

/-- A string literal stands between its quotes, and its value is what it stands for. -/
theorem quotation_value (way : Way file start c cs read) {value : String} (quoted : read.symbol = .quotation value) :
    ∃ inside, c :: read.more = '"' :: (inside ++ ['"']) ∧ value.toList = unescaped inside := by
  cases way with
  | sign sign =>
      have each : ∀ entry ∈ signs, ∀ text, entry.2 ≠ .quotation text := by simp [signs]
      exact absurd quoted (each _ sign value)
  | @closed _ q same closed =>
      obtain ⟨inside, body, -, whole⟩ := quotation_eq (start + 1) cs
      rw [same] at body whole
      rw [if_pos closed] at body
      cases quoted
      exact ⟨inside, congrArg ('"' :: ·) body, String.toList_ofList.trans (whole closed)⟩
  | word => exact absurd quoted (Symbol.ofWord_ne (by simp) (by simp))
  | arrow | unclosed | number | large | unknown => cases quoted

/-- What stands inside a string literal stands behind its opening quote. -/
theorem inner_cases (way : Way file start c cs read) :
    inner read.symbol (c :: read.more) = [] ∨
      ∃ closing, c :: read.more = '"' :: (inner read.symbol (c :: read.more) ++ closing) := by
  cases kind : read.symbol with
  | quotation value =>
      obtain ⟨inside, shape, -⟩ := way.quotation_value kind
      refine .inr ⟨['"'], ?_⟩
      rw [shape, inner, List.dropLast_concat]
  | garbage =>
      by_cases quote : c = '"'
      · subst quote
        exact .inr ⟨[], by rw [inner, List.append_nil]⟩
      · exact .inl (inner_garbage quote _)
  | _ => exact .inl rfl

end Way

/-- An escape sequence without a meaning stands inside its lexeme, behind a quote. -/
theorem strays_place (file : FileId) (front : List Char) (c : Char) (cs : List Char) :
    let read := lexeme file (width front) c cs
    ∀ stray ∈ strays (width front + 1) (inner read.symbol (c :: read.more)), escape? stray.2 = none ∧
      ∃ before later, c :: read.more = '"' :: before ++ ['\\', stray.2] ++ later ∧
        stray.1 = width (front ++ '"' :: before) := by
  intro read stray member
  obtain ⟨sequence, bad⟩ := List.mem_filter.mp member
  rcases (lexeme_way file (width front) c cs).inner_cases with nothing | ⟨closing, word⟩
  · rw [nothing] at sequence
    cases sequence
  · have behind : width (front ++ ['"']) = width front + 1 := width_append ..
    rw [← behind] at sequence
    obtain ⟨before, later, inside, start⟩ := escapes_place _ _ _ sequence
    rw [inside] at word
    refine ⟨Option.isNone_iff_eq_none.mp bad, before, later ++ closing, ?_, ?_⟩
    · rw [word]
      simp
    · rw [start]
      simp

end Token

/-! ### Lexemes in turn -/

/-- The token of the lexeme that starts with `c` behind some characters. -/
def Token.ofLexeme (file : FileId) (front : List Char) (c : Char) (cs : List Char) : Token :=
  let read := lexeme file (width front) c cs
  ⟨read.symbol, ⟨file, width front, width (front ++ c :: read.more)⟩⟩

theorem Token.slice_ofLexeme {text : String} {front cs : List Char} {c : Char} (whole : text.toList = front ++ c :: cs)
    (file : FileId) :
    Text.slice text (ofLexeme file front c cs).span = c :: (lexeme file (width front) c cs).more := by
  have parts := lexeme_more_append_rest file (width front) c cs
  have regrouped : text =
      String.ofList (front ++ c :: (lexeme file (width front) c cs).more ++ (lexeme file (width front) c cs).rest) := by
    rw [List.append_assoc, List.cons_append, parts, ← whole, String.ofList_toList]
  rw [regrouped]
  exact Text.slice_ofList ..

/-- Gaps and lexemes in turn over some characters that stand behind others, with the tokens and the faults of the
lexemes. -/
inductive Scan.Lexed (file : FileId) : List Char → List Char → List Token → List (Fault LexicalCause) → Prop
  | stop {before gap} : Lexed file before gap [] []
  | word {before gap cs tokens faults} {c : Char} {read : Token.Lexeme}
      (lexeme : Token.lexeme file (Token.width (before ++ gap)) c cs = read)
      (later : Lexed file (before ++ gap ++ c :: read.more) read.rest tokens faults) :
      Lexed file before (gap ++ c :: cs) (Token.ofLexeme file (before ++ gap) c cs :: tokens) (read.faults ++ faults)

theorem Scan.ofChars_lexed (file : FileId) (before cs : List Char) :
    let scan := ofChars file (Token.width before) cs
    Lexed file before cs scan.stream.tokens scan.faults := by
  generalize place : Token.width before = offset
  induction offset, cs using ofChars.induct file generalizing before with
  | case1 offset cs found =>
      rw [ofChars_eq, found]
      exact .stop
  | case2 offset cs start c rest found next stop ih =>
      have parts := Token.gap_append_afterGap cs
      have begins : Token.width (before ++ Token.gap cs) = start := by rw [Token.width_append, place]
      have ends : Token.width (before ++ Token.gap cs ++ c :: next.more) = stop := by rw [Token.width_append, begins]
      have lexed : Lexed file before (Token.gap cs ++ c :: rest) _ _ := .word (by rw [begins]) (ih _ ends)
      rw [Token.ofLexeme, begins, ends, ← found, parts] at lexed
      rw [ofChars_eq, found]
      exact lexed

namespace Scan.Lexed
variable {file : FileId} {before cs : List Char} {tokens : List Token} {faults : List (Fault LexicalCause)}

theorem whole_eq {before gap cs : List Char} {c : Char} {read : Token.Lexeme} {start : Nat}
    (lexeme : Token.lexeme file start c cs = read) :
    before ++ gap ++ c :: read.more ++ read.rest = before ++ (gap ++ c :: cs) := by
  have parts := Token.lexeme_more_append_rest file start c cs
  rw [lexeme] at parts
  simp [← parts]

theorem exists_lexeme (lexed : Lexed file before cs tokens faults) :
    ∀ token ∈ tokens, ∃ front c rest, before ++ cs = front ++ c :: rest ∧
      token = Token.ofLexeme file front c rest := by
  induction lexed with
  | stop => exact List.forall_mem_nil _
  | word lexeme _ ih =>
      rw [whole_eq lexeme] at ih
      refine List.forall_mem_cons.mpr ⟨⟨_, _, _, ?_, rfl⟩, ih⟩
      simp

/-- What is reported of each lexeme in view of its token and its characters is, token by token, all that is reported. -/
theorem faults_eq {reported : Token → List Char → List (Fault LexicalCause)}
    (each : ∀ front c cs, (Token.lexeme file (Token.width front) c cs).faults =
      reported (Token.ofLexeme file front c cs) (c :: (Token.lexeme file (Token.width front) c cs).more))
    (lexed : Lexed file before cs tokens faults) {text : String} (whole : text.toList = before ++ cs) :
    faults = tokens.flatMap fun token => reported token (Text.slice text token.span) := by
  induction lexed with
  | stop => rfl
  | @word before gap cs tokens faults c read lexeme _ ih =>
      have here : text.toList = before ++ gap ++ c :: cs := by rw [whole, List.append_assoc]
      rw [List.flatMap_cons, Token.slice_ofLexeme here, ← each, lexeme, ← ih (whole.trans (whole_eq lexeme).symm)]

end Scan.Lexed

/-- Every token of a text is that of a lexeme in it. -/
theorem Token.exists_lexeme {file : FileId} {text : String} {token : Token}
    (member : token ∈ (scan file text).stream.tokens) :
    ∃ front c cs, text.toList = front ++ c :: cs ∧ token = ofLexeme file front c cs :=
  (Scan.ofChars_lexed file [] text.toList).exists_lexeme token member

end StageZero
