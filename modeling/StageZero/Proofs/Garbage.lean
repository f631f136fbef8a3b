import StageZero.Proofs.Causes
import StageZero.Proofs.Lexemes

/-! What is reported of a text while it is scanned. Each garbage token is reported once, over just its characters, and
each escape sequence without a meaning once, where it stands in a string literal. What a literal stands for is what is
written between its quotes, with the escape sequences replaced or left out. -/
namespace StageZero

namespace Token

/-! ### What is reported of a token -/

/-- The faults for the escape sequences without a meaning in a token that is written as `word`. -/
def strayFaults (token : Token) (word : List Char) : List (Fault LexicalCause) :=
  (strays (token.span.start + 1) (inner token.symbol word)).map (strayFault token.span.file)

/-- The fault for a token of garbage that is written as `word`. -/
def garbageFault (token : Token) (word : List Char) : Fault LexicalCause := ⟨complaint word, token.span⟩

/-- All that is reported of a token. -/
def reported (token : Token) (word : List Char) : List (Fault LexicalCause) :=
  token.strayFaults word ++ if token.symbol = .garbage then [token.garbageFault word] else []

end Token

theorem Token.reported_ofLexeme (file : FileId) (front : List Char) (c : Char) (cs : List Char) :
    (ofLexeme file front c cs).reported (c :: (lexeme file (width front) c cs).more) =
      (lexeme file (width front) c cs).faults := by
  rw [(lexeme_way file (width front) c cs).reported, ofLexeme, width_append]
  rfl

theorem scan_faults (file : FileId) (text : String) :
    (scan file text).faults =
      (scan file text).stream.tokens.flatMap fun token => token.reported (Text.slice text token.span) := by
  have lexed := Scan.ofChars_lexed file [] text.toList
  exact lexed.faults_eq (fun front c cs => (Token.reported_ofLexeme file front c cs).symm) rfl

/-! ### Which diagnostics are of which kind -/

def LexicalCause.isStray : LexicalCause → Bool
  | .unknownEscape _ => true
  | .unknownCharacter _ | .integerOutOfRange | .unterminatedString => false

theorem startsWith_unknownEscape (fault : Fault LexicalCause) :
    fault.diagnostic.startsWith "unknown escape sequence" = fault.cause.isStray := by
  obtain ⟨cause, span⟩ := fault
  cases cause with
  | unknownCharacter c =>
      have message : LexicalCause.message (.unknownCharacter c) = "unknown character '" ++ (c.toString ++ "'") :=
        String.append_assoc ..
      exact Diagnostic.startsWith_eq_false message (by decide +kernel) (by decide +kernel)
  | integerOutOfRange =>
      have message : LexicalCause.message .integerOutOfRange = "integer literal out of range" ++ "" :=
        String.append_empty.symm
      exact Diagnostic.startsWith_eq_false message (by decide +kernel) (by decide +kernel)
  | unterminatedString =>
      have message : LexicalCause.message .unterminatedString = "unterminated string literal" ++ "" :=
        String.append_empty.symm
      exact Diagnostic.startsWith_eq_false message (by decide +kernel) (by decide +kernel)
  | unknownEscape c =>
      have message : LexicalCause.message (.unknownEscape c) = "unknown escape sequence '\\" ++ (c.toString ++ "'") :=
        String.append_assoc ..
      exact Diagnostic.startsWith_eq_true message (by decide +kernel)

namespace Token

theorem isStray_of_mem_strayFaults {token : Token} {word : List Char} {fault : Fault LexicalCause}
    (member : fault ∈ token.strayFaults word) : fault.cause.isStray = true := by
  obtain ⟨stray, -, rfl⟩ := List.mem_map.mp member
  rfl

theorem isStray_complaint (word : List Char) : (complaint word).isStray = false := by
  unfold complaint
  split
  · rfl
  · rfl
  · split <;> rfl

theorem filter_reported (token : Token) (word : List Char) :
    ((token.reported word).filter fun fault => fault.cause.isStray) = token.strayFaults word ∧
      ((token.reported word).filter fun fault => !fault.cause.isStray) =
        if token.symbol = .garbage then [token.garbageFault word] else [] := by
  have strays : ∀ fault ∈ token.strayFaults word, fault.cause.isStray = true := fun _ => isStray_of_mem_strayFaults
  have own : (token.garbageFault word).cause.isStray = false := isStray_complaint word
  rw [reported, List.filter_append, List.filter_append]
  constructor
  · rw [List.filter_eq_self.mpr strays]
    split <;> simp [own]
  · rw [List.filter_eq_nil_iff.mpr (by simpa using strays)]
    split <;> simp [own]

end Token

/-- Items with one thing to each of some kind, and nothing to the others. -/
theorem flatMap_ite_singleton {α β : Type} (p : α → Prop) [DecidablePred p] (f : α → β) (items : List α) :
    (items.flatMap fun item => if p item then [f item] else []) = (items.filter p).map f := by
  induction items with
  | nil => rfl
  | cons item items ih => by_cases holds : p item <;> simp [holds, ih]

/-! ### Where escape sequences stand -/

namespace Token

/-- A stray of a token stands inside it, over a backslash and one character more. -/
theorem strayFaults_inside {file : FileId} {text : String} {token : Token}
    (member : token ∈ (scan file text).stream.tokens) :
    ∀ fault ∈ token.strayFaults (Text.slice text token.span), ∃ c, fault.cause = .unknownEscape c ∧
      escape? c = none ∧ Text.slice text fault.span = ['\\', c] ∧
      token.span.start < fault.span.start ∧ fault.span.stop ≤ token.span.stop := by
  intro fault stray
  obtain ⟨front, first, cs, whole, rfl⟩ := Token.exists_lexeme member
  rw [slice_ofLexeme whole] at stray
  obtain ⟨⟨place, c⟩, found, rfl⟩ := List.mem_map.mp stray
  obtain ⟨bad, before, later, word, start⟩ := strays_place file front first cs _ found
  dsimp only at bad word start
  have stop : place + 1 + c.utf8Size = width (front ++ '"' :: before ++ ['\\', c]) := by
    rw [width_append _ ['\\', c], ← start]
    exact Nat.add_assoc ..
  have text_eq : text.toList =
      front ++ '"' :: before ++ ['\\', c] ++ (later ++ (lexeme file (width front) first cs).rest) := by
    calc text.toList = front ++ first :: cs := whole
      _ = front ++ (first :: (lexeme file (width front) first cs).more ++ _) := by
        rw [List.cons_append, lexeme_more_append_rest]
      _ = _ := by rw [word]; simp
  refine ⟨c, rfl, bad, ?_, ?_, ?_⟩
  · rw [strayFault]
    dsimp only
    rw [stop, start, ← String.ofList_toList (s := text), text_eq]
    exact Text.slice_ofList ..
  · change width front < place
    rw [start, width_append, width]
    have := Char.utf8Size_pos '"'
    omega
  · change place + 1 + c.utf8Size ≤ width (front ++ first :: (lexeme file (width front) first cs).more)
    rw [stop, word]
    simp only [width_append, width, List.cons_append]
    omega

end Token

theorem filter_diagnostics (keep : Bool → Bool) (faults : List (Fault LexicalCause)) :
    ((faults.map Fault.diagnostic).filter fun diagnostic => keep (diagnostic.startsWith "unknown escape sequence")) =
      (faults.filter fun fault => keep fault.cause.isStray).map Fault.diagnostic := by
  rw [List.filter_map]
  refine congrArg (List.map Fault.diagnostic) (List.filter_congr fun fault _ => ?_)
  exact congrArg keep (startsWith_unknownEscape fault)

/-- Whatever the text, its diagnostics and its tokens tell of each other. But for escape sequences there is one
diagnostic for each garbage token, over just that token, in the order of the text. For escape sequences there is one for
each that has no meaning, over its backslash and the character behind it, inside a string literal that is closed or
garbage. And the value of a closed one is what stands between its quotes, with each escape sequence replaced by its
character, or left out where it has no meaning. -/
theorem reports_of_tokens (file : FileId) (text : String) :
    let tokens := (scan file text).stream.tokens
    let diagnostics := (scan file text).faults.map Fault.diagnostic
    let isStray := Diagnostic.startsWith "unknown escape sequence"
    (diagnostics.filter fun diagnostic => !isStray diagnostic) =
        (tokens.filter fun token => token.symbol = .garbage).map
          (fun token => (token.garbageFault (Text.slice text token.span)).diagnostic) ∧
      diagnostics.filter isStray =
        tokens.flatMap (fun token => (token.strayFaults (Text.slice text token.span)).map Fault.diagnostic) ∧
      (∀ token ∈ tokens, ∀ fault ∈ token.strayFaults (Text.slice text token.span), ∃ c,
        fault.cause = .unknownEscape c ∧ Token.escape? c = none ∧ Text.slice text fault.span = ['\\', c] ∧
          token.span.start < fault.span.start ∧ fault.span.stop ≤ token.span.stop) ∧
      ∀ token ∈ tokens, ∀ value, token.symbol = .quotation value →
        ∃ inside, Text.slice text token.span = '"' :: (inside ++ ['"']) ∧
          value.toList = Token.unescaped inside := by
  intro tokens diagnostics isStray
  refine ⟨?_, ?_, fun token member => Token.strayFaults_inside member, ?_⟩
  · refine (filter_diagnostics not _).trans ?_
    rw [scan_faults, List.filter_flatMap]
    simp only [Token.filter_reported, flatMap_ite_singleton, List.map_map]
    rfl
  · refine (filter_diagnostics id _).trans ?_
    rw [scan_faults, List.filter_flatMap]
    simp only [id_eq, Token.filter_reported, List.map_flatMap]
    rfl
  · intro token member value quoted
    obtain ⟨front, c, cs, whole, rfl⟩ := Token.exists_lexeme member
    rw [Token.slice_ofLexeme whole]
    exact (Token.lexeme_way file _ c cs).quotation_value quoted

end StageZero
