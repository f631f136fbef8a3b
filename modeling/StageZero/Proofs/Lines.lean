import StageZero.Proofs.Scanning

/-! Scanning goes line by line. No reader looks beyond a newline, so a newline ends what is read as the end
of a text does, and what stands behind it is scanned as a text of its own. -/
namespace StageZero

/-! ### Moving along -/

def Span.shift (distance : Nat) (span : Span) : Span :=
  { span with start := span.start + distance, stop := span.stop + distance }

def Token.shift (distance : Nat) (token : Token) : Token := { token with span := token.span.shift distance }

def Mark.shift (distance : Nat) (mark : Mark) : Mark := { mark with span := mark.span.shift distance }

def Stream.shift (distance : Nat) (stream : Stream) : Stream :=
  ⟨stream.tokens.map (Token.shift distance), stream.stop.shift distance⟩

def Fault.shift {Cause : Type} (distance : Nat) (fault : Fault Cause) : Fault Cause :=
  { fault with span := fault.span.shift distance }

/-- A diagnostic with all its places moved along. -/
def Diagnostic.shift (distance : Nat) (diagnostic : Diagnostic) : Diagnostic :=
  { diagnostic with
    span := diagnostic.span.shift distance
    hint := diagnostic.hint.map fun hint => { hint with span := hint.span.shift distance } }

def Scan.shift (distance : Nat) (scan : Scan) : Scan :=
  ⟨scan.stream.shift distance, scan.faults.map (Fault.shift distance)⟩

theorem Stream.marks_shift (distance : Nat) (stream : Stream) :
    (stream.shift distance).marks = stream.marks.map (Mark.shift distance) := by
  rw [marks, marks, List.map_append, List.map_map, shift, List.map_map]
  rfl

theorem Fault.diagnostic_shift (distance : Nat) (fault : Fault LexicalCause) :
    (fault.shift distance).diagnostic = fault.diagnostic.shift distance := rfl

namespace Token

/-! ### String literals -/

def Quotation.shift (distance : Nat) (q : Quotation) : Quotation :=
  { q with strays := q.strays.map fun (place, c) => (place + distance, c) }

/-- The literal whose reading goes on with these characters. -/
def Quotation.before (q : Quotation) (cs : List Char) : Quotation := { q with rest := q.rest ++ cs }

theorem quotation_plain {c : Char} (newline : c ≠ '\n') (quote : c ≠ '"') (slash : c ≠ '\\') (offset : Nat)
    (rest : List Char) :
    quotation offset (c :: rest) =
      let q := quotation (offset + c.utf8Size) rest
      { q with body := c :: q.body, value := c :: q.value } := by
  rw [quotation]
  all_goals simp_all

theorem quotation_escaped {c meant : Char} (newline : c ≠ '\n') (good : escape? c = some meant) (offset : Nat)
    (rest : List Char) :
    quotation offset ('\\' :: c :: rest) =
      let q := quotation (offset + 1 + c.utf8Size) rest
      { q with body := '\\' :: c :: q.body, value := meant :: q.value } := by
  rw [quotation, good]
  exact newline

theorem quotation_stray {c : Char} (newline : c ≠ '\n') (bad : escape? c = none) (offset : Nat)
    (rest : List Char) :
    quotation offset ('\\' :: c :: rest) =
      let q := quotation (offset + 1 + c.utf8Size) rest
      { q with body := '\\' :: c :: q.body, strays := (offset, c) :: q.strays } := by
  rw [quotation, bad]
  exact newline

/-- What stands behind a backslash, or nothing, is read together with it. -/
theorem ne_slash {c : Char} {rest : List Char} (last : c = '\\' → rest = [] → False)
    (more : ∀ next later, c = '\\' → rest = next :: later → False) : c ≠ '\\' := by
  rintro rfl
  cases rest with
  | nil => exact last rfl rfl
  | cons next later => exact more next later rfl rfl

theorem quotation_shift (distance offset : Nat) (cs : List Char) :
    quotation (offset + distance) cs = (quotation offset cs).shift distance := by
  fun_induction quotation offset cs with
  | case1 | case2 | case3 | case4 | case5 => rfl
  | case6 offset c rest newline _ _ good ih =>
      have along : offset + distance + 1 + c.utf8Size = offset + 1 + c.utf8Size + distance := by omega
      rw [quotation_escaped newline good, along, ih]
      rfl
  | case7 offset c rest newline _ bad ih =>
      have along : offset + distance + 1 + c.utf8Size = offset + 1 + c.utf8Size + distance := by omega
      rw [quotation_stray newline bad, along, ih]
      rfl
  | case8 offset c rest newline quote last _ more _ ih =>
      rw [quotation_plain newline quote (ne_slash last more), Nat.add_right_comm, ih]
      rfl

theorem quotation_line (offset : Nat) (cs rest : List Char) :
    quotation offset (cs ++ '\n' :: rest) = (quotation offset cs).before ('\n' :: rest) := by
  fun_induction quotation offset cs with
  | case1 | case2 | case3 | case4 | case5 => rfl
  | case6 offset c later newline _ _ good ih =>
      rw [List.cons_append, List.cons_append, quotation_escaped newline good, ih]
      rfl
  | case7 offset c later newline _ bad ih =>
      rw [List.cons_append, List.cons_append, quotation_stray newline bad, ih]
      rfl
  | case8 offset c later newline quote last _ more _ ih =>
      rw [List.cons_append, quotation_plain newline quote (ne_slash last more), ih]
      rfl

/-! ### Tokens and gaps -/

def Lexeme.shift (distance : Nat) (lexeme : Lexeme) : Lexeme :=
  { lexeme with faults := lexeme.faults.map (Fault.shift distance) }

/-- The lexeme that leaves some characters more. -/
def Lexeme.before (lexeme : Lexeme) (cs : List Char) : Lexeme := { lexeme with rest := lexeme.rest ++ cs }

/-- The lexeme of a literal whose opening quote stands at `start`. -/
def Quotation.lexeme (q : Quotation) (file : FileId) (start : Nat) : Lexeme :=
  let strays := q.strays.map fun (place, c) => ⟨.unknownEscape c, ⟨file, place, place + 1 + c.utf8Size⟩⟩
  if q.closed then ⟨.quotation (String.ofList q.value), q.body, q.rest, strays⟩
  else ⟨.garbage, q.body, q.rest, strays ++ [⟨.unterminatedString, ⟨file, start, start + 1 + width q.body⟩⟩]⟩

theorem Quotation.lexeme_before (q : Quotation) (file : FileId) (start : Nat) (cs : List Char) :
    (q.before cs).lexeme file start = (q.lexeme file start).before cs := by
  unfold Quotation.lexeme
  cases closed : q.closed <;> simp [Quotation.before, Lexeme.before, closed]

theorem Quotation.lexeme_shift (distance : Nat) (q : Quotation) (file : FileId) (start : Nat) :
    (q.shift distance).lexeme file (start + distance) = (q.lexeme file start).shift distance := by
  have along (n width : Nat) : n + distance + width = n + width + distance := Nat.add_right_comm ..
  unfold Quotation.lexeme
  cases closed : q.closed <;>
    simp [Quotation.shift, Lexeme.shift, Fault.shift, Span.shift, closed, along]

/-- A run that a newline does not belong to ends in front of it. -/
theorem run_line {p : Char → Bool} (outside : p '\n' = false) (cs rest : List Char) :
    (cs ++ '\n' :: rest).takeWhile p = cs.takeWhile p ∧
      (cs ++ '\n' :: rest).dropWhile p = cs.dropWhile p ++ '\n' :: rest := by
  induction cs with
  | nil => simp [outside]
  | cons c cs ih =>
      by_cases inside : p c = true
      · simp [inside, ih]
      · simp [inside]

theorem gap_line (cs rest : List Char) :
    gap (cs ++ '\n' :: rest) = gap cs ∧ afterGap (cs ++ '\n' :: rest) = afterGap cs ++ '\n' :: rest := by
  induction cs with
  | nil => exact ⟨rfl, rfl⟩
  | cons c cs ih =>
      have ahead : (cs ++ '\n' :: rest).head? = some '/' ↔ cs.head? = some '/' := by
        cases cs <;> simp
      by_cases blank : isBlank c = true
      · simp only [List.cons_append, gap, afterGap, if_pos blank, ih]
        exact ⟨trivial, trivial⟩
      · by_cases comment : c = '/' ∧ cs.head? = some '/'
        · simp only [List.cons_append, gap, afterGap, if_neg blank, ahead, if_pos comment]
          exact run_line (p := isInLine) rfl (c :: cs) rest
        · simp only [List.cons_append, gap, afterGap, if_neg blank, ahead, if_neg comment]
          exact ⟨trivial, trivial⟩

theorem lexeme_line (file : FileId) (start : Nat) (c : Char) (cs rest : List Char) :
    lexeme file start c (cs ++ '\n' :: rest) = (lexeme file start c cs).before ('\n' :: rest) := by
  obtain ⟨digits, behindDigits⟩ := run_line (p := Char.isDigit) rfl cs rest
  obtain ⟨parts, behindParts⟩ := run_line (p := isNamePart) (by decide +kernel) cs rest
  unfold lexeme
  dsimp only
  split
  case h_10 =>
    cases cs with
    | nil => rfl
    | cons next cs =>
        by_cases arrow : next = '>'
        · subst arrow
          rfl
        · simp [arrow, Lexeme.before]
  case h_11 =>
    change (quotation (start + 1) (cs ++ '\n' :: rest)).lexeme file start =
      ((quotation (start + 1) cs).lexeme file start).before ('\n' :: rest)
    rw [quotation_line, Quotation.lexeme_before]
  case h_12 =>
    rw [digits, behindDigits, parts, behindParts]
    split
    · split <;> rfl
    · split <;> rfl
  all_goals rfl

theorem lexeme_shift (distance : Nat) (file : FileId) (start : Nat) (c : Char) (cs : List Char) :
    lexeme file (start + distance) c cs = (lexeme file start c cs).shift distance := by
  have along (width : Nat) : start + distance + width = start + width + distance := Nat.add_right_comm ..
  unfold lexeme
  dsimp only
  split
  case h_10 =>
    rw [along]
    split <;> rfl
  case h_11 =>
    change (quotation (start + distance + 1) cs).lexeme file (start + distance) =
      ((quotation (start + 1) cs).lexeme file start).shift distance
    rw [along, quotation_shift, Quotation.lexeme_shift]
  case h_12 =>
    rw [along, along]
    split
    · split <;> rfl
    · split <;> rfl
  all_goals rfl

end Token

/-! ### Texts -/

namespace Scan

/-- A scan with one token more in front. -/
def behind (later : Scan) (token : Token) (faults : List (Fault LexicalCause)) : Scan :=
  ⟨⟨token :: later.stream.tokens, later.stream.stop⟩, faults ++ later.faults⟩

/-- Two scans, the second of what stands behind the first. -/
def join (first second : Scan) : Scan :=
  ⟨⟨first.stream.tokens ++ second.stream.tokens, second.stream.stop⟩, first.faults ++ second.faults⟩

theorem behind_join (first second : Scan) (token : Token) (faults : List (Fault LexicalCause)) :
    (first.behind token faults).join second = (first.join second).behind token faults := by
  simp [behind, join]

theorem behind_shift (distance : Nat) (later : Scan) (token : Token) (faults : List (Fault LexicalCause)) :
    (later.behind token faults).shift distance =
      (later.shift distance).behind (token.shift distance) (faults.map (Fault.shift distance)) := by
  simp [behind, shift, Stream.shift]

theorem ofChars_of_nil {cs : List Char} (found : Token.afterGap cs = []) (file : FileId) (offset : Nat) :
    ofChars file offset cs =
      let start := offset + Token.width (Token.gap cs)
      ⟨⟨[], ⟨file, start, start⟩⟩, []⟩ := by
  rw [ofChars_eq, found]

theorem ofChars_of_cons {cs rest : List Char} {c : Char} (found : Token.afterGap cs = c :: rest) (file : FileId)
    (offset : Nat) :
    ofChars file offset cs =
      let start := offset + Token.width (Token.gap cs)
      let next := Token.lexeme file start c rest
      let stop := start + Token.width (c :: next.more)
      (ofChars file stop next.rest).behind ⟨next.symbol, ⟨file, start, stop⟩⟩ next.faults := by
  rw [ofChars_eq, found]
  rfl

theorem ofChars_shift (distance : Nat) (file : FileId) (offset : Nat) (cs : List Char) :
    ofChars file (offset + distance) cs = (ofChars file offset cs).shift distance := by
  have along (n width : Nat) : n + distance + width = n + width + distance := Nat.add_right_comm ..
  induction offset, cs using ofChars.induct file with
  | case1 offset cs found =>
      rw [ofChars_of_nil found, ofChars_of_nil found]
      dsimp only
      rw [along]
      rfl
  | case2 offset cs start c rest found next stop ih =>
      rw [ofChars_of_cons found, ofChars_of_cons found]
      dsimp only
      rw [behind_shift, along, Token.lexeme_shift]
      dsimp only [Token.Lexeme.shift]
      rw [along, ih]
      rfl

/-- The line behind a newline is scanned alone. -/
theorem ofChars_line (file : FileId) (offset : Nat) (cs rest : List Char) :
    ofChars file offset (cs ++ '\n' :: rest) =
      let place := offset + Token.width cs
      (ofChars file offset cs).join
        ((ofChars file (place + 1) rest).behind ⟨.newline, ⟨file, place, place + 1⟩⟩ []) := by
  induction offset, cs using ofChars.induct file with
  | case1 offset cs found =>
      obtain ⟨gap, behind⟩ := Token.gap_line cs rest
      rw [found, List.nil_append] at behind
      have whole : Token.gap cs = cs := by
        rw [← List.append_nil (Token.gap cs), ← found, Token.gap_append_afterGap]
      rw [ofChars_of_cons behind, ofChars_of_nil found, gap, whole]
      rfl
  | case2 offset cs start c more found next stop ih =>
      obtain ⟨gap, later⟩ := Token.gap_line cs rest
      rw [found, List.cons_append] at later
      have width := congrArg Token.width (Token.gap_append_lexeme found file start)
      rw [Token.width_append, Token.width_append] at width
      have whole : offset + Token.width cs = stop + Token.width next.rest := by
        rw [← width]
        simp only [stop, start, next, Nat.add_assoc]
      rw [ofChars_of_cons later, ofChars_of_cons found, gap]
      dsimp only
      rw [Token.lexeme_line, behind_join, whole]
      exact congrArg (behind · ⟨next.symbol, ⟨file, start, stop⟩⟩ next.faults) ih

theorem marks_behind (later : Scan) (token : Token) (faults : List (Fault LexicalCause)) :
    (later.behind token faults).stream.marks = token.mark :: later.stream.marks := rfl

theorem marks_join (first second : Scan) :
    (first.join second).stream.marks = first.stream.marks.dropLast ++ second.stream.marks := by
  rw [Stream.marks, Stream.marks, Stream.marks, List.dropLast_concat, join, List.map_append, List.append_assoc]

end Scan

theorem scan_append_newline (file : FileId) (first second : String) :
    let place := first.utf8ByteSize
    scan file (first ++ "\n" ++ second) = (scan file first).join
      (((scan file second).shift (place + 1)).behind ⟨.newline, ⟨file, place, place + 1⟩⟩ []) := by
  intro place
  have chars : (first ++ "\n" ++ second).toList = first.toList ++ '\n' :: second.toList := by
    rw [String.toList_append, String.toList_append, List.append_assoc]
    rfl
  have shifted := Scan.ofChars_shift (place + 1) file 0 second.toList
  rw [Nat.zero_add] at shifted
  rw [scan, scan, scan, ← shifted, chars, Scan.ofChars_line, Token.width_toList, Nat.zero_add]

/-- A text of two parts with a newline between them is scanned part by part, whatever the parts are. -/
theorem scan_line (file : FileId) (first second : String) :
    let place := first.utf8ByteSize
    let whole := scan file (first ++ "\n" ++ second)
    whole.stream.marks = (scan file first).stream.marks.dropLast ++ ⟨some .newline, ⟨file, place, place + 1⟩⟩ ::
        (scan file second).stream.marks.map (Mark.shift (place + 1)) ∧
      whole.faults.map Fault.diagnostic = (scan file first).faults.map Fault.diagnostic ++
        ((scan file second).faults.map Fault.diagnostic).map (Diagnostic.shift (place + 1)) := by
  intro place whole
  have parted : whole = (scan file first).join
      (((scan file second).shift (place + 1)).behind ⟨.newline, ⟨file, place, place + 1⟩⟩ []) :=
    scan_append_newline file first second
  rw [parted]
  constructor
  · rw [Scan.marks_join, Scan.marks_behind]
    exact congrArg (_ ++ _ :: ·) (Stream.marks_shift (place + 1) (scan file second).stream)
  · change List.map _ (_ ++ (scan file second).faults.map (Fault.shift (place + 1))) = _
    rw [List.map_append, List.map_map, List.map_map]
    exact congrArg (_ ++ ·) (List.map_congr_left fun fault _ => fault.diagnostic_shift (place + 1))

end StageZero
