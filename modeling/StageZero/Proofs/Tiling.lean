import Mathlib.Tactic.SplitIfs
import StageZero.Proofs.Lines
import StageZero.Text.Octets

/-! Scanning is lossless. The gaps and the tokens of a text lie end to end over all of its bytes, each
starts and stops between characters, and only the newline's own token holds a newline. -/
namespace StageZero

/-! ### The bytes of characters -/

namespace Text

def newline : UInt8 := '\n'.toUInt8

/-- The octets that encode some characters. -/
def encode (cs : List Char) : Octets := cs.flatMap String.utf8EncodeChar

/-- The octets of a text from one place up to another. -/
def between (text : String) (start stop : Nat) : Octets := ((octets text).take stop).drop start

theorem octets_ofList (cs : List Char) : octets (String.ofList cs) = encode cs := by
  rw [octets, String.toUTF8_eq_toByteArray, String.toByteArray_ofList, List.utf8Encode]
  simp [encode]

theorem encode_append (front back : List Char) : encode (front ++ back) = encode front ++ encode back :=
  List.flatMap_append

theorem encode_cons (c : Char) (cs : List Char) : encode (c :: cs) = String.utf8EncodeChar c ++ encode cs :=
  List.flatMap_cons

theorem encode_length (cs : List Char) : (encode cs).length = Token.width cs := by
  induction cs with
  | nil => rfl
  | cons c cs ih => rw [encode_cons, List.length_append, String.length_utf8EncodeChar, ih, Token.width]

theorem between_ofList (front middle back : List Char) :
    between (String.ofList (front ++ middle ++ back)) (Token.width front) (Token.width (front ++ middle)) =
      encode middle := by
  rw [between, octets_ofList, encode_append, List.take_left' (encode_length _), encode_append,
    List.drop_left' (encode_length _)]

theorem between_self (text : String) (place : Nat) : between text place place = [] :=
  List.drop_eq_nil_of_le (List.length_take_le place _)

/-- The octet behind some characters is the first of what follows them. -/
theorem octets_getElem?_ofList (front back : List Char) :
    (octets (String.ofList (front ++ back)))[Token.width front]? = (encode back).head? := by
  rw [octets_ofList, encode_append, ← encode_length, List.getElem?_append_right (Nat.le_refl _), Nat.sub_self,
    List.head?_eq_getElem?]

theorem newline_mem_utf8EncodeChar {c : Char} : newline ∈ String.utf8EncodeChar c ↔ c = '\n' := by
  constructor
  · intro held
    have octet (n : Nat) (equal : newline = UInt8.ofNat n) : n % 256 = 10 := by
      have := congrArg UInt8.toNat equal
      rw [UInt8.toNat_ofNat'] at this
      exact this.symm
    have code : c.val.toNat = 10 := by
      unfold String.utf8EncodeChar at held
      dsimp only at held
      split_ifs at held <;> simp only [List.mem_cons, List.not_mem_nil, or_false] at held
      · have := octet _ held
        omega
      -- every byte of a longer encoding is at least 128
      · obtain held | held := held <;> have := octet _ held <;> omega
      · obtain held | held | held := held <;> have := octet _ held <;> omega
      · obtain held | held | held | held := held <;> have := octet _ held <;> omega
    exact Char.ext (UInt32.toNat_inj.mp code)
  · rintro rfl
    decide

theorem newline_mem_encode {cs : List Char} : newline ∈ encode cs ↔ '\n' ∈ cs := by
  rw [encode, List.mem_flatMap]
  simp only [newline_mem_utf8EncodeChar, exists_eq_right]

end Text

/-! ### Gaps and words -/

namespace Token

/-- Blanks, and behind them at most one comment, which goes on to the end of its line. -/
def IsGap (gap rest : List Char) : Prop :=
  ∃ blanks comment, gap = blanks ++ comment ∧ (∀ c ∈ blanks, isBlank c) ∧
    (comment = [] ∨ ∃ more, comment = '/' :: '/' :: more ∧ '\n' ∉ more ∧
      (rest = [] ∨ ∃ later, rest = '\n' :: later))

theorem newline_notMem_takeWhile {p : Char → Bool} (outside : p '\n' = false) (cs : List Char) :
    '\n' ∉ cs.takeWhile p := by
  intro held
  have inside := List.all_eq_true.mp List.all_takeWhile _ held
  rw [outside] at inside
  exact Bool.noConfusion inside

theorem dropWhile_isInLine (cs : List Char) :
    cs.dropWhile isInLine = [] ∨ ∃ later, cs.dropWhile isInLine = '\n' :: later := by
  induction cs with
  | nil => exact .inl rfl
  | cons c cs ih =>
      by_cases inside : isInLine c = true
      · rwa [List.dropWhile_cons_of_pos inside]
      · have : c = '\n' := by simpa [isInLine] using inside
        rw [List.dropWhile_cons_of_neg inside, this]
        exact .inr ⟨cs, rfl⟩

theorem gap_isGap (cs : List Char) : IsGap (gap cs) (afterGap cs) := by
  induction cs with
  | nil => exact ⟨[], [], rfl, List.forall_mem_nil _, .inl rfl⟩
  | cons c cs ih =>
      simp only [gap, afterGap]
      split_ifs with blank comment
      · obtain ⟨blanks, comment, parts, all, ends⟩ := ih
        exact ⟨c :: blanks, comment, congrArg (c :: ·) parts, List.forall_mem_cons.mpr ⟨blank, all⟩, ends⟩
      · obtain ⟨rfl, second⟩ := comment
        obtain ⟨later, rfl⟩ := List.head?_eq_some_iff.mp second
        exact ⟨[], _, rfl, List.forall_mem_nil _, .inr ⟨later.takeWhile isInLine, rfl,
          newline_notMem_takeWhile rfl later, dropWhile_isInLine later⟩⟩
      · exact ⟨[], [], rfl, List.forall_mem_nil _, .inl rfl⟩

theorem IsGap.newline_notMem {gap rest : List Char} (isGap : IsGap gap rest) : '\n' ∉ gap := by
  obtain ⟨blanks, comment, rfl, all, ends⟩ := isGap
  refine List.not_mem_append (fun held => absurd (all _ held) (by decide)) ?_
  obtain rfl | ⟨more, rfl, inLine, _⟩ := ends
  · exact List.not_mem_nil
  · simpa using inLine

theorem newline_notMem_quotation (offset : Nat) (cs : List Char) : '\n' ∉ (quotation offset cs).body := by
  fun_induction quotation offset cs with
  | case1 | case2 => exact List.not_mem_nil
  | case3 | case4 | case5 => exact List.not_mem_cons_of_ne_of_not_mem (by decide) List.not_mem_nil
  | case6 offset c rest newline _ _ good ih | case7 offset c rest newline _ good ih => 
      simpa using ⟨fun same => newline same.symm, ih⟩
  | case8 offset c rest newline quote last _ more _ ih => simpa using ⟨fun same => newline same.symm, ih⟩

end Token

/-- What a symbol can stand for: the newline for itself, any other for characters of one line. -/
def Symbol.Fits (symbol : Symbol) (word : List Char) : Prop :=
  word ≠ [] ∧ if symbol = .newline then word = ['\n'] else '\n' ∉ word

theorem Symbol.Fits.of_line {symbol : Symbol} {c : Char} {more : List Char} (first : c ≠ '\n')
    (later : '\n' ∉ more) (other : symbol ≠ .newline) : symbol.Fits (c :: more) := by
  refine ⟨List.cons_ne_nil _ _, ?_⟩
  rw [if_neg other]
  exact List.not_mem_cons_of_ne_of_not_mem first.symm later

theorem Token.Way.fits {file : FileId} {start : Nat} {c : Char} {cs : List Char} {read : Lexeme}
    (way : Way file start c cs read) : read.symbol.Fits (c :: read.more) := by
  have body := newline_notMem_quotation (start + 1) cs
  have digits := newline_notMem_takeWhile (p := Char.isDigit) rfl cs
  have parts := newline_notMem_takeWhile (p := isNamePart) (by decide +kernel) cs
  cases way with
  | sign sign =>
      have each : ∀ entry ∈ signs, if entry.2 = .newline then [entry.1] = ['\n'] else '\n' ∉ [entry.1] := by decide
      exact ⟨List.cons_ne_nil _ _, each _ sign⟩
  | arrow =>
      have arrow := List.not_mem_cons_of_ne_of_not_mem (show '\n' ≠ '>' by decide) List.not_mem_nil
      exact Symbol.Fits.of_line (by decide) arrow nofun
  | closed quoted | unclosed quoted => exact Symbol.Fits.of_line (by decide) (quoted ▸ body) nofun
  | number digit | large digit =>
      have other : c ≠ '\n' := by
        rintro rfl
        exact absurd digit (by decide)
      exact Symbol.Fits.of_line other digits nofun
  | word start =>
      have other : c ≠ '\n' := by
        rintro rfl
        exact absurd start (by decide +kernel)
      exact Symbol.Fits.of_line other parts (Symbol.ofWord_ne (by simp) (by decide))
  | unknown newline => exact Symbol.Fits.of_line newline List.not_mem_nil nofun

/-! ### Marks over a text -/

/-- Gaps and words in turn over some characters that stand behind others, with a mark for each word and one where the
characters end. -/
inductive Mark.Laid (file : FileId) : List Char → List Char → List Mark → Prop
  | stop {before gap : List Char} (blank : Token.IsGap gap []) :
      Laid file before gap [⟨none, ⟨file, Token.width (before ++ gap), Token.width (before ++ gap)⟩⟩]
  | word {before gap word rest : List Char} {symbol : Symbol} {marks : List Mark}
      (blank : Token.IsGap gap (word ++ rest)) (fits : symbol.Fits word)
      (later : Laid file (before ++ gap ++ word) rest marks) :
      Laid file before (gap ++ word ++ rest)
        (⟨some symbol, ⟨file, Token.width (before ++ gap), Token.width (before ++ gap ++ word)⟩⟩ :: marks)

theorem Scan.ofChars_laid (file : FileId) (before cs : List Char) :
    Mark.Laid file before cs (ofChars file (Token.width before) cs).stream.marks := by
  generalize place : Token.width before = offset
  induction offset, cs using ofChars.induct file generalizing before with
  | case1 offset cs found =>
      have blank := Token.gap_isGap cs
      have whole := Token.gap_append_afterGap cs
      rw [found] at blank whole
      have laid : Mark.Laid file before _ _ := .stop blank
      rw [ofChars_of_nil found, ← place]
      dsimp only
      rw [← Token.width_append]
      rw [List.append_nil] at whole
      rw [whole] at laid ⊢
      exact laid
  | case2 offset cs start c rest found next stop ih =>
      have whole := Token.gap_append_lexeme found file start
      have blank := Token.gap_isGap cs
      have parts := Token.lexeme_more_append_rest file start c rest
      rw [found, ← parts, ← List.cons_append] at blank
      have begins : Token.width (before ++ Token.gap cs) = start := by rw [Token.width_append, place]
      -- what is left begins where the token stops, which is what the hypothesis asks of `before`
      have ends : Token.width (before ++ Token.gap cs ++ (c :: next.more)) = stop := by
        rw [Token.width_append, begins]
      have laid := Mark.Laid.word blank (Token.lexeme_way file start c rest).fits (ih _ ends)
      rw [begins, ends, List.append_assoc, whole] at laid
      rw [ofChars_of_cons found, marks_behind]
      exact laid

theorem scan_laid (file : FileId) (text : String) : Mark.Laid file [] text.toList (scan file text).stream.marks :=
  Scan.ofChars_laid file [] text.toList

/-- Where the characters `piece` stand among others, in front of `back`. -/
def Text.Holds (chars : List Char) (start stop : Nat) (piece back : List Char) : Prop :=
  ∃ front, chars = front ++ piece ++ back ∧ start = Token.width front ∧ stop = Token.width (front ++ piece)

namespace Mark

/-- The places before, between and behind marks, from one place on. -/
def gaps (place : Nat) : List Mark → List (Nat × Nat)
  | [] => []
  | mark :: marks => (place, mark.span.start) :: gaps mark.span.stop marks

/-- The octets of the gaps and of the marks in turn, from one place on. -/
def pieces (text : String) (place : Nat) : List Mark → Text.Octets
  | [] => []
  | mark :: marks =>
    Text.between text place mark.span.start ++ Text.between text mark.span.start mark.span.stop ++
      pieces text mark.span.stop marks

namespace Laid

variable {file : FileId} {before cs : List Char} {marks : List Mark}

theorem regroup (before gap word rest : List Char) :
    before ++ gap ++ word ++ rest = before ++ (gap ++ word ++ rest) := by simp only [List.append_assoc]

theorem ends (laid : Laid file before cs marks) :
    ∃ front, marks = front ++ [⟨none, ⟨file, Token.width (before ++ cs), Token.width (before ++ cs)⟩⟩] ∧
      ∀ mark ∈ front, mark.symbol ≠ none := by
  induction laid with
  | stop blank => exact ⟨[], rfl, List.forall_mem_nil _⟩
  | @word before gap word rest symbol marks blank fits later ih =>
      obtain ⟨front, rfl, symbols⟩ := ih
      rw [regroup]
      exact ⟨_ :: front, rfl, List.forall_mem_cons.mpr ⟨Option.some_ne_none symbol, symbols⟩⟩

theorem words (laid : Laid file before cs marks) :
    ∀ mark ∈ marks, ∀ symbol, mark.symbol = some symbol → mark.span.file = file ∧
      ∃ word back, Text.Holds (before ++ cs) mark.span.start mark.span.stop word back ∧ symbol.Fits word := by
  induction laid with
  | stop blank => exact List.forall_mem_singleton.mpr nofun
  | @word before gap word rest symbol marks blank fits later ih =>
      rw [regroup] at ih
      refine List.forall_mem_cons.mpr ⟨?_, ih⟩
      rintro _ ⟨⟩
      exact ⟨rfl, word, rest, ⟨before ++ gap, (regroup ..).symm, rfl, rfl⟩, fits⟩

theorem behind (laid : Laid file before cs marks) : ∀ mark ∈ marks, Token.width before ≤ mark.span.start := by
  induction laid with
  | stop blank => simp [Token.width_append]
  | word blank fits later ih =>
      refine List.forall_mem_cons.mpr ⟨?_, fun mark member => ?_⟩
      · simp [Token.width_append]
      · have := ih mark member
        rw [Token.width_append, Token.width_append] at this
        omega

theorem ordered (laid : Laid file before cs marks) :
    marks.Pairwise fun earlier later => earlier.span.stop ≤ later.span.start := by
  induction laid with
  | stop blank => exact List.pairwise_singleton _ _
  | word blank fits later ih => exact List.pairwise_cons.mpr ⟨later.behind, ih⟩

theorem between (laid : Laid file before cs marks) :
    ∀ gap ∈ gaps (Token.width before) marks,
      ∃ piece back, Text.Holds (before ++ cs) gap.1 gap.2 piece back ∧ Token.IsGap piece back := by
  induction laid with
  | @stop before gap blank =>
      refine List.forall_mem_singleton.mpr ⟨gap, [], ⟨before, ?_, rfl, rfl⟩, blank⟩
      rw [List.append_nil]
  | @word before gap word rest symbol marks blank fits later ih =>
      rw [regroup] at ih
      refine List.forall_mem_cons.mpr ⟨⟨gap, word ++ rest, ⟨before, ?_, rfl, rfl⟩, blank⟩, ih⟩
      rw [← regroup, List.append_assoc]

/-- The pieces of a text from behind some of its characters are the octets of the others. -/
theorem pieces_eq (laid : Laid file before cs marks) :
    pieces (String.ofList (before ++ cs)) (Token.width before) marks = Text.encode cs := by
  induction laid with
  | @stop before gap blank =>
      have gapBytes := Text.between_ofList before gap []
      have stopBytes := Text.between_ofList (before ++ gap) [] []
      rw [List.append_nil] at gapBytes
      rw [List.append_nil, List.append_nil] at stopBytes
      simp only [pieces]
      rw [gapBytes, stopBytes, List.append_nil]
      exact List.append_nil _
  | @word before gap word rest symbol marks blank fits later ih =>
      have gapBytes := Text.between_ofList before gap (word ++ rest)
      have wordBytes := Text.between_ofList (before ++ gap) word rest
      rw [← List.append_assoc, regroup] at gapBytes
      rw [regroup] at wordBytes ih
      rw [pieces, gapBytes, wordBytes, ih, Text.encode_append, Text.encode_append]

end Laid
end Mark

namespace Text.Holds

variable {text : String} {start stop : Nat} {piece back : List Char}

theorem le (holds : Holds text.toList start stop piece back) : stop ≤ text.utf8ByteSize := by
  obtain ⟨front, chars, rfl, rfl⟩ := holds
  rw [← Token.width_toList, chars, Token.width_append (front ++ piece)]
  exact Nat.le_add_right ..

theorem lt (holds : Holds text.toList start stop piece back) (nonempty : piece ≠ []) : start < stop := by
  obtain ⟨front, chars, rfl, rfl⟩ := holds
  obtain ⟨c, more, rfl⟩ := List.exists_cons_of_ne_nil nonempty
  have := c.utf8Size_pos
  rw [Token.width_append, Token.width]
  omega

theorem isValid (holds : Holds text.toList start stop piece back) :
    String.Pos.Raw.IsValid text ⟨start⟩ ∧ String.Pos.Raw.IsValid text ⟨stop⟩ := by
  obtain ⟨front, chars, rfl, rfl⟩ := holds
  have whole : text = String.ofList (front ++ piece ++ back) := by rw [← chars, String.ofList_toList]
  have place (cs : List Char) : (⟨Token.width cs⟩ : String.Pos.Raw) = (String.ofList cs).rawEndPos := by
    rw [String.rawEndPos, ← Token.width_toList, String.toList_ofList]
  constructor
  · refine String.Pos.Raw.isValid_iff_exists_append.mpr ⟨.ofList front, .ofList (piece ++ back), ?_, place front⟩
    rw [whole, ← String.ofList_append, List.append_assoc]
  · refine String.Pos.Raw.isValid_iff_exists_append.mpr ⟨.ofList (front ++ piece), .ofList back, ?_, place _⟩
    rw [whole, ← String.ofList_append]

theorem between (holds : Holds text.toList start stop piece back) : between text start stop = encode piece := by
  obtain ⟨front, chars, rfl, rfl⟩ := holds
  rw [← String.ofList_toList (s := text), chars]
  exact between_ofList front piece back

theorem next (holds : Holds text.toList start stop piece back) : (octets text)[stop]? = (encode back).head? := by
  obtain ⟨front, chars, rfl, rfl⟩ := holds
  rw [← String.ofList_toList (s := text), chars]
  exact octets_getElem?_ofList (front ++ piece) back

end Text.Holds

/-- Blanks, and behind them at most one comment, which goes on up to a newline or the end of the text. `next` is the
octet behind, if there is one. -/
def Text.IsGap (gap : Octets) (next : Option UInt8) : Prop :=
  ∃ blanks comment, gap = blanks ++ comment ∧
    (∀ byte ∈ blanks, byte ∈ [' '.toUInt8, '\t'.toUInt8, '\r'.toUInt8]) ∧
    (comment = [] ∨ ∃ more, comment = '/'.toUInt8 :: '/'.toUInt8 :: more ∧ newline ∉ more ∧
      (next = none ∨ next = some newline))

theorem Token.IsGap.encode {gap rest : List Char} (isGap : IsGap gap rest) :
    Text.IsGap (Text.encode gap) (Text.encode rest).head? := by
  obtain ⟨blanks, comment, rfl, all, ends⟩ := isGap
  refine ⟨Text.encode blanks, Text.encode comment, Text.encode_append _ _, fun byte member => ?_, ?_⟩
  · obtain ⟨c, blank, coded⟩ := List.mem_flatMap.mp member
    have := all c blank
    simp only [isBlank, Bool.or_eq_true, beq_iff_eq] at this
    obtain (rfl | rfl) | rfl := this
    all_goals
      rw [List.mem_singleton.mp coded]
      decide
  · obtain rfl | ⟨more, rfl, inLine, stops⟩ := ends
    · exact .inl rfl
    · refine .inr ⟨Text.encode more, rfl, fun held => inLine (Text.newline_mem_encode.mp held), ?_⟩
      obtain rfl | ⟨later, rfl⟩ := stops
      · exact .inl rfl
      · exact .inr rfl

/-- Marks that cover a text: what lies between them is blank or a comment, and nothing of the text is lost. -/
structure Mark.Cover (file : FileId) (text : String) (marks : List Mark) : Prop where
  /-- The last mark, and no other, is the end of the text. -/
  ends : ∃ front, marks = front ++ [⟨none, ⟨file, text.utf8ByteSize, text.utf8ByteSize⟩⟩] ∧
    ∀ mark ∈ front, mark.symbol ≠ none
  spans : ∀ mark ∈ marks, mark.symbol ≠ none →
    mark.span.file = file ∧ mark.span.start < mark.span.stop ∧ mark.span.stop ≤ text.utf8ByteSize ∧
      String.Pos.Raw.IsValid text ⟨mark.span.start⟩ ∧ String.Pos.Raw.IsValid text ⟨mark.span.stop⟩
  ordered : marks.Pairwise fun earlier later => earlier.span.stop ≤ later.span.start
  gaps : ∀ gap ∈ gaps 0 marks,
    Text.IsGap (Text.between text gap.1 gap.2) (Text.octets text)[gap.2]? ∧
      Text.newline ∉ Text.between text gap.1 gap.2
  whole : pieces text 0 marks = Text.octets text
  lines : ∀ mark ∈ marks, mark.symbol ≠ some .newline →
    Text.newline ∉ Text.between text mark.span.start mark.span.stop

/-- Scanning reads every text to its end and loses nothing of it. -/
theorem scan_covers (file : FileId) (text : String) : Mark.Cover file text (scan file text).stream.marks := by
  have laid := scan_laid file text
  obtain ⟨front, marks, symbols⟩ := laid.ends
  refine ⟨⟨front, ?_, symbols⟩, fun mark member word => ?_, laid.ordered, fun gap member => ?_, ?_,
    fun mark member other => ?_⟩
  case refine_1 => rw [marks, List.nil_append, Token.width_toList]
  case refine_2 =>
    obtain ⟨symbol, named⟩ := Option.ne_none_iff_exists'.mp word
    obtain ⟨ofFile, piece, back, holds, fits⟩ := laid.words mark member symbol named
    exact ⟨ofFile, holds.lt fits.1, holds.le, holds.isValid⟩
  case refine_3 =>
    obtain ⟨piece, back, holds, isGap⟩ := laid.between gap member
    rw [holds.between, holds.next]
    exact ⟨isGap.encode, fun held => isGap.newline_notMem (Text.newline_mem_encode.mp held)⟩
  case refine_4 =>
    have all := laid.pieces_eq
    rw [List.nil_append, String.ofList_toList] at all
    rw [← String.ofList_toList (s := text), Text.octets_ofList, String.ofList_toList]
    exact all
  case refine_5 =>
    cases named : mark.symbol with
    | none =>
        rw [marks] at member
        obtain member | last := List.mem_append.mp member
        · exact absurd named (symbols mark member)
        · rw [List.mem_singleton.mp last, Text.between_self]
          exact List.not_mem_nil
    | some symbol =>
        obtain ⟨_, piece, back, holds, fits⟩ := laid.words mark member symbol named
        have line := fits.2
        rw [if_neg fun newline => other (named.trans (congrArg some newline))] at line
        rw [holds.between]
        exact fun held => line (Text.newline_mem_encode.mp held)

end StageZero
