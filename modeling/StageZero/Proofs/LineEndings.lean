import Mathlib.Order.MinMax
import StageZero.Proofs.Rejection
import StageZero.Proofs.Spacing

/-! Line endings. A carriage return in front of a newline is a blank, or part of a comment, or part of a literal that
the newline breaks off. So it changes no symbol, and as it is no newline itself, no symbol comes to stand on another
line. -/
namespace StageZero

/-! ### Characters with carriage returns -/

namespace Text

/-- Characters with a carriage return in front of every newline. -/
def returned : List Char → List Char
  | [] => []
  | c :: cs => if c = '\n' then '\r' :: '\n' :: returned cs else c :: returned cs

/-- The same without the first carriage return, if a newline is first: a reader has gone past it. -/
def resumed : List Char → List Char
  | [] => []
  | c :: cs => c :: returned cs

def withReturns (text : String) : String := String.ofList (returned text.toList)

theorem returned_newline (cs : List Char) : returned ('\n' :: cs) = '\r' :: '\n' :: returned cs := if_pos rfl

theorem returned_cons {c : Char} (other : c ≠ '\n') (cs : List Char) : returned (c :: cs) = c :: returned cs :=
  if_neg other

/-- What is first stays first, but for a newline. -/
theorem head?_returned {c : Char} (newline : c ≠ '\n') (return_ : c ≠ '\r') (cs : List Char) :
    (returned cs).head? = some c ↔ cs.head? = some c := by
  cases cs with
  | nil => rfl
  | cons first cs =>
      by_cases same : first = '\n'
      · subst same
        rw [returned_newline, List.head?_cons, List.head?_cons, Option.some.injEq, Option.some.injEq]
        exact ⟨fun same => absurd same.symm return_, fun same => absurd same.symm newline⟩
      · rw [returned_cons same, List.head?_cons, List.head?_cons]

/-- A run to which neither a newline nor a carriage return belongs. -/
theorem run_returned {p : Char → Bool} (newline : p '\n' = false) (return_ : p '\r' = false) (cs : List Char) :
    (returned cs).takeWhile p = cs.takeWhile p ∧ (returned cs).dropWhile p = returned (cs.dropWhile p) := by
  induction cs with
  | nil => exact ⟨rfl, rfl⟩
  | cons c cs ih =>
      by_cases same : c = '\n'
      · simp [same, returned_newline, newline, return_]
      · rw [returned_cons same]
        by_cases inside : p c = true
        · simp [inside, ih]
        · simp [inside, returned_cons same]

end Text

namespace Token
open Text (returned resumed)

theorem comment_returned (cs : List Char) : (returned cs).dropWhile isInLine = resumed (cs.dropWhile isInLine) := by
  induction cs with
  | nil => rfl
  | cons c cs ih =>
      by_cases same : c = '\n'
      · subst same
        rw [Text.returned_newline]
        rfl
      · have inside : isInLine c = true := by simpa [isInLine] using same
        rw [Text.returned_cons same, List.dropWhile_cons_of_pos inside, List.dropWhile_cons_of_pos inside, ih]

/-- A gap swallows the carriage return of the newline behind it. -/
theorem afterGap_returned (cs : List Char) : afterGap (returned cs) = resumed (afterGap cs) := by
  induction cs with
  | nil => rfl
  | cons c cs ih =>
      by_cases same : c = '\n'
      · subst same
        rw [Text.returned_newline]
        rfl
      · have ahead := Text.head?_returned (c := '/') (by decide) (by decide) cs
        have line := comment_returned (c :: cs)
        rw [Text.returned_cons same] at line ⊢
        simp only [afterGap, ahead]
        split
        case isTrue => exact ih
        case isFalse =>
          split
          case isTrue => exact line
          case isFalse => rfl

/-- Two literals, the second of characters with carriage returns. -/
structure Quotation.Returned (q other : Quotation) : Prop where
  closed : q.closed = other.closed
  value : q.closed = true → q.value = other.value
  strays : q.closed = true → (q.strays = [] ↔ other.strays = [])
  rest : afterGap other.rest = resumed (afterGap q.rest)

theorem quotation_returned (offset place : Nat) (cs : List Char) :
    (quotation offset cs).Returned (quotation place (returned cs)) := by
  have unclosed {p : Prop} (closed : false = true) : p := absurd closed Bool.false_ne_true
  fun_induction quotation offset cs generalizing place with
  | case1 => exact ⟨rfl, unclosed, unclosed, rfl⟩
  | case2 offset rest =>
      -- the carriage return is the last character of what is broken off
      rw [Text.returned_newline, quotation_plain (by decide) (by decide) (by decide)]
      exact ⟨rfl, unclosed, unclosed, rfl⟩
  | case3 offset rest =>
      rw [Text.returned_cons (by decide)]
      exact ⟨rfl, fun _ => rfl, fun _ => Iff.rfl, afterGap_returned rest⟩
  | case4 => exact ⟨rfl, unclosed, unclosed, rfl⟩
  | case5 offset rest =>
      -- a stray escape, which breaks nothing that the newline does not break
      rw [Text.returned_cons (by decide), Text.returned_newline, quotation_stray (by decide) rfl]
      exact ⟨rfl, unclosed, unclosed, rfl⟩
  | case6 offset c rest newline q meant good ih =>
      obtain ⟨closed, value, strays, left⟩ := ih (place + 1 + c.utf8Size)
      rw [Text.returned_cons (by decide), Text.returned_cons newline, quotation_escaped newline good]
      exact ⟨closed, fun isClosed => congrArg (meant :: ·) (value isClosed), strays, left⟩
  | case7 offset c rest newline q bad ih =>
      obtain ⟨closed, value, strays, left⟩ := ih (place + 1 + c.utf8Size)
      rw [Text.returned_cons (by decide), Text.returned_cons newline, quotation_stray newline bad]
      exact ⟨closed, value, fun _ => iff_of_false (List.cons_ne_nil _ _) (List.cons_ne_nil _ _), left⟩
  | case8 offset c rest newline quote last q more _ ih =>
      obtain ⟨closed, value, strays, left⟩ := ih (place + c.utf8Size)
      rw [Text.returned_cons newline, quotation_plain newline quote (ne_slash last more)]
      exact ⟨closed, fun isClosed => congrArg (c :: ·) (value isClosed), strays, left⟩

/-- Two lexemes, the second of characters with carriage returns. -/
structure Lexeme.Returned (lexeme other : Lexeme) : Prop where
  symbol : lexeme.symbol = other.symbol
  faults : lexeme.faults = [] ↔ other.faults = []
  rest : afterGap other.rest = resumed (afterGap lexeme.rest)

theorem Quotation.Returned.lexeme {q other : Quotation} (returned : q.Returned other) (file id : FileId)
    (start place : Nat) : (q.lexeme file start).Returned (other.lexeme id place) := by
  have closed := returned.closed
  have value := returned.value
  have strays := returned.strays
  unfold Quotation.lexeme
  dsimp only
  rw [← closed]
  split
  case isTrue isClosed =>
    refine ⟨congrArg (fun cs => Symbol.quotation (String.ofList cs)) (value isClosed), ?_, returned.rest⟩
    rw [List.map_eq_nil_iff, List.map_eq_nil_iff]
    exact strays isClosed
  case isFalse =>
    have reported {α : Type} (faults : List α) (fault : α) : faults ++ [fault] ≠ [] :=
      List.append_ne_nil_of_right_ne_nil _ (List.cons_ne_nil _ _)
    exact ⟨rfl, iff_of_false (reported _ _) (reported _ _), returned.rest⟩

theorem lexeme_returned (file id : FileId) (start place : Nat) (c : Char) (cs : List Char) :
    (lexeme file start c cs).Returned (lexeme id place c (returned cs)) := by
  obtain ⟨digits, behindDigits⟩ := Text.run_returned (p := Char.isDigit) rfl rfl cs
  obtain ⟨parts, behindParts⟩ := Text.run_returned (p := isNamePart) (by decide +kernel) (by decide +kernel) cs
  have unknown (fault other : Fault LexicalCause) :
      Lexeme.Returned ⟨.garbage, [], cs, [fault]⟩ ⟨.garbage, [], returned cs, [other]⟩ :=
    ⟨rfl, iff_of_false (List.cons_ne_nil _ _) (List.cons_ne_nil _ _), afterGap_returned cs⟩
  unfold lexeme
  dsimp only
  split
  case h_10 =>
    split
    case h_1 rest =>
      rw [Text.returned_cons (by decide)]
      exact ⟨rfl, Iff.rfl, afterGap_returned rest⟩
    case h_2 notArrow =>
      split
      case h_1 later shape =>
        have ahead := (Text.head?_returned (c := '>') (by decide) (by decide) cs).mp (shape ▸ rfl)
        obtain ⟨rest, arrow⟩ := List.head?_eq_some_iff.mp ahead
        exact (notArrow rest arrow).elim
      case h_2 => exact unknown _ _
  case h_11 => exact (quotation_returned (start + 1) (place + 1) cs).lexeme file id start place
  case h_12 =>
    rw [digits, behindDigits, parts, behindParts]
    split
    case isTrue =>
      split
      case isTrue => exact ⟨rfl, Iff.rfl, afterGap_returned _⟩
      case isFalse => exact ⟨rfl, iff_of_false (List.cons_ne_nil _ _) (List.cons_ne_nil _ _), afterGap_returned _⟩
    case isFalse =>
      split
      case isTrue => exact ⟨rfl, Iff.rfl, afterGap_returned _⟩
      case isFalse => exact unknown _ _
  all_goals exact ⟨rfl, Iff.rfl, afterGap_returned cs⟩

end Token

/-! ### Texts with carriage returns -/

/-- Two scans of the same symbols, both with faults or both without. -/
structure Scan.Returned (scan other : Scan) : Prop where
  symbols : scan.stream.marks.map Mark.symbol = other.stream.marks.map Mark.symbol
  faults : scan.faults = [] ↔ other.faults = []

theorem Scan.ofChars_returned (file id : FileId) (offset : Nat) (cs : List Char) :
    ∀ place others, Token.afterGap others = Text.resumed (Token.afterGap cs) →
      (ofChars file offset cs).Returned (ofChars id place others) := by
  induction offset, cs using ofChars.induct file with
  | case1 offset cs found =>
      intro place others returned
      rw [found] at returned
      rw [ofChars_of_nil found, ofChars_of_nil returned]
      exact ⟨rfl, Iff.rfl⟩
  | case2 offset cs start c rest found next stop ih =>
      intro place others returned
      rw [found] at returned
      let begins := place + Token.width (Token.gap others)
      obtain ⟨symbol, faults, left⟩ := Token.lexeme_returned file id start begins c rest
      obtain ⟨symbols, faultsLater⟩ := ih _ _ left
      rw [ofChars_of_cons found, ofChars_of_cons returned]
      constructor
      · rw [marks_behind, marks_behind, List.map_cons, List.map_cons]
        exact congrArg₂ (fun first later => some first :: later) symbol symbols
      · change _ ++ _ = [] ↔ _ ++ _ = []
        rw [List.append_eq_nil_iff, List.append_eq_nil_iff]
        exact and_congr faults faultsLater

theorem scan_returned (file id : FileId) (text : String) :
    (scan file text).Returned (scan id (Text.withReturns text)) := by
  unfold scan Text.withReturns
  rw [String.toList_ofList]
  exact Scan.ofChars_returned file id 0 _ 0 _ (Token.afterGap_returned _)

/-! ### Lines -/

theorem Text.count_newline_encode (cs : List Char) : (encode cs).count newline = cs.count '\n' := by
  induction cs with
  | nil => rfl
  | cons c cs ih =>
      rw [encode_cons, List.count_append, ih]
      by_cases same : c = '\n'
      · subst same
        rw [List.count_cons_self, Nat.add_comm]
        rfl
      · have none : (String.utf8EncodeChar c).count newline = 0 :=
          List.count_eq_zero.mpr (mt newline_mem_utf8EncodeChar.mp same)
        rw [none, Nat.zero_add, List.count_cons_of_ne same]

/-- A place is on the line whose number is that of the newlines before it. -/
theorem SourceFile.lineOf_width (location : Location) (front back : List Char) :
    lineOf ⟨location, String.ofList (front ++ back)⟩ (Token.width front) = front.count '\n' + 1 := by
  rw [lineOf, Text.octets_ofList, Text.encode_append, List.take_left' (Text.encode_length front)]
  exact congrArg (· + 1) (Text.count_newline_encode front)

theorem SourceFile.lineOf_mono (file : SourceFile) : Monotone file.lineOf := fun _ _ le =>
  Nat.add_le_add_right ((List.take_prefix_take_left le).sublist.count_le _) 1

theorem Symbol.Fits.count_newline {symbol : Symbol} {word : List Char} (fits : symbol.Fits word) :
    word.count '\n' = if symbol = .newline then 1 else 0 := by
  have line := fits.2
  split at line
  case isTrue newline =>
    subst newline
    rw [line]
    rfl
  case isFalse other => rw [if_neg other, List.count_eq_zero.mpr line]

/-- Symbols of a file with the line that each stands on, from one line on. -/
def Mark.numbered (file : FileId) (line : Nat) : List (Option Symbol) → List (Option Symbol × FileId × Nat)
  | [] => []
  | symbol :: later =>
    (symbol, file, line) :: numbered file (if symbol = some .newline then line + 1 else line) later

/-- Only a newline's own symbol makes a new line, so the symbols say on which line each stands. -/
theorem Mark.Laid.numbered {file : FileId} {before cs : List Char} {marks : List Mark} (laid : Laid file before cs marks)
    (location : Location) :
    let source : SourceFile := ⟨location, String.ofList (before ++ cs)⟩
    marks.map (fun mark => (mark.symbol, mark.span.file, source.lineOf mark.span.start)) =
      Mark.numbered file (before.count '\n' + 1) (marks.map Mark.symbol) := by
  induction laid with
  | @stop before gap blank =>
      have place := SourceFile.lineOf_width location (before ++ gap) []
      rw [List.count_append, List.count_eq_zero.mpr blank.newline_notMem, List.append_nil] at place
      exact congrArg (fun line => [(none, file, line)]) place
  | @word before gap word rest symbol marks blank fits later ih =>
      have place := SourceFile.lineOf_width location (before ++ gap) (word ++ rest)
      rw [List.count_append, List.count_eq_zero.mpr blank.newline_notMem, ← List.append_assoc, regroup] at place
      have lines : (before ++ gap ++ word).count '\n' + 1 =
          if some symbol = some .newline then before.count '\n' + 1 + 1 else before.count '\n' + 1 := by
        rw [List.count_append, List.count_append, List.count_eq_zero.mpr blank.newline_notMem, fits.count_newline]
        by_cases newline : symbol = .newline
        · rw [if_pos newline, if_pos (congrArg some newline)]
        · rw [if_neg newline, if_neg (mt Option.some.inj newline)]
      rw [regroup, lines] at ih
      dsimp only
      rw [List.map_cons, List.map_cons, Mark.numbered]
      exact congrArg₂ (fun line later => (some symbol, file, line) :: later) place ih

/-! ### The same lines -/

/-- Spans of the same file that start on lines of the same number, in two versions of the file. -/
def Span.Level (source other : SourceFile) (span place : Span) : Prop :=
  span.file = place.file ∧ source.lineOf span.start = other.lineOf place.start

theorem Span.level_covers (source other : SourceFile) : Span.Covers (Span.Level source other) := by
  rintro first like later behind ⟨file, line⟩ ⟨-, lineLater⟩
  refine ⟨file, ?_⟩
  change source.lineOf (min first.start later.start) = other.lineOf (min like.start behind.start)
  rw [source.lineOf_mono.map_min, other.lineOf_mono.map_min, line, lineLater]

theorem scan_level (file : FileId) (location : Location) (text : String) :
    (scan file text).stream.Alike (Span.Level ⟨location, text⟩ ⟨location, Text.withReturns text⟩)
      (scan file (Text.withReturns text)).stream := by
  let source : SourceFile := ⟨location, text⟩
  let other : SourceFile := ⟨location, Text.withReturns text⟩
  have lines := (scan_laid file text).numbered location
  have likewise := (scan_laid file other.contents).numbered location
  rw [List.nil_append, String.ofList_toList] at lines likewise
  rw [(scan_returned file file text).symbols] at lines
  have same : (scan file text).stream.marks.map
        (fun mark => (mark.symbol, mark.span.file, source.lineOf mark.span.start)) =
      (scan file other.contents).stream.marks.map
        fun mark => (mark.symbol, mark.span.file, other.lineOf mark.span.start) := lines.trans likewise.symm
  rw [← List.forall₂_eq_eq_eq, List.forall₂_map_left_iff, List.forall₂_map_right_iff] at same
  refine Stream.alike_of_marks (same.imp fun mark like equal => ?_)
  obtain ⟨symbol, place⟩ := Prod.mk.inj equal
  exact ⟨symbol, Prod.mk.inj place⟩

/-- The line marks of two versions of a file at one location are the same where the lines are. -/
theorem Cxx.lineMark_eq_of_level {location : Location} {text other : String} {span place : Span}
    (level : span.Level ⟨location, text⟩ ⟨location, other⟩ place) :
    lineMark [⟨location, text⟩] span = lineMark [⟨location, other⟩] place := by
  obtain ⟨file, line⟩ := level
  unfold lineMark
  rw [file]
  rcases place.file with ⟨index⟩
  cases index with
  | zero =>
      dsimp only [Sources.file?, List.getElem?_cons_zero]
      rw [line]
  | succ => rfl

theorem Cxx.emit_level {location : Location} {text other : String} {program like : Program}
    (alike : program.Alike (Span.Level ⟨location, text⟩ ⟨location, other⟩) like) :
    emit (some [⟨location, text⟩]) program = emit (some [⟨location, other⟩]) like := by
  refine emit_eq_of_alike (fun row likeRow same => ?_) alike
  rw [statement, statement, statementLine_eq_of_alike same, lineMark_eq_of_level same.span]

theorem nil_iff_of_alike {α : Type} {V : α → α → Prop} {items others : List α} (alike : List.Forall₂ V items others) :
    items = [] ↔ others = [] := by
  rw [← List.length_eq_zero_iff, alike.length_eq, List.length_eq_zero_iff]

variable {Memory : Type}

/-- In a context without diagnostics code is generated just if nothing is found. -/
theorem Pipeline.builtin_generates_iff {session : Session Memory} {id : FileId} {file : SourceFile}
    (ready : session.context.currentSource = .ok (id, file)) (fresh : session.context.diagnostics = [])
    (lineMarks : Bool) (code : String) :
    ((builtin lineMarks).run session).1 = .ok (.generated code) ↔
      findings id file = [] ∧
        Cxx.emit (if lineMarks then some session.context.files else none) (programOf id file.contents) = code := by
  obtain ⟨lines, run⟩ := builtin_run ready lineMarks
  have errors : (session.context.record (findings id file)).hasErrors = !(findings id file).isEmpty := by
    rw [Context.hasErrors, Context.record, fresh, List.nil_append]
  rw [run, errors]
  cases findings id file with
  | nil => simp [programOf, treeOf]
  | cons => simp

section
variable (file : FileId) (location : Location) (text : String)

theorem findings_returned :
    findings file ⟨location, text⟩ = [] ↔ findings file ⟨location, Text.withReturns text⟩ = [] := by
  have covers := Span.level_covers ⟨location, text⟩ ⟨location, Text.withReturns text⟩
  have streams := scan_level file location text
  have lexical := (scan_returned file file text).faults
  have read := nil_iff_of_alike (parse_alike covers streams).faults
  have typed := nil_iff_of_alike (check_alike_of_scan covers ⟨rfl, rfl⟩ streams).faults
  simp only [findings, List.append_eq_nil_iff, List.map_eq_nil_iff]
  exact and_congr (and_congr lexical read) typed

theorem emit_returned (lineMarks : Bool) :
    Cxx.emit (if lineMarks then some [⟨location, text⟩] else none) (programOf file text) =
      Cxx.emit (if lineMarks then some [⟨location, Text.withReturns text⟩] else none)
        (programOf file (Text.withReturns text)) := by
  have covers := Span.level_covers ⟨location, text⟩ ⟨location, Text.withReturns text⟩
  have programs := (check_alike_of_scan covers ⟨rfl, rfl⟩ (scan_level file location text)).value
  cases lineMarks with
  | true => exact Cxx.emit_level programs
  | false => exact Cxx.emit_none_eq_of_alike programs

end

/-- How lines end does not matter: with a carriage return in front of every newline a text has the same symbols and,
but for places, the same tree, and the compiler generates the same code for it or none for both. -/
theorem line_endings_irrelevant (text : String) :
    let returned := Text.withReturns text
    (∀ file id : FileId,
      (scan file text).stream.marks.map Mark.symbol = (scan id returned).stream.marks.map Mark.symbol ∧
        (treeOf file text).unplaced = (treeOf id returned).unplaced) ∧
    ∀ (flags : DebugFlags) (disk other : Disk) (directory : List Name) (path : Path) (memory : Memory),
      disk.readText directory (Location.ofPath directory path).path = .ok text →
      other.readText directory (Location.ofPath directory path).path = .ok returned →
      ∃ id context likewise,
        ({ flags := flags } : Context).register disk directory path = .ok (id, context) ∧
        ({ flags := flags } : Context).register other directory path = .ok (id, likewise) ∧
        ∀ lineMarks code,
          ((Pipeline.builtin lineMarks).run ⟨context.setCurrent id, disk, directory, [], memory⟩).1 =
              .ok (.generated code) ↔
            ((Pipeline.builtin lineMarks).run ⟨likewise.setCurrent id, other, directory, [], memory⟩).1 =
              .ok (.generated code) := by
  intro returned
  constructor
  · intro file id
    have same := (scan_returned file id text).symbols
    exact ⟨same, (parse_alike Span.any_covers (Stream.alike_of_symbols same)).file.unplaced⟩
  · intro flags disk other directory path memory read readOther
    let location := Location.ofPath directory path
    let start : Context := { flags := flags }
    let id : FileId := ⟨0⟩
    have registered : start.register disk directory path = .ok (id, (start.enter location text).2) := by
      unfold Context.register
      dsimp only
      rw [read]
      rfl
    have registeredOther : start.register other directory path = .ok (id, (start.enter location returned).2) := by
      unfold Context.register
      dsimp only
      rw [readOther]
      rfl
    refine ⟨id, _, _, registered, registeredOther, fun lineMarks code => ?_⟩
    have generates (version : String) (disk : Disk) :
        ((Pipeline.builtin lineMarks).run
            ⟨(start.enter location version).2.setCurrent id, disk, directory, [], memory⟩).1 = .ok (.generated code) ↔
          findings id ⟨location, version⟩ = [] ∧
            Cxx.emit (if lineMarks then some [⟨location, version⟩] else none) (programOf id version) = code :=
      Pipeline.builtin_generates_iff rfl rfl lineMarks code
    rw [generates text disk, generates returned other, findings_returned, emit_returned]

/-- A program with a comment that takes in the carriage return, on one disk each way. -/
theorem line_endings_irrelevant_comment :
    let text := "function main() \x7b // \"\n\x7d"
    let returned := "function main() \x7b // \"\r\n\x7d"
    let path : Path := ⟨[0x61]⟩
    let disk (contents : String) := Disk.empty.put [[0x61]] (.file (.bytes (Text.octets contents)) false)
    Text.withReturns text = returned ∧
      (disk text).readText [] (Location.ofPath [] path).path = .ok text ∧
      (disk returned).readText [] (Location.ofPath [] path).path = .ok returned ∧
      ∃ id context likewise, ({} : Context).register (disk text) [] path = .ok (id, context) ∧
        ({} : Context).register (disk returned) [] path = .ok (id, likewise) ∧
        ∀ lineMarks code,
          ((Pipeline.builtin lineMarks).run ⟨context.setCurrent id, disk text, [], [], ()⟩).1 =
              .ok (.generated code) ↔
            ((Pipeline.builtin lineMarks).run ⟨likewise.setCurrent id, disk returned, [], [], ()⟩).1 =
              .ok (.generated code) := by
  intro text returned path disk
  have same : Text.withReturns text = returned := by decide
  have read (contents : String) : (disk contents).readText [] (Location.ofPath [] path).path = .ok contents := by
    have bytes : (disk contents).read [] (Location.ofPath [] path).path = .ok (Text.octets contents) := rfl
    rw [Disk.readText, bytes]
    dsimp only
    rw [Text.text?_octets]
  refine ⟨same, read text, read returned, ?_⟩
  rw [← same]
  exact (line_endings_irrelevant text).2 {} (disk text) _ [] path () (read text) (read _)

end StageZero
