import Mathlib.Order.MinMax
import StageZero.Proofs.Lexemes
import StageZero.Proofs.Placement

/-! Places in a source. Every span that a text gives rise to, in a diagnostic, a hint, a tree or a program, is made of
places of tokens and faults by covering, and so it lies in the text and cuts no character. -/
namespace StageZero

/-! ### All spans -/

def Diagnostic.spans (diagnostic : Diagnostic) : List Span :=
  diagnostic.span :: (diagnostic.hint.map Hint.span).toList

namespace Tree

mutual

def Expression.spans : Expression → List Span
  | .call _ arguments span => span :: Expression.spansOfAll arguments
  | .variable _ span | .number _ span | .quotation _ span | .garbage span => [span]

def Expression.spansOfAll : List Expression → List Span
  | [] => []
  | argument :: later => argument.spans ++ Expression.spansOfAll later

end

/-- The spans in a statement, with the one that it has as a whole. -/
def Statement.spans (statement : Statement) : List Span :=
  statement.span :: match statement with
    | .let _ nameSpan initial => nameSpan :: initial.spans
    | .return value _ => value.toList.flatMap Expression.spans
    | .expression value => value.spans

def Function.spans (function : Function) : List Span :=
  function.nameSpan :: (function.returnType.map Named.span).toList ++ function.body.flatMap Statement.spans

def File.spans (file : File) : List Span := file.functions.flatMap Function.spans

end Tree

def Program.spans (program : Program) : List Span :=
  program.functions.flatMap fun function => function.body.map Program.Statement.span

section
variable {R : Span → Span → Prop}

theorem Diagnostic.Alike.spans {diagnostic other : Diagnostic} (alike : diagnostic.Alike R other) :
    List.Forall₂ R diagnostic.spans other.spans := by
  have hint := alike.hint
  unfold Diagnostic.spans
  generalize diagnostic.hint = hint at hint ⊢
  generalize other.hint = like at hint ⊢
  cases hint with
  | none => exact .cons alike.span .nil
  | some same => exact .cons alike.span (.cons same.span .nil)

namespace Tree

theorem Expression.Alike.spans {tree other : Expression} (alike : tree.Alike R other) :
    List.Forall₂ R tree.spans other.spans := by
  refine Expression.Alike.induct (motive := fun tree other => List.Forall₂ R tree.spans other.spans)
    ?call ?name ?number ?quotation ?garbage alike
  case call =>
    intro callee items others span place alike near
    rw [Expression.spans, Expression.spans]
    refine .cons near ?_
    induction alike with
    | nil => exact .nil
    | cons first _ ih => exact List.rel_append first.2 ih
  all_goals exact fun near => .cons near .nil

theorem Statement.Alike.spans (covers : Span.Covers R) {statement other : Statement}
    (alike : statement.Alike R other) : List.Forall₂ R statement.spans other.spans := by
  refine .cons (alike.span covers) ?_
  cases alike with
  | «let» near initial => exact .cons near initial.spans
  | returnNothing => exact .nil
  | «return» value _ => exact List.rel_flatMap (.cons value .nil) fun _ _ same => same.spans
  | expression value => exact value.spans

theorem Function.Alike.spans (covers : Span.Covers R) {function other : Function} (alike : function.Alike R other) :
    List.Forall₂ R function.spans other.spans := by
  have body : List.Forall₂ R (function.body.flatMap Statement.spans) (other.body.flatMap Statement.spans) :=
    List.rel_flatMap alike.body fun _ _ same => same.spans covers
  have type := alike.returnType
  unfold Function.spans
  generalize function.returnType = type at type ⊢
  generalize other.returnType = like at type ⊢
  cases type with
  | none => exact .cons alike.nameSpan body
  | some same => exact .cons alike.nameSpan (.cons same.span body)

theorem File.Alike.spans (covers : Span.Covers R) {file other : File} (alike : file.Alike R other) :
    List.Forall₂ R file.spans other.spans := List.rel_flatMap alike fun _ _ same => same.spans covers

end Tree

theorem Program.Alike.spans {program other : Program} (alike : program.Alike R other) :
    List.Forall₂ R program.spans other.spans :=
  List.rel_flatMap alike fun _ _ same => List.rel_map (fun _ _ like => like.span) same.body

end

/-! ### Spans within a text -/

/-- A span of a file that lies within its text, from one place between characters to another. -/
structure Span.Within (file : FileId) (text : String) (span : Span) : Prop where
  ofFile : span.file = file
  ordered : span.start ≤ span.stop
  bounded : span.stop ≤ text.utf8ByteSize
  starts : String.Pos.Raw.IsValid text ⟨span.start⟩
  stops : String.Pos.Raw.IsValid text ⟨span.stop⟩

/-- Within its text, whatever stands on the other side. -/
def Span.WithinOf (file : FileId) (text : String) (span _other : Span) : Prop := span.Within file text

section
variable {file : FileId} {text : String}

theorem Span.withinOf_covers (file : FileId) (text : String) : Span.Covers (Span.WithinOf file text) := by
  intro first _ later _ here there
  refine ⟨here.ofFile, ?_, Nat.max_le.mpr ⟨here.bounded, there.bounded⟩, ?_, ?_⟩
  case refine_1 => exact Nat.le_trans (Nat.min_le_left ..) (Nat.le_trans here.ordered (Nat.le_max_left ..))
  case refine_2 => exact min_rec' (fun place => String.Pos.Raw.IsValid text ⟨place⟩) here.starts there.starts
  case refine_3 => exact max_rec' (fun place => String.Pos.Raw.IsValid text ⟨place⟩) here.stops there.stops

theorem forall_within {spans others : List Span} (alike : List.Forall₂ (Span.WithinOf file text) spans others) :
    ∀ span ∈ spans, span.Within file text := by
  induction alike with
  | nil => exact List.forall_mem_nil _
  | cons first _ ih => exact List.forall_mem_cons.mpr ⟨first, ih⟩

theorem forall_diagnostic_within {Cause : Type} [Wording Cause] {faults others : List (Fault Cause)}
    (alike : List.Forall₂ (Fault.Alike (Span.WithinOf file text)) faults others) :
    ∀ diagnostic ∈ faults.map Fault.diagnostic, ∀ span ∈ diagnostic.spans, span.Within file text := by
  rw [List.forall_mem_map]
  induction alike with
  | nil => exact List.forall_mem_nil _
  | cons first _ ih => exact List.forall_mem_cons.mpr ⟨forall_within first.spans, ih⟩

end

/-! ### Where faults stand in characters -/

/-- A span over some of the characters of a file. -/
def Span.Cuts (file : FileId) (chars : List Char) (span : Span) : Prop :=
  span.file = file ∧ ∃ piece back, Text.Holds chars span.start span.stop piece back

theorem Span.Cuts.within {file : FileId} {text : String} {span : Span} (cuts : span.Cuts file text.toList) :
    span.Within file text := by
  obtain ⟨ofFile, piece, back, holds⟩ := cuts
  obtain ⟨starts, stops⟩ := holds.isValid
  refine ⟨ofFile, ?_, holds.le, starts, stops⟩
  obtain ⟨front, -, start, stop⟩ := holds
  rw [start, stop, Token.width_append]
  exact Nat.le_add_right ..

namespace Token

/-- What is reported of a lexeme is over all of it, or over an escape sequence inside it. -/
theorem lexeme_faults (file : FileId) (before : List Char) (c : Char) (cs : List Char) :
    ∀ fault ∈ (lexeme file (width before) c cs).faults, fault.span.Cuts file (before ++ c :: cs) := by
  have parts := lexeme_more_append_rest file (width before) c cs
  rw [(lexeme_way file (width before) c cs).reported]
  refine List.forall_mem_append.mpr ⟨List.forall_mem_map.mpr fun stray member => ?_, ?_⟩
  · obtain ⟨-, front, later, word, start⟩ := strays_place file before c cs stray member
    refine ⟨rfl, ['\\', stray.2], later ++ (lexeme file (width before) c cs).rest, before ++ '"' :: front, ?_, start, ?_⟩
    · calc before ++ c :: cs
        _ = before ++ (c :: (lexeme file (width before) c cs).more ++ _) := by rw [List.cons_append, parts]
        _ = _ := by rw [word]; simp
    · rw [width_append, ← start]
      exact Nat.add_assoc ..
  · split
    · refine List.forall_mem_singleton.mpr ⟨rfl, c :: (lexeme file (width before) c cs).more,
        (lexeme file (width before) c cs).rest, before, ?_, rfl, (width_append ..).symm⟩
      rw [List.append_assoc, List.cons_append, parts]
    · exact List.forall_mem_nil _

end Token

theorem Scan.ofChars_faults (file : FileId) (before cs : List Char) :
    ∀ fault ∈ (ofChars file (Token.width before) cs).faults, fault.span.Cuts file (before ++ cs) := by
  generalize place : Token.width before = offset
  induction offset, cs using ofChars.induct file generalizing before with
  | case1 offset cs found =>
      rw [ofChars_of_nil found]
      exact List.forall_mem_nil _
  | case2 offset cs start c rest found next stop ih =>
      have begins : Token.width (before ++ Token.gap cs) = start := by rw [Token.width_append, place]
      have ends : Token.width (before ++ Token.gap cs ++ (c :: next.more)) = stop := by
        rw [Token.width_append, begins]
      have first := Token.lexeme_faults file (before ++ Token.gap cs) c rest
      have later := ih _ ends
      have whole : before ++ Token.gap cs ++ c :: rest = before ++ cs := by
        rw [List.append_assoc, ← found, Token.gap_append_afterGap]
      rw [begins, whole] at first
      rw [List.append_assoc _ (c :: next.more), List.cons_append, Token.lexeme_more_append_rest, whole] at later
      rw [ofChars_of_cons found]
      exact List.forall_mem_append.mpr ⟨first, later⟩

/-! ### Main result -/

section
variable (file : FileId) (text : String)

theorem scan_stop : (scan file text).stream.stop = ⟨file, text.utf8ByteSize, text.utf8ByteSize⟩ := by
  obtain ⟨front, marks, -⟩ := (scan_laid file text).ends
  rw [List.nil_append, Token.width_toList, Stream.marks] at marks
  exact congrArg Mark.span (List.singleton_inj.mp (List.append_inj' marks rfl).2)

theorem scan_within : (scan file text).stream.Alike (Span.WithinOf file text) (scan file text).stream where
  tokens := by
    rw [List.forall₂_same]
    intro token member
    obtain ⟨ofFile, word, back, holds, -⟩ := Token.holds_of_scan member
    exact ⟨rfl, Span.Cuts.within ⟨ofFile, word, back, holds⟩⟩
  stop := by
    rw [scan_stop]
    refine Span.Cuts.within ⟨rfl, [], [], text.toList, ?_, (Token.width_toList text).symm, ?_⟩
    · rw [List.append_nil, List.append_nil]
    · rw [List.append_nil, Token.width_toList]

end

/-- Every place that the phases name lies in the text they were given: in their diagnostics, in the hints of these, in
the tree and in the program. -/
theorem places_within (file : FileId) (text : String) :
    let scanned := scan file text
    let parsed := parse scanned.stream
    let checked := check file parsed.file
    (∀ diagnostic ∈ scanned.faults.map Fault.diagnostic ++ parsed.faults.map Fault.diagnostic ++
        checked.faults.map Fault.diagnostic,
      diagnostic.span.Within file text ∧ ∀ hint ∈ diagnostic.hint, hint.span.Within file text) ∧
    (∀ span ∈ parsed.file.spans, span.Within file text) ∧ ∀ span ∈ checked.value.spans, span.Within file text := by
  intro scanned parsed checked
  have covers := Span.withinOf_covers file text
  have start : Span.WithinOf file text ⟨file, 0, 0⟩ ⟨file, 0, 0⟩ :=
    Span.Cuts.within ⟨rfl, [], text.toList, [], rfl, rfl, rfl⟩
  have read := parse_alike covers (scan_within file text)
  have typed := check_alike_of_scan covers start (scan_within file text)
  have lexical : ∀ diagnostic ∈ scanned.faults.map Fault.diagnostic, ∀ span ∈ diagnostic.spans,
      span.Within file text := by
    rw [List.forall_mem_map]
    intro fault member
    exact List.forall_mem_singleton.mpr (Scan.ofChars_faults file [] text.toList fault member).within
  have all := List.forall_mem_append.mpr
    ⟨List.forall_mem_append.mpr ⟨lexical, forall_diagnostic_within read.faults⟩, forall_diagnostic_within typed.faults⟩
  refine ⟨fun diagnostic member => ?_, forall_within (read.file.spans covers), forall_within typed.value.spans⟩
  obtain ⟨here, hint⟩ := List.forall_mem_cons.mp (all diagnostic member)
  refine ⟨here, fun hinted found => hint hinted.span ?_⟩
  rw [Option.mem_def.mp found]
  exact List.mem_singleton_self _

end StageZero
