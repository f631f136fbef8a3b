import StageZero.Proofs.Rows

/-! Generated text determines its program. Its rows are told apart by their margins, and each row gives
back the signature or the statement that it was written for. -/
namespace StageZero
namespace Cxx
open Program (Statement Function)
open Text (margin)
open Token (IsName isNamePart)

/-! ### What the rows are cut into -/

/-- Whether a row stands at some depth or deeper. -/
def indented (depth : Nat) (row : String) : Bool := (margin depth).toList.isPrefixOf row.toList

theorem indented_margin (depth : Nat) (text : String) : indented depth (margin depth ++ text) = true := by
  rw [indented, String.toList_append, List.isPrefixOf_iff_prefix]
  exact List.prefix_append _ _

theorem typeName_inj {type other : Ty} (same : typeName type = typeName other) : type = other := by
  revert same
  cases type <;> cases other <;> decide

theorem signature_inj {function other : Function} (same : signature function = signature other) :
    function.name = other.name ∧ function.returnType = other.returnType := by
  have blank : " ".toList = [' '] := by simp
  have whole : ∀ function : Function, (signature function).toList =
      (typeName function.returnType).toList ++ ' ' :: (function.name ++ "()").toList := by
    intro function
    rw [signature, String.append_assoc, String.append_assoc, String.toList_append, String.toList_append, blank,
      List.singleton_append]
  have inside : ∀ type : Ty, ∀ c ∈ (typeName type).toList, (c != ' ') = true := by
    intro type
    refine List.all_eq_true.mp ?_
    cases type <;> decide
  have outside : ∀ later, ∀ c ∈ (' ' :: later).head?, (c != ' ') = false := by
    rintro later _ ⟨rfl⟩
    rfl
  have written := congrArg String.toList same
  rw [whole, whole] at written
  obtain ⟨types, behind⟩ := Token.run_inj (inside _) (outside _) (inside _) (outside _) written
  have names := String.toList_injective (List.cons_eq_cons.mp behind).2
  exact ⟨(String.append_left_inj _).mp names, typeName_inj (String.toList_injective types)⟩

theorem prototype_inj {function other : Function} (same : prototype function = prototype other) :
    function.name = other.name ∧ function.returnType = other.returnType :=
  signature_inj ((String.append_left_inj _).mp ((String.append_right_inj _).mp same))

theorem definition_outside (functions : List Function) (program : Program) :
    ∀ row ∈ (functions.flatMap definitionRows ++ closingRows program).head?, indented 1 row = false := by
  cases functions with
  | nil =>
      rintro _ ⟨rfl⟩
      decide
  | cons function functions =>
      rintro _ ⟨rfl⟩
      decide

/-- The prototypes of two programs are the same, and so are the rows behind them. -/
theorem functionRows_inj {program other : Program} (same : functionRows program = functionRows other) :
    program.functions.map prototype = other.functions.map prototype ∧
      program.functions.flatMap definitionRows ++ closingRows program =
        other.functions.flatMap definitionRows ++ closingRows other := by
  have inside : ∀ program : Program, ∀ row ∈ program.functions.map prototype, indented 1 row = true :=
    fun program => List.forall_mem_map.mpr fun function _ => indented_margin 1 _
  exact Token.run_inj (inside program) (definition_outside _ _) (inside other) (definition_outside _ _) same

theorem definitionRows_inj {function other : Function} {rest behind : List String}
    (same : definitionRows function ++ rest = definitionRows other ++ behind) :
    function.body.map statementLine = other.body.map statementLine ∧ rest = behind := by
  have inside : ∀ function : Function, ∀ row ∈ function.body.map fun s => margin 2 ++ statementLine s,
      indented 2 row = true := fun function => List.forall_mem_map.mpr fun s _ => indented_margin 2 _
  have outside : ∀ later, ∀ row ∈ ((margin 1 ++ "\x7d") :: later).head?, indented 2 row = false := by
    rintro later _ ⟨rfl⟩
    decide
  simp only [definitionRows, List.cons_append, List.append_assoc, List.nil_append, List.cons.injEq] at same
  obtain ⟨-, -, rows⟩ := same
  obtain ⟨bodies, later⟩ := Token.run_inj (inside function) (outside _) (inside other) (outside _) rows
  refine ⟨?_, (List.cons_eq_cons.mp later).2⟩
  have written : ∀ function : Function, (function.body.map fun s => margin 2 ++ statementLine s) =
      (function.body.map statementLine).map (margin 2 ++ ·) := fun function => List.map_map.symm
  rw [written, written] at bodies
  exact List.map_injective_iff.mpr (fun _ _ => (String.append_right_inj _).mp) bodies

/-! ### What the rows are written for -/

/-- No two bodies are written alike, but for where their statements stand. -/
theorem ShowsBody.inj {functions : Typing.Context} (callable : Typing.Single functions) {lines others : List Line}
    {body other : List Statement} (shows : ShowsBody functions [] lines body)
    (otherShows : ShowsBody functions [] others other) (same : body.map statementLine = other.map statementLine) :
    body.map Statement.unplaced = other.map Statement.unplaced := by
  have lineSame := shows.eq_of_read (same ▸ otherShows.read)
  subst lineSame
  exact shows.unique callable (fun _ _ _ member => absurd member List.not_mem_nil) otherShows

theorem signatures_of_prototypes {functions others : List Function}
    (same : functions.map prototype = others.map prototype) :
    (functions.map fun function => (function.name, function.returnType)) =
      others.map fun function => (function.name, function.returnType) := by
  induction functions generalizing others with
  | nil =>
      rw [List.map_eq_nil_iff.mp same.symm]
  | cons function functions ih =>
      cases others with
      | nil => exact absurd same (List.cons_ne_nil _ _)
      | cons other others =>
          obtain ⟨first, later⟩ := List.cons_eq_cons.mp same
          obtain ⟨name, type⟩ := prototype_inj first
          rw [List.map_cons, List.map_cons, name, type, ih later]

theorem definitions_inj {names : Typing.Context} (callable : Typing.Single names) {functions others : List Function}
    {rest behind : List String} (shown : ∀ function ∈ functions, ∃ lines, ShowsBody names [] lines function.body)
    (otherShown : ∀ function ∈ others, ∃ lines, ShowsBody names [] lines function.body)
    (prototypes : functions.map prototype = others.map prototype)
    (same : functions.flatMap definitionRows ++ rest = others.flatMap definitionRows ++ behind) :
    functions.map Function.unplaced = others.map Function.unplaced := by
  induction functions generalizing others with
  | nil => rw [List.map_eq_nil_iff.mp prototypes.symm]
  | cons function functions ih =>
      cases others with
      | nil => exact absurd prototypes (List.cons_ne_nil _ _)
      | cons other others =>
          obtain ⟨⟨lines, shows⟩, shownLater⟩ := List.forall_mem_cons.mp shown
          obtain ⟨⟨otherLines, otherShows⟩, otherShownLater⟩ := List.forall_mem_cons.mp otherShown
          obtain ⟨prototype, prototypesLater⟩ := List.cons_eq_cons.mp prototypes
          rw [List.flatMap_cons, List.flatMap_cons, List.append_assoc, List.append_assoc] at same
          obtain ⟨bodies, later⟩ := definitionRows_inj same
          obtain ⟨name, type⟩ := prototype_inj prototype
          have body := shows.inj callable otherShows bodies
          rw [List.map_cons, List.map_cons, ih shownLater otherShownLater prototypesLater later, Function.unplaced,
            Function.unplaced, name, type, body]

theorem Legible.single {program : Program} (legible : Legible program) : Typing.Single program.signatures := by
  intro name type other member otherMember
  obtain ⟨function, there, same⟩ := List.mem_map.mp member
  obtain ⟨found, otherThere, otherSame⟩ := List.mem_map.mp otherMember
  cases same
  obtain ⟨named, rfl⟩ := Prod.mk.inj otherSame
  rw [List.inj_on_of_nodup_map legible.distinct otherThere there named]

theorem unplaced_of_emit {program other : Program} (legible : Legible program) (otherLegible : Legible other)
    (same : emit none program = emit none other) : program.unplaced = other.unplaced := by
  have rows := congrArg codeRows same
  rw [codeRows_emit none legible, codeRows_emit none otherLegible] at rows
  obtain ⟨prototypes, definitions⟩ := functionRows_inj (List.append_cancel_left rows)
  have signatures : program.signatures = other.signatures := signatures_of_prototypes prototypes
  have otherBodies := otherLegible.bodies
  rw [← signatures] at otherBodies
  rw [Program.unplaced, Program.unplaced,
    definitions_inj legible.single legible.bodies otherBodies prototypes definitions]

end Cxx

/-- Accepted texts with the same generated text have the same program, but for where its statements
stand. -/
theorem program_of_emit {file other : FileId} {text otherText : String} (accepted : Accepted file text)
    (otherAccepted : Accepted other otherText)
    (same : Cxx.emit none (programOf file text) = Cxx.emit none (programOf other otherText)) :
    (programOf file text).unplaced = (programOf other otherText).unplaced :=
  Cxx.unplaced_of_emit (Cxx.legible_of_accepted accepted) (Cxx.legible_of_accepted otherAccepted) same

open Tree.Grammar in
theorem program_of_emit_layouts :
    let text := "function main() \x7b let x = 1 \x7d"
    let other := "function main()\n\x7b\nlet x=1\n\x7d"
    Accepted ⟨0⟩ text ∧ Accepted ⟨1⟩ other ∧
      (programOf ⟨0⟩ text).unplaced = (programOf ⟨1⟩ other).unplaced := by
  intro text other
  let tree (name bound value : Span) : Tree.File := ⟨[⟨"main", name, none, [.let "x" bound (.number 1 value)]⟩]⟩
  have tokens : (scan ⟨0⟩ text).stream.tokens = [
      ⟨.function, ⟨⟨0⟩, 0, 8⟩⟩, ⟨.name "main", ⟨⟨0⟩, 9, 13⟩⟩, ⟨.openParen, ⟨⟨0⟩, 13, 14⟩⟩,
      ⟨.closeParen, ⟨⟨0⟩, 14, 15⟩⟩, ⟨.openBrace, ⟨⟨0⟩, 16, 17⟩⟩, ⟨.let, ⟨⟨0⟩, 18, 21⟩⟩,
      ⟨.name "x", ⟨⟨0⟩, 22, 23⟩⟩, ⟨.equals, ⟨⟨0⟩, 24, 25⟩⟩, ⟨.number 1, ⟨⟨0⟩, 26, 27⟩⟩,
      ⟨.closeBrace, ⟨⟨0⟩, 28, 29⟩⟩] := by
    decide +kernel
  have otherTokens : (scan ⟨1⟩ other).stream.tokens = [
      ⟨.function, ⟨⟨1⟩, 0, 8⟩⟩, ⟨.name "main", ⟨⟨1⟩, 9, 13⟩⟩, ⟨.openParen, ⟨⟨1⟩, 13, 14⟩⟩,
      ⟨.closeParen, ⟨⟨1⟩, 14, 15⟩⟩, ⟨.newline, ⟨⟨1⟩, 15, 16⟩⟩, ⟨.openBrace, ⟨⟨1⟩, 16, 17⟩⟩,
      ⟨.newline, ⟨⟨1⟩, 17, 18⟩⟩, ⟨.let, ⟨⟨1⟩, 18, 21⟩⟩, ⟨.name "x", ⟨⟨1⟩, 22, 23⟩⟩,
      ⟨.equals, ⟨⟨1⟩, 23, 24⟩⟩, ⟨.number 1, ⟨⟨1⟩, 24, 25⟩⟩, ⟨.newline, ⟨⟨1⟩, 25, 26⟩⟩,
      ⟨.closeBrace, ⟨⟨1⟩, 26, 27⟩⟩] := by
    decide +kernel
  have blank : Newlines [] := List.forall_mem_nil _
  have separated : Separators [] := List.forall_mem_nil _
  have newline : ∀ span, Newlines [⟨.newline, span⟩] := fun _ => List.forall_mem_singleton.mpr rfl
  have ended : ∀ span, Separators [⟨.newline, span⟩] := fun _ => List.forall_mem_singleton.mpr (.inl rfl)
  have derived : File (scan ⟨0⟩ text).stream.tokens (tree ⟨⟨0⟩, 9, 13⟩ ⟨⟨0⟩, 22, 23⟩ ⟨⟨0⟩, 26, 27⟩) := by
    rw [tokens]
    exact (.file blank (.more (.plain blank (.full separated (.last (.let .number) separated))) blank .none) : File _ _)
  have otherDerived : File (scan ⟨1⟩ other).stream.tokens (tree ⟨⟨1⟩, 9, 13⟩ ⟨⟨1⟩, 22, 23⟩ ⟨⟨1⟩, 24, 25⟩) := by
    rw [otherTokens]
    exact (.file blank (.more (.plain (newline _) (.full (ended _) (.last (.let .number) (ended _)))) blank .none) :
      File _ _)
  obtain ⟨accepted, read⟩ := Accepted.of_derived (by decide +kernel) derived rfl
  obtain ⟨otherAccepted, otherRead⟩ := Accepted.of_derived (by decide +kernel) otherDerived rfl
  refine ⟨accepted, otherAccepted, program_of_emit accepted otherAccepted ?_⟩
  rw [programOf, programOf, read, otherRead]
  decide +kernel

end StageZero
