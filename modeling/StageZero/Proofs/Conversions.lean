import StageZero.Proofs.Readback

/-! The types of generated C++. Every expression has its type by the signatures and declarations that stand
in the text, and a text is typed if what is bound and what is returned converts to the type that is asked
for. -/
namespace StageZero

namespace Program

def Expression.isPrint : Expression → Bool
  | .print .. => true
  | .call .. | .variable .. | .number _ | .quotation _ | .garbage => false

/-- Whether a statement returns what a print gives. -/
def Statement.returnsPrint : Statement → Bool
  | .return (some value) _ => value.isPrint
  | .return none _ | .let .. | .expression .. => false

theorem Expression.isPrint_eq_false {value : Expression} (some : value.type ≠ .void) : value.isPrint = false := by
  cases value with
  | print => exact absurd rfl some
  | call | «variable» | number | quotation | garbage => rfl

theorem Function.Sound.statement {program : Program} {function : Function} (sound : function.Sound program) :
    ∀ statement ∈ function.body, ∃ earlier, statement.Sound program function.returnType earlier := by
  intro statement member
  obtain ⟨before, after, there⟩ := List.append_of_mem member
  exact ⟨before, sound.body before statement after there⟩

end Program

namespace Cxx
open Program (Expression Statement Function)
open Typing (Single)

/-! ### Typing -/

/-- The type of an expression: a number is of some type of integers, and a print gives back its stream. -/
inductive Kind where
  | integer
  | object (type : Ty)
  | stream

/-- What converts to a type that is not void. -/
inductive Kind.Converts : Kind → Ty → Prop
  | integer : Converts .integer .i64
  | object {type} : type ≠ .void → Converts (.object type) type

/-- What a function of some type returns. In a void function that is only what is void itself. -/
inductive Kind.Returns : Kind → Ty → Prop
  | converts {kind type} : kind.Converts type → Returns kind type
  | void : Returns (.object .void) .void

section
variable (functions locals : Typing.Context)

def Operand.kind? : Operand → Option Kind
  | .number _ => some .integer
  | .quotation _ => some (.object .string)
  | .variable name => (locals.lookup name).map .object
  | .call callee => (functions.lookup callee).map .object

/-- A stream takes what is not void. -/
def Operand.Inserts (operand : Operand) : Prop :=
  ∃ kind type, operand.kind? functions locals = some kind ∧ kind.Converts type

inductive Value.Has : Value → Kind → Prop
  | plain {operand kind} : operand.kind? functions locals = some kind → Has (.plain operand) kind
  | print {target first more} : (∀ item ∈ more, item.1.Inserts functions locals) →
      Has (.print target first more) .stream

/-- A line of a function of some type, among the locals declared so far. -/
inductive Line.Typed (returnType : Ty) : Line → Prop
  | declaration {type name initial kind} : initial.Has functions locals kind → kind.Converts type →
      Typed returnType (.declaration type name initial)
  | returnNothing : returnType = .void → Typed returnType (.return none)
  | return {value kind} : value.Has functions locals kind → kind.Returns returnType →
      Typed returnType (.return (some value))
  | expression {value kind} : value.Has functions locals kind → Typed returnType (.expression value)

end

def Line.locals : Line → Typing.Context
  | .declaration type name _ => [(name, type)]
  | .return _ | .expression _ => []

/-- A local is declared from its own line on. -/
inductive TypedBody (functions : Typing.Context) (returnType : Ty) : Typing.Context → List Line → Prop
  | nil {locals} : TypedBody functions returnType locals []
  | cons {locals line later} : line.Typed functions (line.locals ++ locals) returnType →
      TypedBody functions returnType (line.locals ++ locals) later →
      TypedBody functions returnType locals (line :: later)

structure Listing.Typed (listing : Listing) : Prop where
  declared : ∀ routine ∈ listing.routines, listing.prototypes.lookup routine.name = some routine.type
  bodies : ∀ routine ∈ listing.routines, TypedBody listing.prototypes routine.type [] routine.body
  /-- An exit status is cast from a number. -/
  entry : ∃ type, listing.prototypes.lookup "main" = some type ∧ (listing.entry = .status → type = .i64)

/-! ### Kinds and the types of source files -/

def Kind.type? : Kind → Option Ty
  | .integer => some .i64
  | .object type => some type
  | .stream => none

theorem Kind.converts_iff {kind : Kind} {type : Ty} :
    kind.Converts type ↔ kind.type? = some type ∧ type ≠ .void := by
  constructor
  · rintro (_ | some)
    · exact ⟨rfl, nofun⟩
    · exact ⟨rfl, some⟩
  · rintro ⟨same, some⟩
    cases kind with
    | integer => cases same; exact .integer
    | object => cases same; exact .object some
    | stream => cases same

theorem Kind.returns_iff {kind : Kind} {type : Ty} : kind.Returns type ↔ kind.type? = some type := by
  constructor
  · rintro (converts | _)
    · exact (converts_iff.mp converts).1
    · rfl
  · intro same
    by_cases void : type = .void
    · subst void
      cases kind with
      | object => cases same; exact .void
      | integer | stream => cases same
    · exact .converts (converts_iff.mpr ⟨same, void⟩)

theorem Single.lookup {names : Typing.Context} (single : Single names) {name : String} {type : Ty}
    (member : (name, type) ∈ names) : names.lookup name = some type := by
  induction names with
  | nil => exact absurd member List.not_mem_nil
  | cons entry names ih =>
      obtain ⟨found, other⟩ := entry
      by_cases same : name = found
      · subst same
        rw [List.lookup_cons_self, single name other type (List.mem_cons_self ..) member]
      · have elsewhere : (name == found) = false := beq_false_of_ne same
        have later : (name, type) ∈ names := by
          rcases List.mem_cons.mp member with here | later
          · exact absurd (Prod.mk.inj here).1 same
          · exact later
        rw [List.lookup_cons, elsewhere]
        exact ih (fun _ _ _ first second => single _ _ _ (List.mem_cons_of_mem _ first)
          (List.mem_cons_of_mem _ second)) later

section
variable {functions context locals : Typing.Context} {program : Program} {returnType : Ty}

theorem Operand.Shows.kind (callable : Single functions) (bound : Single locals) (inside : context ⊆ locals)
    {operand : Operand} {value : Expression} (shows : operand.Shows functions context value) :
    ∃ kind, operand.kind? functions locals = some kind ∧ kind.type? = some value.type := by
  cases shows with
  | number => exact ⟨.integer, rfl, rfl⟩
  | quotation => exact ⟨.object .string, rfl, rfl⟩
  | @«variable» name type _ member =>
      exact ⟨.object type, by rw [Operand.kind?, Single.lookup bound (inside member)]; rfl, rfl⟩
  | @call callee type _ member =>
      exact ⟨.object type, by rw [Operand.kind?, Single.lookup callable member]; rfl, rfl⟩

theorem ShowsMore.inserts (callable : Single functions) (bound : Single locals) (inside : context ⊆ locals)
    {more : List (Operand × String)} {arguments : List Expression} {pieces : List String}
    (shows : ShowsMore functions context more arguments pieces)
    (printable : ∀ argument ∈ arguments, argument.type ≠ .void) :
    ∀ item ∈ more, item.1.Inserts functions locals := by
  induction shows with
  | nil => exact List.forall_mem_nil _
  | cons operand _ ih =>
      obtain ⟨first, later⟩ := List.forall_mem_cons.mp printable
      obtain ⟨kind, found, type⟩ := operand.kind callable bound inside
      exact List.forall_mem_cons.mpr ⟨⟨kind, _, found, Kind.converts_iff.mpr ⟨type, first⟩⟩, ih later⟩

/-- What is written for an expression has the type of the expression, unless it is a print. -/
theorem Value.Shows.has (callable : Single functions) (bound : Single locals) (inside : context ⊆ locals)
    {value : Value} {tree : Expression} (shows : value.Shows functions context tree) {earlier : List Statement}
    (sound : tree.Sound program earlier) :
    ∃ kind, value.Has functions locals kind ∧ kind.type? = if tree.isPrint then none else some tree.type := by
  cases shows with
  | plain operand =>
      obtain ⟨kind, found, type⟩ := operand.kind callable bound inside
      have other : tree.isPrint = false := by cases operand <;> rfl
      exact ⟨kind, .plain found, by rw [type, other]; rfl⟩
  | print more =>
      cases sound with
      | print _ printable => exact ⟨.stream, .print (more.inserts callable bound inside printable), rfl⟩

theorem Value.Has.unique {value : Value} {kind other : Kind} (has : value.Has functions locals kind)
    (otherHas : value.Has functions locals other) : kind = other := by
  cases has with
  | plain found =>
      cases otherHas with
      | plain otherFound => exact Option.some.inj (found.symm.trans otherFound)
  | print =>
      cases otherHas with
      | print => rfl

theorem Line.Shows.locals_eq {line : Line} {statement : Statement} {next : Typing.Context}
    (shows : line.Shows functions context statement next) : line.locals ++ context = next := by
  cases shows <;> rfl

/-- The line of a statement is typed just if the statement returns no print. -/
theorem Line.Shows.typed_iff (callable : Single functions) {line : Line} {statement : Statement}
    {next : Typing.Context} (shows : line.Shows functions context statement next) (bound : Single next)
    {earlier : List Statement} (sound : statement.Sound program returnType earlier) :
    line.Typed functions next returnType ↔ statement.returnsPrint = false := by
  cases shows with
  | declaration _ _ _ initial =>
      cases sound with
      | «let» soundInitial same some _ =>
          obtain ⟨kind, has, type⟩ := initial.has callable bound (List.subset_cons_self ..) soundInitial
          rw [same, Program.Expression.isPrint_eq_false (same ▸ some)] at type
          exact ⟨fun _ => rfl, fun _ => .declaration has (Kind.converts_iff.mpr ⟨type, some⟩)⟩
  | returnNothing =>
      cases sound with
      | returnNothing void => exact ⟨fun _ => rfl, fun _ => .returnNothing void⟩
  | @«return» _ tree _ value =>
      cases sound with
      | «return» soundValue same =>
          obtain ⟨kind, has, type⟩ := value.has callable bound (List.Subset.refl _) soundValue
          have returns : kind.Returns returnType ↔ tree.isPrint = false := by
            rw [Kind.returns_iff, type, same]
            cases tree.isPrint <;> simp
          refine ⟨?_, fun plain => .return has (returns.mpr plain)⟩
          intro typed
          cases typed with
          | «return» otherHas fits => exact returns.mp (has.unique otherHas ▸ fits)
  | expression value =>
      cases sound with
      | expression soundValue =>
          obtain ⟨kind, has, -⟩ := value.has callable bound (List.Subset.refl _) soundValue
          exact ⟨fun _ => rfl, fun _ => .expression has⟩

theorem typedBody_cons_iff {line : Line} {later : List Line} :
    TypedBody functions returnType locals (line :: later) ↔
      line.Typed functions (line.locals ++ locals) returnType ∧
        TypedBody functions returnType (line.locals ++ locals) later :=
  ⟨fun | .cons first rest => ⟨first, rest⟩, fun typed => .cons typed.1 typed.2⟩

-- The induction goes along the body, and the locals declared so far are the variables in scope.
theorem ShowsBody.typed_iff (callable : Single functions) {lines : List Line} {body : List Statement}
    (shows : ShowsBody functions context lines body) (bound : Single context)
    (sound : ∀ statement ∈ body, ∃ earlier, statement.Sound program returnType earlier) :
    TypedBody functions returnType context lines ↔ ∀ statement ∈ body, statement.returnsPrint = false := by
  induction shows with
  | nil => exact ⟨fun _ => List.forall_mem_nil _, fun _ => .nil⟩
  | cons first _ ih =>
      obtain ⟨⟨earlier, soundFirst⟩, soundLater⟩ := List.forall_mem_cons.mp sound
      obtain ⟨-, -, boundNext⟩ := first.unique callable bound first
      rw [typedBody_cons_iff, first.locals_eq, first.typed_iff callable boundNext soundFirst, ih boundNext soundLater,
        List.forall_mem_cons]

end

/-! ### Programs -/

/-- What shows a program is typed just if no function of it returns a print. -/
theorem Listing.Shows.typed_iff {listing : Listing} {program : Program} (shows : listing.Shows program)
    (legible : Legible program) (sound : program.Sound) :
    listing.Typed ↔ ∀ function ∈ program.functions, ∀ statement ∈ function.body, statement.returnsPrint = false := by
  have nothing : Single [] := fun _ _ _ member => absurd member List.not_mem_nil
  have lookup : ∀ function ∈ program.functions, program.signatures.lookup function.name = some function.returnType :=
    fun function member => Single.lookup legible.single (List.mem_map_of_mem member)
  have body : ∀ routine : Routine, ∀ function ∈ program.functions, routine.Shows program.signatures function →
      (TypedBody program.signatures routine.type [] routine.body ↔
        ∀ statement ∈ function.body, statement.returnsPrint = false) := by
    intro routine function member routineShows
    rw [routineShows.type]
    exact routineShows.body.typed_iff legible.single nothing (sound.functions function member).statement
  constructor
  · intro typed function member
    obtain ⟨routine, there, routineShows⟩ := Program.exists_right shows.routines.flip member
    have typedBody := typed.bodies routine there
    rw [shows.prototypes] at typedBody
    exact (body routine function member routineShows).mp typedBody
  · intro plain
    obtain ⟨main, there, named, status⟩ := shows.entry
    refine ⟨?_, ?_, main.returnType, ?_, status.mp⟩
    · intro routine inside
      obtain ⟨function, member, routineShows⟩ := Program.exists_right shows.routines inside
      rw [shows.prototypes, routineShows.name, routineShows.type]
      exact lookup function member
    · intro routine inside
      obtain ⟨function, member, routineShows⟩ := Program.exists_right shows.routines inside
      rw [shows.prototypes]
      exact (body routine function member routineShows).mpr (plain function member)
    · rw [shows.prototypes, ← named]
      exact lookup main there

/-- What is generated for an accepted text is typed just if no function of the text returns a print. -/
theorem generated_typed_iff {file : FileId} {text : String} (accepted : Accepted file text)
    (sources : Option Sources) :
    ∃ listing, readListing (emit sources (programOf file text)) = some listing ∧
      (listing.Typed ↔ ∀ function ∈ (programOf file text).functions, ∀ statement ∈ function.body,
        statement.returnsPrint = false) := by
  have legible := legible_of_accepted accepted
  have sound := accepted.typed.sound
  obtain ⟨listing, read, shows⟩ := readListing_emit sources legible sound
  exact ⟨listing, read, shows.typed_iff legible sound⟩

open Tree.Grammar in
/-- A `main` that returns what it gets itself. -/
theorem generated_typed_void_call :
    let text := "function main() \x7b return main() \x7d"
    Accepted ⟨0⟩ text ∧
      ∃ listing, readListing (emit none (programOf ⟨0⟩ text)) = some listing ∧ listing.Typed := by
  intro text
  let place (start stop : Nat) : Span := ⟨⟨0⟩, start, stop⟩
  let tree : Tree.File := ⟨[⟨"main", place 9 13, none, [.return (some (.call "main" [] (place 25 31))) (place 18 31)]⟩]⟩
  have tokens : (scan ⟨0⟩ text).stream.tokens = [
      ⟨.function, ⟨⟨0⟩, 0, 8⟩⟩, ⟨.name "main", ⟨⟨0⟩, 9, 13⟩⟩, ⟨.openParen, ⟨⟨0⟩, 13, 14⟩⟩,
      ⟨.closeParen, ⟨⟨0⟩, 14, 15⟩⟩, ⟨.openBrace, ⟨⟨0⟩, 16, 17⟩⟩, ⟨.return, ⟨⟨0⟩, 18, 24⟩⟩,
      ⟨.name "main", ⟨⟨0⟩, 25, 29⟩⟩, ⟨.openParen, ⟨⟨0⟩, 29, 30⟩⟩, ⟨.closeParen, ⟨⟨0⟩, 30, 31⟩⟩,
      ⟨.closeBrace, ⟨⟨0⟩, 32, 33⟩⟩] := by
    decide +kernel
  have blank : Newlines [] := List.forall_mem_nil _
  have separated : Separators [] := List.forall_mem_nil _
  have derived : File (scan ⟨0⟩ text).stream.tokens tree := by
    rw [tokens]
    exact (.file blank (.more (.plain blank (.full separated (.last (.return (.call blank .none)) separated))) blank
      .none) : File _ _)
  obtain ⟨accepted, read⟩ := Accepted.of_derived (by decide +kernel) derived rfl
  obtain ⟨listing, found, typed⟩ := generated_typed_iff accepted none
  refine ⟨accepted, listing, found, typed.mpr ?_⟩
  rw [programOf, read]
  decide +kernel

open Tree.Grammar in
/-- An accepted text whose void `main` is generated with a stream to return. -/
theorem generated_untyped_print :
    let text := "function main() \x7b return println(\"x\") \x7d"
    Accepted ⟨0⟩ text ∧
      ∃ listing, readListing (emit none (programOf ⟨0⟩ text)) = some listing ∧ ¬ listing.Typed := by
  intro text
  let place (start stop : Nat) : Span := ⟨⟨0⟩, start, stop⟩
  let tree : Tree.File := ⟨[⟨"main", place 9 13, none,
    [.return (some (.call "println" [.quotation "x" (place 33 36)] (place 25 37))) (place 18 37)]⟩]⟩
  have tokens : (scan ⟨0⟩ text).stream.tokens = [
      ⟨.function, ⟨⟨0⟩, 0, 8⟩⟩, ⟨.name "main", ⟨⟨0⟩, 9, 13⟩⟩, ⟨.openParen, ⟨⟨0⟩, 13, 14⟩⟩,
      ⟨.closeParen, ⟨⟨0⟩, 14, 15⟩⟩, ⟨.openBrace, ⟨⟨0⟩, 16, 17⟩⟩, ⟨.return, ⟨⟨0⟩, 18, 24⟩⟩,
      ⟨.name "println", ⟨⟨0⟩, 25, 32⟩⟩, ⟨.openParen, ⟨⟨0⟩, 32, 33⟩⟩, ⟨.quotation "x", ⟨⟨0⟩, 33, 36⟩⟩,
      ⟨.closeParen, ⟨⟨0⟩, 36, 37⟩⟩, ⟨.closeBrace, ⟨⟨0⟩, 38, 39⟩⟩] := by
    decide +kernel
  have blank : Newlines [] := List.forall_mem_nil _
  have separated : Separators [] := List.forall_mem_nil _
  have derived : File (scan ⟨0⟩ text).stream.tokens tree := by
    rw [tokens]
    exact (.file blank (.more (.plain blank (.full separated (.last (.return (.call blank
      (.some (.last .quotation blank)))) separated))) blank .none) : File _ _)
  obtain ⟨accepted, read⟩ := Accepted.of_derived (by decide +kernel) derived rfl
  have legible := legible_of_accepted accepted
  have sound := accepted.typed.sound
  obtain ⟨listing, found, shows⟩ := readListing_emit none legible sound
  refine ⟨accepted, listing, found, fun typed => ?_⟩
  have plain := (shows.typed_iff legible sound).mp typed
  rw [programOf, read] at plain
  revert plain
  decide +kernel

end Cxx
end StageZero
