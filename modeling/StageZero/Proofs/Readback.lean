import StageZero.Proofs.Emission

/-! Generated text read back as a whole. Apart from the rows for the preprocessor, it lists the functions
with their return types, then their bodies, and last what the entry does. -/
namespace StageZero.Cxx
open Program (Function Statement)
open Text (margin)
open Token (IsName isNamePart)

/-- A function as its definition shows it. -/
structure Routine where
  name : String
  type : Ty
  body : List Line

/-- The entry calls `main`, or also gives back what that returns. -/
inductive Entry where
  | call | status
deriving DecidableEq

structure Listing where
  prototypes : List (String × Ty)
  routines : List Routine
  entry : Entry

/-! ### Reading -/

/-- Reads a type that can be written, and what stands behind it. -/
def readType (cs : List Char) : Option (Ty × List Char) :=
  [.void, .i64, .string].findSome? fun type => (after? (typeName type ++ " ") cs).map fun rest => (type, rest)

/-- Reads the signature of a function, which some ending follows. -/
def readSignature (ending row : String) : Option (String × Ty) := do
  let (type, rest) ← readType (← after? (margin 1) row.toList)
  if rest.dropWhile isNamePart = ("()" ++ ending).toList then
    some (String.ofList (rest.takeWhile isNamePart), type)
  else none

def readStatement (row : String) : Option Line := do readLine (← after? (margin 2) row.toList)

def readRoutine : List String → Option (Routine × List String)
  | blank :: header :: rows => do
    let (name, type) ← readSignature " \x7b" header
    let body ← (rows.takeWhile (indented 2)).mapM readStatement
    match rows.dropWhile (indented 2) with
    | closing :: rest => if blank = "" ∧ closing = margin 1 ++ "\x7d" then some (⟨name, type, body⟩, rest) else none
    | [] => none
  | _ => none

/-- Reads routines for as long as there are some. -/
def readRoutines (rows : List String) : List Routine × List String :=
  match readRoutine rows with
  | none => ([], rows)
  | some (routine, rest) =>
    if _shorter : rest.length < rows.length then
      let read := readRoutines rest
      (routine :: read.1, read.2)
    else ([], rows)
termination_by rows.length

/-- The rows from the end of the namespace on. -/
def Entry.rows : Entry → List String
  | .call =>
    ["\x7d // namespace Jakt", "", "int main() \x7b", margin 1 ++ "Jakt::main();", margin 1 ++ "return 0;", "\x7d"]
  | .status =>
    ["\x7d // namespace Jakt", "", "int main() \x7b", margin 1 ++ "return static_cast<int>(Jakt::main());", "\x7d"]

def readEntry (rows : List String) : Option Entry := [.call, .status].find? fun entry => rows = entry.rows

def readListing (text : String) : Option Listing := do
  let rows ← (codeRows text).dropPrefix? openingRows
  let prototypes ← (rows.takeWhile (indented 1)).mapM (readSignature ";")
  let (routines, rest) := readRoutines (rows.dropWhile (indented 1))
  some ⟨prototypes, routines, ← readEntry rest⟩

/-! ### Functions -/

/-- A routine that shows a function, where functions have these signatures. -/
structure Routine.Shows (functions : Typing.Context) (routine : Routine) (function : Function) : Prop where
  name : routine.name = function.name
  type : routine.type = function.returnType
  body : ShowsBody functions [] routine.body function.body

theorem readType_text {type : Ty} (known : type ≠ .unknown) (rest : List Char) :
    readType ((typeName type ++ " ").toList ++ rest) = some (type, rest) := by
  cases type with
  | unknown => exact absurd rfl known
  | void => rw [readType, List.findSome?_cons, after?_append]; rfl
  | i64 =>
      have void : after? (typeName .void ++ " ") ((typeName .i64 ++ " ").toList ++ rest) = none := rfl
      rw [readType, List.findSome?_cons, void, Option.map_none]
      dsimp only
      rw [List.findSome?_cons, after?_append]
      rfl
  | string =>
      have void : after? (typeName .void ++ " ") ((typeName .string ++ " ").toList ++ rest) = none := rfl
      have integer : after? (typeName .i64 ++ " ") ((typeName .string ++ " ").toList ++ rest) = none := rfl
      rw [readType, List.findSome?_cons, void, Option.map_none]
      dsimp only
      rw [List.findSome?_cons, integer, Option.map_none]
      dsimp only
      rw [List.findSome?_cons, after?_append]
      rfl

theorem readSignature_text {function : Function} (named : IsName function.name)
    (known : function.returnType ≠ .unknown) (ending : String) :
    readSignature ending (margin 1 ++ (signature function ++ ending)) =
      some (function.name, function.returnType) := by
  have whole : (signature function ++ ending).toList =
      (typeName function.returnType ++ " ").toList ++ (function.name.toList ++ ("()" ++ ending).toList) := by
    simp only [signature, String.toList_append, List.append_assoc]
  have outside : ∀ c ∈ ("()" ++ ending).toList.head?, isNamePart c = false := by
    rw [String.toList_append]
    exact outside_parenthesis _
  obtain ⟨run, behind⟩ := Token.run_append named.all outside
  rw [readSignature, String.toList_append, after?_append, whole]
  simp only [Option.bind_eq_bind, Option.bind_some, readType_text known, run, behind, if_true, String.ofList_toList]

theorem mapM_eq_some {α β : Type} {read : α → Option β} {all : List α} {found : List β}
    (each : all.map read = found.map some) : all.mapM read = some found := by
  calc all.mapM read
      = (all.map read).mapM id := (List.mapM_map (f := read) (g := id)).symm
    _ = (found.map some).mapM id := by rw [each]
    _ = found.mapM some := List.mapM_map (f := some) (g := id)
    _ = some (found.map id) := List.mapM_pure
    _ = some found := by rw [List.map_id]

theorem ShowsBody.readStatements {functions context : Typing.Context} {lines : List Line} {body : List Statement}
    (shows : ShowsBody functions context lines body) :
    (body.map fun s => margin 2 ++ statementLine s).mapM readStatement = some lines := by
  refine mapM_eq_some ?_
  rw [← shows.read, List.map_map, List.map_map]
  refine List.map_congr_left fun s _ => ?_
  simp only [Function.comp_apply, readStatement, String.toList_append, after?_append, Option.bind_eq_bind,
    Option.bind_some]

variable {functions : Typing.Context}

theorem readRoutine_text {routine : Routine} {function : Function} (shows : routine.Shows functions function)
    (named : IsName function.name) (known : function.returnType ≠ .unknown) (rest : List String) :
    readRoutine (definitionRows function ++ rest) = some (routine, rest) := by
  have inside : ∀ row ∈ function.body.map fun s => margin 2 ++ statementLine s, indented 2 row = true :=
    List.forall_mem_map.mpr fun s _ => indented_margin 2 _
  have outside : ∀ row ∈ ((margin 1 ++ "\x7d") :: rest).head?, indented 2 row = false := by
    rintro _ ⟨rfl⟩
    decide
  obtain ⟨run, behind⟩ := Token.run_append inside outside
  have rows : definitionRows function ++ rest = "" :: (margin 1 ++ (signature function ++ " \x7b")) ::
      ((function.body.map fun s => margin 2 ++ statementLine s) ++ (margin 1 ++ "\x7d") :: rest) := by
    simp [definitionRows]
  obtain ⟨name, type, lines⟩ := routine
  obtain ⟨rfl, rfl, body⟩ := shows
  rw [rows, readRoutine]
  simp only [readSignature_text named known, run, behind, body.readStatements, Option.bind_eq_bind, Option.bind_some,
    and_self, if_true]

-- The induction goes along the functions, and what is left behind each is shorter.
theorem readRoutines_text {routines : List Routine} {all : List Function}
    (shows : List.Forall₂ (Routine.Shows functions) routines all) (named : ∀ function ∈ all, IsName function.name)
    (known : ∀ function ∈ all, function.returnType ≠ .unknown) {rest : List String}
    (last : readRoutine rest = none) : readRoutines (all.flatMap definitionRows ++ rest) = (routines, rest) := by
  induction shows with
  | nil => rw [List.flatMap_nil, List.nil_append, readRoutines, last]
  | @cons routine function routines all first _ ih =>
      obtain ⟨namedFirst, namedLater⟩ := List.forall_mem_cons.mp named
      obtain ⟨knownFirst, knownLater⟩ := List.forall_mem_cons.mp known
      have read := readRoutine_text first namedFirst knownFirst (all.flatMap definitionRows ++ rest)
      have shorter : (all.flatMap definitionRows ++ rest).length <
          (definitionRows function ++ (all.flatMap definitionRows ++ rest)).length := by
        have parts : (definitionRows function ++ (all.flatMap definitionRows ++ rest)).length =
            (definitionRows function).length + (all.flatMap definitionRows ++ rest).length := List.length_append
        rw [parts]
        exact Nat.lt_add_of_pos_left (Nat.succ_pos _)
      rw [List.flatMap_cons, List.append_assoc, readRoutines, read]
      dsimp only
      rw [dif_pos shorter, ih namedLater knownLater]

/-! ### Programs -/

/-- A listing that shows a program. -/
structure Listing.Shows (listing : Listing) (program : Program) : Prop where
  prototypes : listing.prototypes = program.signatures
  routines : List.Forall₂ (Routine.Shows program.signatures) listing.routines program.functions
  entry : ∃ main ∈ program.functions, main.name = "main" ∧ (listing.entry = .status ↔ main.returnType = .i64)

theorem readEntry_rows (entry : Entry) : readEntry entry.rows = some entry ∧ readRoutine entry.rows = none := by
  cases entry <;> exact ⟨by decide, rfl⟩

theorem exists_entry {program : Program} {main : Function} (found : program.function? "main" = some main) :
    ∃ entry : Entry, closingRows program = entry.rows ∧ (entry = .status ↔ main.returnType = .i64) := by
  rw [closingRows, Cxx.entry, found]
  dsimp only
  split
  case isTrue number => exact ⟨.status, by decide, fun _ => number, fun _ => rfl⟩
  case isFalse other =>
    have called : Entry.call ≠ .status := by decide
    exact ⟨.call, by decide, fun same => absurd same called, fun number => absurd number other⟩

theorem Legible.exists_routines {program : Program} (legible : Legible program) :
    ∃ routines, List.Forall₂ (Routine.Shows program.signatures) routines program.functions := by
  have each := legible.bodies
  generalize program.signatures = names at each ⊢
  generalize program.functions = functions at each ⊢
  induction functions with
  | nil => exact ⟨[], .nil⟩
  | cons function functions ih =>
      obtain ⟨⟨lines, shows⟩, later⟩ := List.forall_mem_cons.mp each
      obtain ⟨routines, rest⟩ := ih later
      exact ⟨⟨function.name, function.returnType, lines⟩ :: routines, .cons ⟨rfl, rfl, shows⟩ rest⟩

/-- What is generated for a program is read back as a listing of it. -/
theorem readListing_emit (sources : Option Sources) {program : Program} (legible : Legible program)
    (sound : program.Sound) :
    ∃ listing, readListing (emit sources program) = some listing ∧ listing.Shows program := by
  obtain ⟨routines, shows⟩ := legible.exists_routines
  obtain ⟨main, found⟩ : ∃ main, program.function? "main" = some main := by
    obtain ⟨main, member, named, -⟩ := sound.main
    exact Option.isSome_iff_exists.mp (List.find?_isSome.mpr ⟨main, member, decide_eq_true named⟩)
  obtain ⟨entry, closing, status⟩ := exists_entry found
  obtain ⟨read, ended⟩ := readEntry_rows entry
  have known : ∀ function ∈ program.functions, function.returnType ≠ .unknown :=
    fun function member => (sound.functions function member).known
  have prototypes : (program.functions.map prototype).mapM (readSignature ";") = some program.signatures := by
    refine mapM_eq_some ?_
    rw [Program.signatures, List.map_map, List.map_map]
    exact List.map_congr_left fun function member =>
      readSignature_text (legible.named function member) (known function member) ";"
  have definitions := readRoutines_text shows legible.named known ended
  have inside : ∀ row ∈ program.functions.map prototype, indented 1 row = true :=
    List.forall_mem_map.mpr fun function _ => indented_margin 1 _
  obtain ⟨run, behind⟩ := Token.run_append inside (definition_outside program.functions program)
  rw [closing] at run behind
  have front : (openingRows ++ functionRows program).dropPrefix? openingRows = some (functionRows program) :=
    List.dropPrefix?_eq_some_iff.mpr ⟨openingRows, rfl, beq_self_eq_true _⟩
  refine ⟨⟨program.signatures, routines, entry⟩, ?_, ⟨rfl, shows, main, List.mem_of_find?_eq_some found, ?_, status⟩⟩
  · rw [readListing, codeRows_emit sources legible, front, functionRows]
    simp only [Option.bind_eq_bind, Option.bind_some, closing, run, behind, prototypes, definitions, read]
  · have same := List.find?_some (p := fun function : Function => function.name = "main") found
    exact of_decide_eq_true same

end StageZero.Cxx
