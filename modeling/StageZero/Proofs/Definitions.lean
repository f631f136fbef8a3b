import StageZero.Proofs.Causes
import StageZero.Proofs.Placement

/-! Which definitions of a file count. A name belongs to the first definition that gives it a signature, and the names
of the print functions to none. In a text the names of two definitions never stand at the same place, so there the
definitions that are checked are just the first ones of their names. -/
namespace StageZero

/-- Items of a list, each with those before it. -/
def withEarlier {α : Type} (earlier : List α) : List α → List (List α × α)
  | [] => []
  | item :: later => (earlier, item) :: withEarlier (earlier ++ [item]) later

theorem map_snd_withEarlier {α : Type} (earlier items : List α) : (withEarlier earlier items).map Prod.snd = items := by
  induction items generalizing earlier with
  | nil => rfl
  | cons item items ih => rw [withEarlier, List.map_cons, ih]

theorem mem_withEarlier {α : Type} {front items earlier : List α} {item : α} :
    (earlier, item) ∈ withEarlier front items ↔
      ∃ before after, items = before ++ item :: after ∧ earlier = front ++ before := by
  induction items generalizing front with
  | nil => simp [withEarlier]
  | cons first items ih =>
      rw [withEarlier, List.mem_cons, ih]
      constructor
      · rintro (same | ⟨before, after, rfl, rfl⟩)
        · cases same
          exact ⟨[], items, rfl, (List.append_nil _).symm⟩
        · exact ⟨first :: before, after, rfl, List.append_assoc ..⟩
      · rintro ⟨before, after, split, rfl⟩
        cases before with
        | nil =>
            cases split
            exact .inl (by rw [List.append_nil])
        | cons other before =>
            cases split
            exact .inr ⟨before, after, rfl, (List.append_assoc front [first] before).symm⟩

namespace Program

/-! ### Signatures -/

/-- Whether a definition gives a name its signature, if the name has none. -/
def gives (name : String) (function : Tree.Function) : Bool :=
  function.name = name && (Target.ofCallee? name).isNone

def signatureOf (function : Tree.Function) : Signature :=
  ⟨function.name, (declaredType function).value, function.nameSpan⟩

theorem gives_eq (name : String) (function : Tree.Function) :
    gives name function = (decide (function.name = name) && (Target.ofCallee? function.name).isNone) := by
  by_cases same : function.name = name
  · rw [gives, same]
  · simp [gives, same]

theorem lookup_declare (known : Signatures) (function : Tree.Function) (name : String) :
    (declare known function).value.lookup name =
      (known.lookup name).or (if gives name function then some (signatureOf function) else none) := by
  rw [gives_eq]
  unfold declare
  dsimp only
  cases Target.ofCallee? function.name with
  | some target => simp
  | none =>
      cases found : known.lookup function.name with
      | some first =>
          by_cases same : function.name = name
          · simp [← same, found]
          · simp [same]
      | none =>
          rw [Signatures.lookup, List.find?_append, List.find?_singleton, Signatures.lookup]
          simp [signatureOf]

/-- A name has the signature of the first definition that gives it one. -/
theorem lookup_declareAll (known : Signatures) (functions : List Tree.Function) (name : String) :
    (declareAll known functions).value.lookup name =
      (known.lookup name).or ((functions.find? (gives name)).map signatureOf) := by
  induction functions generalizing known with
  | nil => exact (Option.or_none).symm
  | cons function functions ih =>
      rw [declareAll]
      dsimp only
      rw [ih, lookup_declare, Option.or_assoc, List.find?_cons]
      cases gives name function <;> rfl

theorem lookup_declared (functions : List Tree.Function) (name : String) :
    (declareAll [] functions).value.lookup name = (functions.find? (gives name)).map signatureOf :=
  lookup_declareAll [] functions name

theorem isSome_checkFunction? (signatures : Signatures) (function : Tree.Function) :
    (checkFunction? signatures function).isSome =
      (signatures.lookup function.name).any fun signature => signature.span = function.nameSpan := by
  rw [checkFunction?]
  cases signatures.lookup function.name with
  | none => rfl
  | some signature =>
      dsimp only
      split
      case isTrue own => simp [own]
      case isFalse elsewhere => simp [elsewhere]

/-- A definition as far as it is declared. -/
def header (function : Tree.Function) : Tree.Function := { function with body := [] }

theorem declareAll_header (known : Signatures) (functions : List Tree.Function) :
    declareAll known (functions.map header) = declareAll known functions := by
  induction functions generalizing known with
  | nil => rfl
  | cons function functions ih =>
      have same : declare known (header function) = declare known function := rfl
      rw [List.map_cons, declareAll, declareAll, same, ih]

end Program

/-! ### First definitions -/

/-- Whether the name of a definition is its own, and not that of a print function. -/
def Tree.Function.isOwn (function : Function) : Bool := (Program.Target.ofCallee? function.name).isNone

/-- Whether a definition behind others is the first one of its name. -/
def Tree.isFirst (earlier : List Function) (function : Function) : Bool :=
  function.isOwn && earlier.all fun other => other.name ≠ function.name

namespace Tree.File

/-- The definitions that are the first ones of their names, in the order of the file. -/
def firsts (tree : File) : List Function :=
  ((withEarlier [] tree.functions).filter fun place => isFirst place.1 place.2).map Prod.snd

/-- What calls may know of the functions of a file. -/
def signatures (tree : File) : Program.Signatures := (Program.declareAll [] tree.functions).value

/-- A definition checked with the return type that it declares, where it may call the functions of the file. -/
def checkedBody (tree : File) (function : Function) : Program.Checked Program.Function :=
  Program.checkBody tree.signatures (Program.declaredType function).value function

/-- Definitions of the same name of their own have it in different places. -/
def Told (tree : File) : Prop :=
  tree.functions.Pairwise fun first later => later.isOwn → first.name = later.name → first.nameSpan ≠ later.nameSpan

theorem told_of_nodup {tree : File} (distinct : (tree.functions.map Function.nameSpan).Nodup) : tree.Told := by
  rw [List.nodup_iff_pairwise_ne, List.pairwise_map] at distinct
  exact distinct.imp fun apart _ _ => apart

end Tree.File

namespace Program
open StageZero.Tree (isFirst)
open TypeCause (opened opened_append opened_flatMap openings)

variable {tree : Tree.File} {before after : List Tree.Function} {function : Tree.Function}

theorem gives_of_isOwn (own : function.isOwn = true) :
    gives function.name = fun other => decide (other.name = function.name) := by
  funext other
  simp only [gives, Tree.Function.isOwn] at own ⊢
  rw [own, Bool.and_true]

theorem find?_gives_eq_none (taken : function.isOwn = false) (functions : List Tree.Function) :
    functions.find? (gives function.name) = none := by
  refine List.find?_eq_none.mpr fun other _ => ?_
  simp only [Tree.Function.isOwn] at taken
  simp [gives, taken]

theorem checkFunction?_eq (told : tree.Told) (split : tree.functions = before ++ function :: after) :
    checkFunction? tree.signatures function =
      if isFirst before function then some (tree.checkedBody function) else none := by
  have apart : ∀ first ∈ before, function.isOwn → first.name = function.name → first.nameSpan ≠ function.nameSpan := by
    rw [Tree.File.Told, split, List.pairwise_append] at told
    exact fun first member => told.2.2 first member function (List.mem_cons_self ..)
  rw [checkFunction?, Tree.File.signatures, lookup_declared, split, isFirst]
  cases own : function.isOwn with
  | false =>
      rw [find?_gives_eq_none own]
      rfl
  | true =>
      rw [gives_of_isOwn own, List.find?_append]
      cases found : before.find? fun other => other.name = function.name with
      | some first =>
          have named : first.name = function.name := by simpa using List.find?_some found
          have member := List.mem_of_find?_eq_some found
          have taken : (before.all fun other => decide (other.name ≠ function.name)) = false :=
            List.all_eq_false.mpr ⟨first, member, by simp [named]⟩
          rw [taken]
          exact if_neg (apart first member own named)
      | none =>
          have free : (before.all fun other => decide (other.name ≠ function.name)) = true :=
            List.all_eq_true.mpr fun other member => by simpa using List.find?_eq_none.mp found other member
          rw [free, Option.none_or, List.find?_cons_of_pos (by simp)]
          dsimp only [Option.map_some, signatureOf]
          rw [if_pos rfl, Bool.and_true, if_pos rfl, Tree.File.checkedBody, Tree.File.signatures, split]

theorem filterMap_checkFunction? (told : tree.Told) :
    tree.functions.filterMap (checkFunction? tree.signatures) = tree.firsts.map tree.checkedBody := by
  have each : ∀ place ∈ withEarlier [] tree.functions, checkFunction? tree.signatures place.2 =
      if isFirst place.1 place.2 then some (tree.checkedBody place.2) else none := by
    rintro ⟨earlier, function⟩ member
    obtain ⟨before, after, split, rfl⟩ := mem_withEarlier.mp member
    exact checkFunction?_eq told split
  calc tree.functions.filterMap (checkFunction? tree.signatures)
      = (withEarlier [] tree.functions).filterMap fun place => checkFunction? tree.signatures place.2 := by
        conv_lhs => rw [← map_snd_withEarlier [] tree.functions, List.filterMap_map]
        rfl
    _ = (withEarlier [] tree.functions).filterMap fun place =>
          if isFirst place.1 place.2 then some (tree.checkedBody place.2) else none := List.filterMap_congr each
    _ = tree.firsts.map tree.checkedBody := by
        rw [Tree.File.firsts, List.map_map]
        induction withEarlier [] tree.functions with
        | nil => rfl
        | cons place places ih => cases first : isFirst place.1 place.2 <;> simp [first, ih]

/-! ### Faults of declarations -/

/-- The fault of a name that is not free for the definition behind others. -/
def nameFaults (earlier : List Tree.Function) (function : Tree.Function) : List (Fault TypeCause) :=
  if function.isOwn then
    match earlier.find? fun other => other.name = function.name with
    | some first => [⟨.functionRedefined function.name first.nameSpan, function.nameSpan⟩]
    | none => []
  else [⟨.builtinRedefined function.name, function.nameSpan⟩]

theorem declareAll_append (known : Signatures) (functions later : List Tree.Function) :
    (declareAll known (functions ++ later)).value = (declareAll (declareAll known functions).value later).value := by
  induction functions generalizing known with
  | nil => rfl
  | cons function functions ih =>
      rw [List.cons_append, declareAll, declareAll]
      exact ih _

theorem declare_faults (earlier : List Tree.Function) (function : Tree.Function) :
    (declare (declareAll [] earlier).value function).faults =
      (declaredType function).faults ++ nameFaults earlier function := by
  unfold declare
  dsimp only
  rw [lookup_declared, nameFaults]
  cases target : Target.ofCallee? function.name with
  | some target =>
      have taken : function.isOwn = false := by rw [Tree.Function.isOwn, target]; rfl
      simp [taken]
  | none =>
      have own : function.isOwn = true := by rw [Tree.Function.isOwn, target]; rfl
      rw [gives_of_isOwn own, if_pos own]
      cases earlier.find? fun other => other.name = function.name with
      | none => simp
      | some first => rfl

-- The definitions already passed move to those before, so the table behind them is known at each step.
theorem declareAll_faults (earlier functions : List Tree.Function) :
    (declareAll (declareAll [] earlier).value functions).faults =
      (withEarlier earlier functions).flatMap fun place =>
        (declaredType place.2).faults ++ nameFaults place.1 place.2 := by
  induction functions generalizing earlier with
  | nil => rfl
  | cons function functions ih =>
      have next := declareAll_append [] earlier [function]
      rw [withEarlier, List.flatMap_cons, ← ih, next, declareAll, declare_faults]
      rfl

/-- The faults of a file: those of its headers, that of its entry, and those of the first definitions. -/
theorem check_faults (file : FileId) (told : tree.Told) :
    (check file tree).faults =
      ((withEarlier [] tree.functions).flatMap fun place =>
        (declaredType place.2).faults ++ nameFaults place.1 place.2) ++
      mainFaults file tree.signatures ++ tree.firsts.flatMap fun function => (tree.checkedBody function).faults := by
  have declared : (declareAll [] tree.functions).faults = _ := declareAll_faults [] tree.functions
  have bodies := filterMap_checkFunction? told
  rw [Tree.File.signatures] at bodies
  unfold check
  dsimp only
  rw [declared, bodies, List.flatMap_map]
  rfl

theorem check_functions (file : FileId) (told : tree.Told) :
    (check file tree).value.functions = tree.firsts.map fun function => (tree.checkedBody function).value := by
  have bodies := filterMap_checkFunction? told
  rw [Tree.File.signatures] at bodies
  unfold check
  dsimp only
  rw [bodies, List.map_map]
  rfl

/-! ### Diagnostics of names -/

/-- The diagnostic of a definition whose name one of those before it has taken. -/
def redefinition? (earlier : List Tree.Function) (function : Tree.Function) : Option Diagnostic :=
  if function.isOwn then
    (earlier.find? fun other => other.name = function.name).map fun first =>
      ⟨"typecheck", "redefinition of function '" ++ function.name ++ "'", function.nameSpan,
        some ⟨"previous definition here", first.nameSpan⟩⟩
  else none

/-- The diagnostic of a definition that has the name of a print function. -/
def builtinRedefinition? (function : Tree.Function) : Option Diagnostic :=
  if function.isOwn then none
  else some ⟨"typecheck", "cannot redefine builtin function '" ++ function.name ++ "'", function.nameSpan, none⟩

/-- What starts with the opening of a fault that a name may have comes from the names of the file. -/
theorem diagnostics_of_names (file : FileId) (told : tree.Told) {words : String} (opens : TypeCause.Opens words)
    (elsewhere : ∀ entry ∈ openings, entry.2 ∈ [.type, .entry, .use, .call, .statement, .binding] → entry.1 ≠ words) :
    ((check file tree).faults.map Fault.diagnostic).filter (Diagnostic.startsWith words) =
      (withEarlier [] tree.functions).flatMap fun place =>
        (opened words (nameFaults place.1 place.2)).map Fault.diagnostic := by
  have types (function : Tree.Function) : opened words (declaredType function).faults = [] :=
    ((declaredType_within function).mono (by simp)).opened_eq_nil elsewhere
  have main : opened words (mainFaults file tree.signatures) = [] :=
    ((mainFaults_within file tree.signatures).mono (by simp)).opened_eq_nil elsewhere
  have bodies : opened words (tree.firsts.flatMap fun function => (tree.checkedBody function).faults) = [] := by
    refine TypeCause.Within.opened_eq_nil (.flatMap fun function _ => ?_) elsewhere
    exact (checkBody_within _ function).mono (by simp)
  rw [check_faults file told, opens.filter_startsWith, opened_append, opened_append, main, bodies, List.append_nil,
    List.append_nil, opened_flatMap, List.map_flatMap]
  refine List.flatMap_congr fun place _ => ?_
  rw [opened_append, types, List.nil_append]

theorem diagnostics_redefinition (file : FileId) (told : tree.Told) :
    ((check file tree).faults.map Fault.diagnostic).filter (Diagnostic.startsWith "redefinition of function '") =
      (withEarlier [] tree.functions).filterMap fun place => redefinition? place.1 place.2 := by
  rw [diagnostics_of_names file told TypeCause.opens_functionRedefined (by decide),
    List.filterMap_eq_flatMap_toList]
  refine List.flatMap_congr fun place _ => ?_
  rw [nameFaults, redefinition?]
  cases place.2.isOwn with
  | false => rfl
  | true => cases place.1.find? fun other => other.name = place.2.name <;> rfl

theorem diagnostics_builtinRedefinition (file : FileId) (told : tree.Told) :
    ((check file tree).faults.map Fault.diagnostic).filter
        (Diagnostic.startsWith "cannot redefine builtin function '") =
      tree.functions.filterMap builtinRedefinition? := by
  conv_rhs => rw [← map_snd_withEarlier [] tree.functions, List.filterMap_map]
  rw [diagnostics_of_names file told TypeCause.opens_builtinRedefined (by decide),
    List.filterMap_eq_flatMap_toList]
  refine List.flatMap_congr fun place _ => ?_
  rw [nameFaults, Function.comp, builtinRedefinition?]
  cases place.2.isOwn with
  | false => rfl
  | true => cases place.1.find? fun other => other.name = place.2.name <;> rfl

/-- Nothing depends on the body of a definition that is not the first of its name. -/
theorem check_eq_of_later (file : FileId) (told : tree.Told) (split : tree.functions = before ++ function :: after)
    (later : isFirst before function = false) (body : List Tree.Statement) :
    check file ⟨before ++ { function with body := body } :: after⟩ = check file tree := by
  have unchecked : checkFunction? tree.signatures function = none := by
    rw [checkFunction?_eq told split, later]
    rfl
  have uncheckedAlso : checkFunction? tree.signatures { function with body := body } = none := by
    have isSome := (isSome_checkFunction? tree.signatures { function with body := body }).trans
      (isSome_checkFunction? tree.signatures function).symm
    rw [unchecked, Option.isSome_none] at isSome
    exact Option.not_isSome_iff_eq_none.mp (Bool.not_eq_true _ ▸ isSome)
  have declared : declareAll [] (before ++ { function with body := body } :: after) =
      declareAll [] (before ++ function :: after) := by
    rw [← declareAll_header, ← declareAll_header [] (before ++ function :: after), List.map_append, List.map_append]
    rfl
  rw [Tree.File.signatures, split] at unchecked uncheckedAlso
  unfold check
  dsimp only
  rw [declared, split, List.filterMap_append, List.filterMap_append, List.filterMap_cons_none unchecked,
    List.filterMap_cons_none uncheckedAlso]

end Program

/-- In every text the first definition of a name wins. The functions of the program are the first definitions of their
names, in their order; each later one has one diagnostic at its name with a hint at the first, each definition of a
print function has one at its name; and it does not matter what stands in the body of a definition that is not
checked. -/
theorem first_definitions_win (file : FileId) (text : String) :
    let tree := treeOf file text
    let checked := check file tree
    let diagnostics := checked.faults.map Fault.diagnostic
    checked.value.functions = tree.firsts.map (fun function => (tree.checkedBody function).value) ∧
      diagnostics.filter (Diagnostic.startsWith "redefinition of function '") =
        (withEarlier [] tree.functions).filterMap (fun place => Program.redefinition? place.1 place.2) ∧
      diagnostics.filter (Diagnostic.startsWith "cannot redefine builtin function '") =
        tree.functions.filterMap Program.builtinRedefinition? ∧
      ∀ before function after, tree.functions = before ++ function :: after → Tree.isFirst before function = false →
        ∀ body, check file ⟨before ++ { function with body := body } :: after⟩ = checked := by
  intro tree checked diagnostics
  have told : tree.Told := Tree.File.told_of_nodup (treeOf_names_nodup file text)
  exact ⟨Program.check_functions file told, Program.diagnostics_redefinition file told,
    Program.diagnostics_builtinRedefinition file told, fun before function after split later body =>
      Program.check_eq_of_later file told split later body⟩

end StageZero
