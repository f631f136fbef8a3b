import StageZero.Proofs.Becoming
import StageZero.Proofs.Definitions

/-! Variables of bodies. In a body that is checked a name stands for what the nearest statement before binds to it, with
the type that is recorded there, also if that statement did not check or has bound the name once more. Nothing else is
in scope: what a body makes of its variables depends on the body, and on what its calls return. -/
namespace StageZero
namespace Tree

/-! ### Uses and bindings -/

mutual

/-- The variables used in an expression, as far as they are checked: the format of a print is not. -/
def Expression.uses : Expression → List Named
  | .variable name span => [⟨name, span⟩]
  | .call callee items _ =>
    match Program.Target.ofCallee? callee with
    | none => (usesOfEach items).flatten
    | some _ => (usesOfEach items).tail.flatten
  | .number .. | .quotation .. | .garbage _ => []

def usesOfEach : List Expression → List (List Named)
  | [] => []
  | item :: items => item.uses :: usesOfEach items

end

def Statement.uses : Statement → List Named
  | .let _ _ value | .return (some value) _ | .expression value => value.uses
  | .return none _ => []

theorem Statement.bound?_eq_some {statement : Statement} {named : Named} :
    statement.bound? = some named ↔ ∃ initial, statement = .let named.name named.span initial := by
  cases named
  cases statement <;> simp [bound?]

/-- The nearest binding of a name before some place. -/
def nearest? (before : List Statement) (name : String) : Option Named :=
  (before.filterMap Statement.bound?).reverse.find? fun bound => bound.name = name

/-- The variables used in a body that no statement before binds. -/
def unresolved (body : List Statement) : List Named :=
  (withEarlier [] body).flatMap fun place => place.2.uses.filter fun use => (nearest? place.1 use.name).isNone

/-- The bindings of a body whose name is bound before, each with the nearest binding of it. -/
def rebound (body : List Statement) : List (Named × Named) :=
  (withEarlier [] body).filterMap fun place =>
    place.2.bound?.bind fun bound => (nearest? place.1 bound.name).map fun previous => (bound, previous)

/-- The definitions whose bodies are checked: those that stand where the first one of their name does. -/
def File.checks (tree : File) (function : Function) : Bool :=
  (tree.functions.find? (Program.gives function.name)).any fun first => first.nameSpan = function.nameSpan

/-- The return type that the first definition of a name declares. -/
def File.results (tree : File) (name : String) : Option Ty :=
  (tree.functions.find? (Program.gives name)).map fun function => (Program.declaredType function).value

end Tree

namespace Program
open TypeCause (opened opened_append opened_flatMap opened_single_eq_nil)

/-- The name that a statement binds, with the type that is recorded for it. -/
def Statement.bound? : Statement → Option (String × Ty)
  | .let name type .. => some (name, type)
  | .return .. | .expression .. => none

/-- The type recorded for the nearest binding of a name before some place. -/
def recorded? (before : List Statement) (name : String) : Option Ty :=
  ((before.filterMap Statement.bound?).reverse.find? fun bound => bound.1 = name).map Prod.snd

/-- A statement behind others is checked with the variables that those bind, and each has the type recorded for it. -/
structure Scoped (results : String → Option Ty) (place : List Tree.Statement × Tree.Statement)
    (result : List Statement × Statement) : Prop where
  resolves : ∀ name, (recorded? result.1 name).isSome ↔ ∃ nameSpan initial, .let name nameSpan initial ∈ place.1
  becomes : place.2.Becomes results (recorded? result.1) result.2

/-! ### Scopes -/

/-- A scope behind some statements holds what they bind, the newest first. -/
structure Scope.Follows (scope : Scope) (before : List Tree.Statement) (earlier : List Statement) : Prop where
  names : (scope.map fun binding => (⟨binding.name, binding.span⟩ : Tree.Named)) =
    (before.filterMap Tree.Statement.bound?).reverse
  types : (scope.map fun binding => (binding.name, binding.type)) = (earlier.filterMap Statement.bound?).reverse

variable {signatures : Signatures} {returnType : Ty} {scope : Scope} {before : List Tree.Statement}
  {earlier : List Statement}

namespace Scope.Follows

theorem nil : Scope.Follows [] [] [] := ⟨rfl, rfl⟩

theorem nearest_eq (follows : scope.Follows before earlier) (name : String) :
    Tree.nearest? before name = (scope.lookup name).map fun binding => ⟨binding.name, binding.span⟩ := by
  rw [Tree.nearest?, ← follows.names, List.find?_map]
  rfl

theorem isNone_nearest (follows : scope.Follows before earlier) (name : String) :
    (Tree.nearest? before name).isNone = (scope.lookup name).isNone := by
  rw [follows.nearest_eq, Option.isNone_map]

theorem recorded_eq (follows : scope.Follows before earlier) : recorded? earlier = scope.types := by
  funext name
  rw [recorded?, ← follows.types, List.find?_map, Option.map_map]
  rfl

theorem isSome_recorded (follows : scope.Follows before earlier) (name : String) :
    (recorded? earlier name).isSome ↔ ∃ nameSpan initial, .let name nameSpan initial ∈ before := by
  have both : (recorded? earlier name).isSome = (Tree.nearest? before name).isSome := by
    rw [follows.recorded_eq, follows.nearest_eq, Scope.types, Option.isSome_map, Option.isSome_map]
  rw [both, Tree.nearest?, List.find?_isSome]
  simp only [List.mem_reverse, List.mem_filterMap, Tree.Statement.bound?_eq_some, decide_eq_true_iff]
  constructor
  · rintro ⟨named, ⟨_, member, initial, rfl⟩, rfl⟩
    exact ⟨named.span, initial, member⟩
  · rintro ⟨nameSpan, initial, member⟩
    exact ⟨⟨name, nameSpan⟩, ⟨_, member, initial, rfl⟩, rfl⟩

/-- A statement adds to the scope what it binds, and nothing else. -/
theorem step (follows : scope.Follows before earlier) (signatures : Signatures) (returnType : Ty)
    (tree : Tree.Statement) :
    (checkStatement signatures returnType scope tree).scope.Follows (before ++ [tree])
      (earlier ++ [(checkStatement signatures returnType scope tree).statement]) := by
  obtain ⟨names, types⟩ := follows
  constructor
  · rw [List.filterMap_append, List.reverse_append, ← names]
    cases tree with
    | «let» | expression => rfl
    | «return» value => cases value <;> rfl
  · rw [List.filterMap_append, List.reverse_append, ← types]
    cases tree with
    | «let» | expression => rfl
    | «return» value => cases value <;> rfl

end Scope.Follows

theorem checkStatements_scoped (follows : scope.Follows before earlier) (trees : List Tree.Statement) :
    List.Forall₂ (Scoped signatures.results) (withEarlier before trees)
      (withEarlier earlier (checkStatements signatures returnType scope trees).value) := by
  induction trees generalizing scope before earlier with
  | nil => exact .nil
  | cons tree trees ih =>
      have become := checkStatement_becomes signatures returnType scope tree
      rw [← follows.recorded_eq] at become
      exact .cons ⟨follows.isSome_recorded, become⟩ (ih (follows.step signatures returnType tree))

/-! ### Faults -/

/-- The faults of some variables that are not in scope. -/
def unknownFaults (scope : Scope) (uses : List Tree.Named) : List (Fault TypeCause) :=
  (uses.filter fun use => (scope.lookup use.name).isNone).map fun use => ⟨.unknownVariable use.name, use.span⟩

theorem unknownFaults_flatten (scope : Scope) (each : List (List Tree.Named)) :
    unknownFaults scope each.flatten = each.flatMap (unknownFaults scope) := by
  rw [unknownFaults, List.filter_flatten, List.map_flatten, List.map_map]
  rfl

theorem unknown_of_call {own : List (Fault TypeCause)} (faults : List (Fault TypeCause))
    (within : TypeCause.Within [.call] own) :
    opened "unknown variable '" (faults ++ own) = opened "unknown variable '" faults := by
  rw [opened_append, within.opened_eq_nil (by decide), List.append_nil]

mutual

/-- An expression has one fault for each use of a variable that is not in scope. -/
theorem checkExpression_unknown (tree : Tree.Expression) :
    opened "unknown variable '" (checkExpression signatures scope tree).faults = unknownFaults scope tree.uses := by
  cases tree with
  | number | quotation | garbage =>
      rw [checkExpression, Tree.Expression.uses]
      rfl
  | «variable» name span =>
      rw [checkExpression, Tree.Expression.uses]
      cases found : scope.lookup name with
      | some binding => simp [opened, unknownFaults, found]
      | none => simp [opened, unknownFaults, found, TypeCause.opening]
  | call callee items span =>
      have each := checkArguments_unknown items
      rw [checkExpression, Tree.Expression.uses]
      cases Target.ofCallee? callee with
      | none =>
          obtain ⟨own, whole, within⟩ := checkCall_faults signatures callee (checkArguments signatures scope items) span
          dsimp only
          rw [whole, unknown_of_call _ within, opened_flatMap, unknownFaults_flatten, List.flatMap, each]
          rfl
      | some target =>
          cases items with
          | nil => exact unknown_of_call [] (.single (.head _))
          | cons format items =>
              rw [checkArguments, Tree.usesOfEach, List.map_cons, List.map_cons, List.cons.injEq] at each
              obtain ⟨own, whole, within⟩ := checkPrint_faults target format (checkArguments signatures scope items)
              have printed (argument : Argument) : opened "unknown variable '" argument.printFaults =
                  opened "unknown variable '" argument.checked.faults := by
                obtain ⟨own, whole, within⟩ := printFaults_eq argument
                rw [whole, unknown_of_call _ within]
              rw [checkArguments, Tree.usesOfEach]
              dsimp only [List.tail_cons]
              rw [whole, unknown_of_call _ within, opened_flatMap, unknownFaults_flatten, List.flatMap, List.flatMap,
                ← each.2]
              simp only [printed]

theorem checkArguments_unknown (items : List Tree.Expression) :
    ((checkArguments signatures scope items).map fun argument =>
        opened "unknown variable '" argument.checked.faults) =
      (Tree.usesOfEach items).map (unknownFaults scope) := by
  cases items with
  | nil =>
      rw [checkArguments, Tree.usesOfEach]
      rfl
  | cons item items =>
      rw [checkArguments, Tree.usesOfEach, List.map_cons, List.map_cons, checkExpression_unknown item,
        checkArguments_unknown items]

end

theorem checkStatement_unknown (signatures : Signatures) (returnType : Ty) (scope : Scope) (tree : Tree.Statement) :
    opened "unknown variable '" (checkStatement signatures returnType scope tree).faults =
      unknownFaults scope tree.uses := by
  obtain ⟨own, whole, within⟩ := checkStatement_faults signatures returnType scope tree
  have binding := bindingFaults_within scope tree
  rw [whole, opened_append, opened_append, within.opened_eq_nil (by decide), binding.opened_eq_nil (by decide),
    List.append_nil, List.append_nil]
  cases tree with
  | «let» _ _ value | expression value => exact checkExpression_unknown value
  | «return» value =>
      cases value with
      | none => rfl
      | some value => exact checkExpression_unknown value

theorem checkStatement_redefined (signatures : Signatures) (returnType : Ty) (scope : Scope) (tree : Tree.Statement) :
    opened "redefinition of variable '" (checkStatement signatures returnType scope tree).faults =
      bindingFaults scope tree := by
  obtain ⟨own, whole, within⟩ := checkStatement_faults signatures returnType scope tree
  have value := valueFaults_within signatures scope tree
  rw [whole, opened_append, opened_append, within.opened_eq_nil (by decide), value.opened_eq_nil (by decide),
    List.nil_append, List.nil_append, bindingFaults]
  cases tree.bound? with
  | none => rfl
  | some bound =>
      dsimp only
      cases scope.lookup bound.name with
      | none => rfl
      | some previous => simp [opened, TypeCause.opening]

/-- What a body has of some faults, if what its statements have of them is known from those before. -/
theorem checkStatements_opened {words : String}
    {faults : List Tree.Statement × Tree.Statement → List (Fault TypeCause)}
    (each : ∀ {scope before earlier} tree, Scope.Follows scope before earlier →
      opened words (checkStatement signatures returnType scope tree).faults = faults (before, tree))
    (follows : scope.Follows before earlier) (trees : List Tree.Statement) :
    opened words (checkStatements signatures returnType scope trees).faults =
      (withEarlier before trees).flatMap faults := by
  induction trees generalizing scope before earlier with
  | nil => rfl
  | cons tree trees ih =>
      rw [checkStatements, withEarlier, List.flatMap_cons, opened_append, each tree follows,
        ih (follows.step signatures returnType tree)]

theorem checkBody_opened {words : String}
    (elsewhere : ∀ entry ∈ TypeCause.openings, entry.2 ∈ [.statement] → entry.1 ≠ words)
    {faults : List Tree.Statement × Tree.Statement → List (Fault TypeCause)}
    (each : ∀ {scope before earlier} tree, Scope.Follows scope before earlier →
      opened words (checkStatement signatures returnType scope tree).faults = faults (before, tree))
    (function : Tree.Function) :
    opened words (checkBody signatures returnType function).faults =
      (withEarlier [] function.body).flatMap faults := by
  have missing : TypeCause.Within [.statement]
      (if Ty.void.agrees returnType || function.body.any isReturn then []
        else [⟨.returnMissing function.name returnType, function.nameSpan⟩]) := .ite .nil (.single (.head _))
  unfold checkBody
  dsimp only
  rw [opened_append, checkStatements_opened each .nil, missing.opened_eq_nil elsewhere, List.append_nil]

theorem checkBody_unknown (signatures : Signatures) (returnType : Ty) (function : Tree.Function) :
    opened "unknown variable '" (checkBody signatures returnType function).faults =
      (Tree.unresolved function.body).map fun use => ⟨.unknownVariable use.name, use.span⟩ := by
  rw [Tree.unresolved, List.map_flatMap]
  refine checkBody_opened ?_ (fun tree follows => ?_) function
  · decide
  · rw [checkStatement_unknown, unknownFaults]
    simp only [follows.isNone_nearest]

theorem checkBody_redefined (signatures : Signatures) (returnType : Ty) (function : Tree.Function) :
    opened "redefinition of variable '" (checkBody signatures returnType function).faults =
      (Tree.rebound function.body).map fun pair => ⟨.variableRedefined pair.1.name pair.2.span, pair.1.span⟩ := by
  rw [Tree.rebound, List.filterMap_eq_flatMap_toList, List.map_flatMap]
  refine checkBody_opened ?_ (fun {scope _ _} tree follows => ?_) function
  · decide
  · rw [checkStatement_redefined, bindingFaults]
    cases tree.bound? with
    | none => rfl
    | some bound =>
        rw [Option.bind_some, follows.nearest_eq]
        dsimp only
        cases scope.lookup bound.name <;> rfl

/-! ### Bodies that are checked -/

theorem results_eq (tree : Tree.File) : tree.signatures.results = tree.results := by
  funext name
  rw [Signatures.results, Tree.File.signatures, lookup_declared, Option.map_map]
  rfl

theorem isSome_checkFunction?_eq (tree : Tree.File) (function : Tree.Function) :
    (checkFunction? tree.signatures function).isSome = tree.checks function := by
  rw [isSome_checkFunction?, Tree.File.signatures, lookup_declared, Option.any_map]
  rfl

theorem exists_checkBody_eq {signatures : Signatures} {function : Tree.Function} {checked : Checked Function}
    (found : checkFunction? signatures function = some checked) :
    ∃ returnType, signatures.results function.name = some returnType ∧
      checkBody signatures returnType function = checked := by
  unfold checkFunction? at found
  cases known : signatures.lookup function.name with
  | none =>
      rw [known] at found
      cases found
  | some signature =>
      rw [known] at found
      dsimp only at found
      split at found
      case isTrue => exact ⟨signature.returnType, by rw [Signatures.results, known, Option.map_some], Option.some.inj found⟩
      case isFalse => cases found

theorem checkFunctions_eq (tree : Tree.File) :
    List.Forall₂ (fun function checked => ∃ returnType, tree.results function.name = some returnType ∧
        checkBody tree.signatures returnType function = checked)
      (tree.functions.filter tree.checks) (tree.functions.filterMap (checkFunction? tree.signatures)) := by
  have kept : (tree.functions.filter tree.checks).filterMap (checkFunction? tree.signatures) =
      tree.functions.filterMap (checkFunction? tree.signatures) := by
    rw [List.filterMap_filter]
    refine List.filterMap_congr fun function _ => ?_
    rw [← isSome_checkFunction?_eq]
    cases checkFunction? tree.signatures function <;> rfl
  rw [← kept]
  refine filterMap_related fun function member => ?_
  obtain ⟨checked, found⟩ := Option.isSome_iff_exists.mp
    ((isSome_checkFunction?_eq tree function).trans (List.of_mem_filter member))
  exact ⟨checked, found, results_eq tree ▸ exists_checkBody_eq found⟩

/-- The diagnostics that only bodies have are those of the bodies that are checked. -/
theorem diagnostics_of_bodies (file : FileId) (tree : Tree.File) {words : String} (opens : TypeCause.Opens words)
    (elsewhere : ∀ entry ∈ TypeCause.openings, entry.2 ∈ [.type, .name, .entry] → entry.1 ≠ words)
    {α : Type} {items : List Tree.Statement → List α} {fault : α → Fault TypeCause}
    (each : ∀ returnType function, opened words (checkBody tree.signatures returnType function).faults =
      (items function.body).map fault) :
    ((check file tree).faults.map Fault.diagnostic).filter (Diagnostic.startsWith words) =
      ((tree.functions.filter tree.checks).flatMap fun function => items function.body).map fun item =>
        (fault item).diagnostic := by
  have declared : opened words (declareAll [] tree.functions).faults = [] :=
    ((declareAll_within [] tree.functions).mono (by simp)).opened_eq_nil elsewhere
  have main : opened words (mainFaults file tree.signatures) = [] :=
    ((mainFaults_within file tree.signatures).mono (by simp)).opened_eq_nil elsewhere
  have bodies : (tree.functions.filterMap (checkFunction? tree.signatures)).map (fun checked =>
      opened words checked.faults) =
        (tree.functions.filter tree.checks).map fun function => (items function.body).map fault := by
    refine map_related (checkFunctions_eq tree) ?_
    rintro function _ ⟨returnType, -, rfl⟩
    exact each returnType function
  rw [Tree.File.signatures] at main bodies
  unfold check
  dsimp only
  rw [opens.filter_startsWith, opened_append, opened_append, declared, main, List.nil_append, List.nil_append,
    opened_flatMap, List.flatMap, bodies, ← List.flatMap, List.map_flatMap, List.map_flatMap]
  simp only [List.map_map]
  rfl

theorem check_bodies (file : FileId) (tree : Tree.File) :
    List.Forall₂ (fun function result => result.name = function.name ∧
        List.Forall₂ (Scoped tree.results) (withEarlier [] function.body) (withEarlier [] result.body))
      (tree.functions.filter tree.checks) (check file tree).value.functions := by
  have values : (check file tree).value.functions =
      (tree.functions.filterMap (checkFunction? tree.signatures)).map fun checked => checked.value := rfl
  rw [values, List.forall₂_map_right_iff]
  refine (checkFunctions_eq tree).imp ?_
  rintro function _ ⟨returnType, -, rfl⟩
  rw [← results_eq]
  exact ⟨rfl, checkStatements_scoped .nil function.body⟩

end Program

/-- In every body that is checked, also with errors, a statement knows just the variables that those before it bind,
each with the type that is recorded for its nearest binding. There is one diagnostic for each use of any other name, and
one for each binding of a name that is bound already, with a hint at the nearest binding of it. -/
theorem variables_scoped (file : FileId) (tree : Tree.File) :
    let checked := check file tree
    let diagnostics := checked.faults.map Fault.diagnostic
    let functions := tree.functions.filter tree.checks
    List.Forall₂ (fun function result => result.name = function.name ∧
        List.Forall₂ (Program.Scoped tree.results) (withEarlier [] function.body) (withEarlier [] result.body))
        functions checked.value.functions ∧
      diagnostics.filter (Diagnostic.startsWith "unknown variable '") =
        (functions.flatMap fun function => Tree.unresolved function.body).map (fun use =>
          ⟨"typecheck", "unknown variable '" ++ use.name ++ "'", use.span, none⟩) ∧
      diagnostics.filter (Diagnostic.startsWith "redefinition of variable '") =
        (functions.flatMap fun function => Tree.rebound function.body).map fun (again, nearest) =>
          ⟨"typecheck", "redefinition of variable '" ++ again.name ++ "'", again.span,
            some ⟨"previous definition here", nearest.span⟩⟩ := by
  intro checked diagnostics functions
  refine ⟨Program.check_bodies file tree, ?_, ?_⟩
  · exact Program.diagnostics_of_bodies file tree TypeCause.opens_unknownVariable (by decide)
      (Program.checkBody_unknown tree.signatures)
  · exact Program.diagnostics_of_bodies file tree TypeCause.opens_variableRedefined (by decide)
      (Program.checkBody_redefined tree.signatures)

end StageZero
