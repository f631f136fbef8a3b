import StageZero.Proofs.Definitions

/-! Definitions in another order. A body sees the other definitions through the signatures of their names only, and where
each name is defined once its signature does not depend on the order. So a file and a permutation of it have the same
functions, each in its place, and the same diagnostics. -/
namespace StageZero
namespace Program

/-! ### Signatures that are looked up alike -/

/-- Signatures that give each name the same one. -/
def Signatures.Agree (signatures others : Signatures) : Prop := ∀ name, signatures.lookup name = others.lookup name

variable {signatures others : Signatures}

theorem checkCall_congr (agree : signatures.Agree others) (callee : String) (arguments : List Argument) (span : Span) :
    checkCall signatures callee arguments span = checkCall others callee arguments span := by
  unfold checkCall
  rw [agree callee]

mutual

theorem checkExpression_congr (agree : signatures.Agree others) (scope : Scope) (tree : Tree.Expression) :
    checkExpression signatures scope tree = checkExpression others scope tree := by
  cases tree with
  | number | quotation | garbage | «variable» => rw [checkExpression, checkExpression]
  | call callee items span =>
      rw [checkExpression, checkExpression, checkArguments_congr agree scope items]
      cases Target.ofCallee? callee with
      | none => exact checkCall_congr agree callee _ span
      | some target => rfl

theorem checkArguments_congr (agree : signatures.Agree others) (scope : Scope) (items : List Tree.Expression) :
    checkArguments signatures scope items = checkArguments others scope items := by
  cases items with
  | nil => rw [checkArguments, checkArguments]
  | cons item items =>
      rw [checkArguments, checkArguments, checkExpression_congr agree scope item, checkArguments_congr agree scope items]

end

section
variable (agree : signatures.Agree others)
include agree

theorem checkStatement_congr (returnType : Ty) (scope : Scope) (tree : Tree.Statement) :
    checkStatement signatures returnType scope tree = checkStatement others returnType scope tree := by
  cases tree with
  | «let» name nameSpan initial =>
      dsimp only [checkStatement]
      rw [checkExpression_congr agree scope initial]
  | «return» value span =>
      cases value with
      | none => rfl
      | some value =>
          dsimp only [checkStatement]
          rw [checkExpression_congr agree scope value]
  | expression value =>
      dsimp only [checkStatement]
      rw [checkExpression_congr agree scope value]

theorem checkStatements_congr (returnType : Ty) (scope : Scope) (trees : List Tree.Statement) :
    checkStatements signatures returnType scope trees = checkStatements others returnType scope trees := by
  induction trees generalizing scope with
  | nil => rfl
  | cons tree trees ih =>
      unfold checkStatements
      dsimp only
      rw [checkStatement_congr agree returnType scope tree, ih]

theorem checkBody_congr (returnType : Ty) (function : Tree.Function) :
    checkBody signatures returnType function = checkBody others returnType function := by
  unfold checkBody
  rw [checkStatements_congr agree returnType [] function.body]

theorem mainFaults_congr (file : FileId) : mainFaults file signatures = mainFaults file others := by
  unfold mainFaults
  rw [agree "main"]

end

/-! ### Names that are defined once -/

/-- No two definitions have a name in common that is their own. -/
def Single (tree : Tree.File) : Prop :=
  ((tree.functions.filter Tree.Function.isOwn).map Tree.Function.name).Nodup

variable {tree other : Tree.File}

theorem Single.perm (single : Single tree) (perm : tree.functions.Perm other.functions) : Single other :=
  ((perm.filter _).map _).nodup_iff.mp single

theorem Single.pairwise (single : Single tree) :
    tree.functions.Pairwise fun first later => first.isOwn → later.isOwn → first.name ≠ later.name := by
  rw [Single, List.nodup_iff_pairwise_ne, List.pairwise_map, List.pairwise_filter] at single
  exact single

theorem isOwn_eq_of_name {function other : Tree.Function} (same : function.name = other.name) :
    function.isOwn = other.isOwn := by
  rw [Tree.Function.isOwn, Tree.Function.isOwn, same]

theorem Single.told (single : Single tree) : tree.Told :=
  single.pairwise.imp fun apart own same =>
    absurd same (apart (isOwn_eq_of_name same ▸ own) own)

/-- No definition finds its name taken. -/
theorem Single.fresh (single : Single tree) {before after : List Tree.Function} {function : Tree.Function}
    (split : tree.functions = before ++ function :: after) (own : function.isOwn = true) :
    ∀ other ∈ before, other.name ≠ function.name := by
  have apart := single.pairwise
  rw [split, List.pairwise_append] at apart
  intro other member same
  exact apart.2.2 other member function (List.mem_cons_self ..) (isOwn_eq_of_name same ▸ own) own same

theorem Single.firsts (single : Single tree) : tree.firsts = tree.functions.filter Tree.Function.isOwn := by
  have each : ∀ place ∈ withEarlier [] tree.functions, Tree.isFirst place.1 place.2 = place.2.isOwn := by
    rintro ⟨earlier, function⟩ member
    obtain ⟨before, after, split, rfl⟩ := mem_withEarlier.mp member
    rw [Tree.isFirst]
    cases own : function.isOwn with
    | false => rfl
    | true => simpa using single.fresh split own
  conv_rhs => rw [← map_snd_withEarlier [] tree.functions, List.filter_map]
  rw [Tree.File.firsts, List.filter_congr each]
  rfl

/-- What is wrong with the header of a definition whose name is not taken by another. -/
def headerFaults (function : Tree.Function) : List (Fault TypeCause) :=
  (declaredType function).faults ++ nameFaults [] function

theorem Single.headers (single : Single tree) :
    ((withEarlier [] tree.functions).flatMap fun place => (declaredType place.2).faults ++ nameFaults place.1 place.2) =
      tree.functions.flatMap headerFaults := by
  conv_rhs => rw [← map_snd_withEarlier [] tree.functions, List.flatMap_map]
  refine List.flatMap_congr fun place member => ?_
  obtain ⟨before, after, split, same⟩ := mem_withEarlier.mp member
  rw [headerFaults, nameFaults, nameFaults]
  cases own : place.2.isOwn with
  | false => rfl
  | true =>
      have free : (place.1.find? fun other => other.name = place.2.name) = none := by
        rw [same]
        exact List.find?_eq_none.mpr fun other member => by simpa using single.fresh split own other member
      rw [free]
      rfl

theorem Single.lookup_iff (single : Single tree) {name : String} {signature : Signature} :
    tree.signatures.lookup name = some signature ↔
      ∃ function ∈ tree.functions, gives name function = true ∧ signatureOf function = signature := by
  rw [Tree.File.signatures, lookup_declared, Option.map_eq_some_iff]
  constructor
  · rintro ⟨function, found, same⟩
    exact ⟨function, List.mem_of_find?_eq_some found, List.find?_some found, same⟩
  · rintro ⟨function, member, given, same⟩
    refine ⟨function, ?_, same⟩
    obtain ⟨first, found⟩ := Option.isSome_iff_exists.mp (List.find?_isSome.mpr ⟨function, member, given⟩)
    rw [found]
    have own {function : Tree.Function} (given : gives name function = true) :
        function.name = name ∧ function.isOwn = true := by
      rw [gives_eq, Bool.and_eq_true, decide_eq_true_iff] at given
      exact given
    obtain ⟨namedFirst, ownFirst⟩ := own (List.find?_some found)
    obtain ⟨named, isOwn⟩ := own given
    refine congrArg some (List.inj_on_of_nodup_map single ?_ ?_ (namedFirst.trans named.symm))
    · exact List.mem_filter.mpr ⟨List.mem_of_find?_eq_some found, ownFirst⟩
    · exact List.mem_filter.mpr ⟨member, isOwn⟩

theorem Single.agree (single : Single tree) (perm : tree.functions.Perm other.functions) :
    tree.signatures.Agree other.signatures := by
  refine fun name => Option.ext fun signature => ?_
  rw [single.lookup_iff, (single.perm perm).lookup_iff]
  simp only [perm.mem_iff]

end Program

/-- The order of definitions does not matter where the names that are their own are defined once: in every order each of
them becomes the same function, in its place, and the diagnostics are the same in some order. -/
theorem check_perm (file : FileId) {tree other : Tree.File}
    (distinct : ((tree.functions.filter Tree.Function.isOwn).map Tree.Function.name).Nodup)
    (perm : tree.functions.Perm other.functions) :
    ∃ become : Tree.Function → Program.Function, (∀ function, (become function).name = function.name) ∧
      (check file tree).value.functions = (tree.functions.filter Tree.Function.isOwn).map become ∧
      (check file other).value.functions = (other.functions.filter Tree.Function.isOwn).map become ∧
      ((check file tree).faults.map Fault.diagnostic).Perm ((check file other).faults.map Fault.diagnostic) := by
  have single : Program.Single tree := distinct
  have singleOther := single.perm perm
  have agree := single.agree perm
  have same (function : Tree.Function) : other.checkedBody function = tree.checkedBody function :=
    (Program.checkBody_congr agree _ function).symm
  refine ⟨fun function => (tree.checkedBody function).value, fun _ => rfl, ?_, ?_, ?_⟩
  · rw [Program.check_functions file single.told, single.firsts]
  · rw [Program.check_functions file singleOther.told, singleOther.firsts]
    exact List.map_congr_left fun function _ => congrArg Program.Checked.value (same function)
  · rw [Program.check_faults file single.told, Program.check_faults file singleOther.told, single.headers,
      singleOther.headers, single.firsts, singleOther.firsts, Program.mainFaults_congr agree]
    simp only [same]
    exact (((perm.flatMap_right _).append_right _).append ((perm.filter _).flatMap_right _)).map _

theorem check_perm_call :
    let place : Span := ⟨⟨0⟩, 0, 1⟩
    let main : Tree.Function := ⟨"main", place, none, [.expression (.call "f" [] place)]⟩
    let called : Tree.Function := ⟨"f", place, none, [.expression (.variable "x" place)]⟩
    let printing : Tree.Function := ⟨"println", place, none, []⟩
    let first := check ⟨0⟩ ⟨[main, printing, called, printing]⟩
    let second := check ⟨0⟩ ⟨[called, printing, main, printing]⟩
    first.value.functions.map Program.Function.name = ["main", "f"] ∧ first.faults.length = 3 ∧
      (first.faults.map Fault.diagnostic).Perm (second.faults.map Fault.diagnostic) := by
  intro place main called printing first second
  have perm : [main, printing, called, printing].Perm [called, printing, main, printing] :=
    @List.perm_append_comm _ [main, printing] [called, printing]
  obtain ⟨_, _, _, _, diagnostics⟩ := @check_perm ⟨0⟩ ⟨_⟩ ⟨_⟩ (by decide) perm
  exact ⟨rfl, rfl, diagnostics⟩

end StageZero
