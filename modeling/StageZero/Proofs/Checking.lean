import Mathlib.Data.List.Nodup
import StageZero.Program.Check
import StageZero.Proofs.Typing

/-! Checking against the type system. What is checked without faults is well typed and becomes the
program of its derivation, and what is well typed is checked without faults. -/
namespace StageZero.Program
open Typing (Prints Written)

theorem ofCallee?_iff {callee : String} {target : Target} :
    Target.ofCallee? callee = some target ↔ Prints callee target := by
  constructor
  · intro found
    unfold Target.ofCallee? at found
    split at found
    · cases found
      exact .println
    · cases found
      exact .eprintln
    · exact absurd found nofun
  · rintro (_ | _) <;> rfl

theorem ofCallee?_eq_none_iff {callee : String} :
    Target.ofCallee? callee = none ↔ ∀ target, ¬ Prints callee target := by
  rw [Option.eq_none_iff_forall_ne_some]
  exact forall_congr' fun target => not_congr ofCallee?_iff

/-! ### Expressions -/

/-- Calls find the functions that are declared. -/
def Signatures.Find (signatures : Signatures) (functions : String → Ty → Prop) : Prop :=
  ∀ name type, functions name type ↔
    ∃ signature, signatures.lookup name = some signature ∧ signature.returnType = type

/-- What the checker knows of functions and variables is what is declared and in scope. -/
structure Agreement (signatures : Signatures) (scope : Scope) (functions : String → Ty → Prop)
    (context : Typing.Context) : Prop where
  calls : signatures.Find functions
  bound : ∀ name type, (name, type) ∈ context ↔
    ∃ binding, scope.lookup name = some binding ∧ binding.type = type

variable {signatures : Signatures} {scope : Scope} {functions : String → Ty → Prop} {context : Typing.Context}

theorem checkArguments_eq (signatures : Signatures) (scope : Scope) (trees : List Tree.Expression) :
    checkArguments signatures scope trees =
      trees.map fun tree => ⟨tree.span, checkExpression signatures scope tree⟩ := by
  induction trees with
  | nil => rw [checkArguments, List.map_nil]
  | cons tree trees ih => rw [checkArguments, List.map_cons, ih]

theorem checkCall_clean {callee : String} {arguments : List Argument} {span : Span}
    (clean : (checkCall signatures callee arguments span).faults = []) :
    arguments = [] ∧ ∃ signature, signatures.lookup callee = some signature ∧
      (checkCall signatures callee arguments span).value = .call callee signature.returnType := by
  unfold checkCall at clean ⊢
  cases found : signatures.lookup callee with
  | none =>
      rw [found] at clean
      exact absurd (List.append_eq_nil_iff.mp clean).2 (List.cons_ne_nil _ _)
  | some signature =>
      rw [found] at clean
      refine ⟨?_, signature, rfl, rfl⟩
      by_contra some
      have given := (List.append_eq_nil_iff.mp clean).2
      rw [if_neg (mt List.length_eq_zero_iff.mp some)] at given
      exact absurd given (List.cons_ne_nil _ _)

theorem checkPrint_clean {target : Target} {format : Tree.Expression} {arguments : List Argument}
    (clean : (checkPrint target format arguments).faults = []) :
    ∃ text span, format = .quotation text span ∧ arguments.length = placeholders text.toList ∧
      arguments.flatMap Argument.printFaults = [] := by
  unfold checkPrint at clean
  split at clean
  case h_1 text span =>
    dsimp only at clean
    rw [length_pieces, Nat.add_sub_cancel] at clean
    split at clean
    case isTrue arity => exact ⟨text, span, rfl, arity.symm, clean⟩
    case isFalse => exact absurd (List.append_eq_nil_iff.mp clean).2 (List.cons_ne_nil _ _)
  case h_2 => exact absurd (List.append_eq_nil_iff.mp clean).2 (List.cons_ne_nil _ _)

theorem checkPrint_eq {target : Target} {text : String} {span : Span} {arguments : List Argument}
    (arity : arguments.length = placeholders text.toList) :
    checkPrint target (.quotation text span) arguments =
      ⟨.print target (pieces text) (arguments.map fun argument => argument.checked.value),
        arguments.flatMap Argument.printFaults⟩ := by
  unfold checkPrint
  dsimp only
  rw [length_pieces, Nat.add_sub_cancel, if_pos arity.symm]

theorem printed_of_clean {trees : List Tree.Expression}
    (each : ∀ tree ∈ trees, (checkExpression signatures scope tree).faults = [] →
      let value := (checkExpression signatures scope tree).value
      Typing.Expression functions context tree value.type value)
    (clean : (checkArguments signatures scope trees).flatMap Argument.printFaults = []) :
    Typing.Printed functions context trees
      ((checkArguments signatures scope trees).map fun argument => argument.checked.value) := by
  induction trees with
  | nil =>
      rw [checkArguments]
      exact .nil
  | cons tree trees ih =>
      rw [checkArguments] at clean ⊢
      obtain ⟨first, later⟩ := List.append_eq_nil_iff.mp (List.flatMap_cons .. ▸ clean)
      obtain ⟨cleanFirst, printable⟩ := List.append_eq_nil_iff.mp first
      have typed := each tree (List.mem_cons_self ..) cleanFirst
      refine .cons typed ?_ (ih (fun tree member => each tree (List.mem_cons_of_mem _ member)) later)
      intro void
      rw [if_pos void] at printable
      exact absurd printable (List.cons_ne_nil _ _)

theorem expression_of_clean (agreement : Agreement signatures scope functions context)
    {tree : Tree.Expression} (whole : tree.Whole)
    (clean : (checkExpression signatures scope tree).faults = []) :
    let value := (checkExpression signatures scope tree).value
    Typing.Expression functions context tree value.type value := by
  induction whole with
  | number =>
      rw [checkExpression]
      exact .number
  | quotation =>
      rw [checkExpression]
      exact .quotation
  | @«variable» name span =>
      rw [checkExpression] at clean ⊢
      cases found : scope.lookup name with
      | none =>
          rw [found] at clean
          exact absurd clean (List.cons_ne_nil _ _)
      | some binding => exact .variable ((agreement.bound _ _).mpr ⟨binding, found, rfl⟩)
  | @call callee items span _ ih =>
      rw [checkExpression] at clean ⊢
      dsimp only at clean ⊢
      cases printing : Target.ofCallee? callee with
      | none =>
          rw [printing] at clean
          obtain ⟨nothing, signature, found, value⟩ := checkCall_clean clean
          dsimp only
          rw [value]
          rw [checkArguments_eq, List.map_eq_nil_iff] at nothing
          rw [nothing]
          exact .call (ofCallee?_eq_none_iff.mp printing) ((agreement.calls _ _).mpr ⟨signature, found, rfl⟩)
      | some target =>
          rw [printing] at clean
          cases items with
          | nil => exact absurd clean (List.cons_ne_nil _ _)
          | cons format items =>
              rw [checkArguments, List.tail_cons] at clean ⊢
              obtain ⟨text, textSpan, rfl, arity, cleanItems⟩ := checkPrint_clean clean
              dsimp only
              rw [checkPrint_eq arity]
              rw [checkArguments_eq, List.length_map] at arity
              have each := fun tree member => ih tree (List.mem_cons_of_mem _ member)
              have printed := printed_of_clean each cleanItems
              exact .print (ofCallee?_iff.mp printing) printed arity (splits_pieces text)

theorem expression_of_typed (agreement : Agreement signatures scope functions context)
    {tree : Tree.Expression} {type : Ty} {value : Expression}
    (typed : Typing.Expression functions context tree type value) :
    checkExpression signatures scope tree = ⟨value, []⟩ := by
  refine @Typing.Expression.rec functions context
    (fun tree type value _ => checkExpression signatures scope tree = ⟨value, []⟩)
    (fun trees values _ =>
      (checkArguments signatures scope trees).flatMap Argument.printFaults = [] ∧
        (checkArguments signatures scope trees).map (fun argument => argument.checked.value) = values)
    ?number ?quotation ?name ?call ?print ?nil ?cons _ _ _ typed
  case number | quotation =>
    intros
    rw [checkExpression]
  case name =>
    intro name type span member
    obtain ⟨binding, found, rfl⟩ := (agreement.bound name type).mp member
    rw [checkExpression, found]
  case call =>
    intro callee type span other declared
    obtain ⟨signature, found, rfl⟩ := (agreement.calls callee type).mp declared
    rw [checkExpression, ofCallee?_eq_none_iff.mpr other, checkArguments]
    dsimp only [checkCall]
    rw [found]
    rfl
  case print =>
    intro callee target text textSpan items span pieces arguments prints _ arity splits ih
    rw [checkExpression, ofCallee?_iff.mpr prints, checkArguments]
    dsimp only [List.tail_cons]
    rw [checkPrint_eq, ih.1, ih.2, splits.pieces_eq]
    rw [checkArguments_eq, List.length_map, arity]
  case nil => exact ⟨by rw [checkArguments]; rfl, by rw [checkArguments]; rfl⟩
  case cons =>
    intro item type argument items arguments typed printable _ ih ihLater
    rw [checkArguments, List.flatMap_cons, List.map_cons, ihLater.1, ihLater.2]
    dsimp only [Argument.printFaults]
    rw [ih, if_neg (typed.type_eq ▸ printable)]
    exact ⟨rfl, rfl⟩

/-! ### Statements -/

/-- No declared function has the unknown type, and no variable in scope. -/
structure Known (functions : String → Ty → Prop) (context : Typing.Context) : Prop where
  calls : ∀ name type, functions name type → type ≠ .unknown
  bound : ∀ name type, (name, type) ∈ context → type ≠ .unknown

theorem Known.nil (calls : ∀ name type, functions name type → type ≠ .unknown) : Known functions [] where
  calls := calls
  bound _ _ member := absurd member List.not_mem_nil

theorem Known.expression {tree : Tree.Expression} {type : Ty} {value : Expression}
    (known : Known functions context) (typed : Typing.Expression functions context tree type value) :
    type ≠ .unknown := by
  cases typed with
  | number | quotation | print => exact nofun
  | «variable» member => exact known.bound _ _ member
  | call _ declared => exact known.calls _ _ declared

theorem Known.cons {name : String} {type : Ty} (known : Known functions context)
    (type_known : type ≠ .unknown) : Known functions ((name, type) :: context) where
  calls := known.calls
  bound other found member := by
    rcases List.mem_cons.mp member with same | before
    · cases same
      exact type_known
    · exact known.bound other found before

theorem agrees_iff {type other : Ty} (known : type ≠ .unknown) (otherKnown : other ≠ .unknown) :
    type.agrees other = true ↔ type = other := by
  cases type <;> cases other <;> simp_all [Ty.agrees]

theorem void_agrees_iff {type : Ty} (known : type ≠ .unknown) : Ty.void.agrees type = true ↔ type = .void :=
  (agrees_iff (by decide) known).trans eq_comm

/-- A binding with a new name is in scope behind its statement. -/
theorem Agreement.cons {name : String} {type : Ty} {span : Span}
    (agreement : Agreement signatures scope functions context) (fresh : ∀ bound, (name, bound) ∉ context) :
    Agreement signatures (⟨name, type, span⟩ :: scope) functions ((name, type) :: context) where
  calls := agreement.calls
  bound other found := by
    by_cases same : name = other
    · subst same
      constructor
      · intro member
        rcases List.mem_cons.mp member with here | before
        · cases here
          exact ⟨⟨name, type, span⟩, List.find?_cons_of_pos (by simp), rfl⟩
        · exact absurd before (fresh found)
      · rintro ⟨binding, lookup, rfl⟩
        rw [Scope.lookup, List.find?_cons_of_pos (by simp)] at lookup
        cases lookup
        exact List.mem_cons_self ..
    · rw [Scope.lookup, List.find?_cons_of_neg (by simpa using same)]
      refine Iff.trans ?_ (agreement.bound other found)
      rw [List.mem_cons, or_iff_right]
      rintro here
      cases here
      exact same rfl

theorem lookup_eq_none_iff (agreement : Agreement signatures scope functions context) {name : String} :
    scope.lookup name = none ↔ ∀ type, (name, type) ∉ context := by
  constructor
  · intro missing type member
    obtain ⟨binding, found, -⟩ := (agreement.bound name type).mp member
    exact absurd (missing.symm.trans found) nofun
  · intro fresh
    rw [Option.eq_none_iff_forall_ne_some]
    intro binding found
    exact fresh binding.type ((agreement.bound name _).mpr ⟨binding, found, rfl⟩)

variable {returnType : Ty}

theorem statement_of_clean (agreement : Agreement signatures scope functions context)
    (known : Known functions context) (returnKnown : returnType ≠ .unknown) {tree : Tree.Statement}
    (whole : tree.Whole) (clean : (checkStatement signatures returnType scope tree).faults = []) :
    ∃ next, Typing.Statement functions returnType context tree next
        (checkStatement signatures returnType scope tree).statement ∧
      Agreement signatures (checkStatement signatures returnType scope tree).scope functions next ∧
      Known functions next := by
  cases whole with
  | @«let» name nameSpan initial whole =>
      dsimp only [checkStatement] at clean
      obtain ⟨first, again⟩ := List.append_eq_nil_iff.mp clean
      obtain ⟨cleanValue, void⟩ := List.append_eq_nil_iff.mp first
      have typed := expression_of_clean agreement whole cleanValue
      have typeKnown := known.expression typed
      have fresh : scope.lookup name = none := by
        cases found : scope.lookup name with
        | none => rfl
        | some previous =>
            rw [found] at again
            exact absurd again (List.cons_ne_nil _ _)
      have new := (lookup_eq_none_iff agreement).mp fresh
      have some : (checkExpression signatures scope initial).value.type ≠ .void := by
        intro same
        rw [if_pos same] at void
        exact absurd void (List.cons_ne_nil _ _)
      refine ⟨_, .let typed ?_ new, agreement.cons new, known.cons typeKnown⟩
      cases type : (checkExpression signatures scope initial).value.type with
      | void => exact absurd type some
      | i64 => exact .inl rfl
      | string => exact .inr rfl
      | unknown => exact absurd type typeKnown
  | returnNothing =>
      dsimp only [checkStatement] at clean
      split at clean
      case isTrue agree =>
        exact ⟨_, .returnNothing ((void_agrees_iff returnKnown).mp agree), agreement, known⟩
      case isFalse => exact absurd clean (List.cons_ne_nil _ _)
  | @«return» value span whole =>
      dsimp only [checkStatement] at clean
      obtain ⟨cleanValue, mismatch⟩ := List.append_eq_nil_iff.mp clean
      have typed := expression_of_clean agreement whole cleanValue
      split at mismatch
      case isTrue agree =>
        have same := (agrees_iff (known.expression typed) returnKnown).mp agree
        exact ⟨_, .return (same ▸ typed), agreement, known⟩
      case isFalse => exact absurd mismatch (List.cons_ne_nil _ _)
  | expression whole =>
      exact ⟨_, .expression (expression_of_clean agreement whole clean), agreement, known⟩

theorem statement_of_typed (agreement : Agreement signatures scope functions context)
    {tree : Tree.Statement} {next : Typing.Context} {statement : Statement}
    (typed : Typing.Statement functions returnType context tree next statement) :
    ∃ after, checkStatement signatures returnType scope tree = ⟨statement, after, []⟩ ∧
      Agreement signatures after functions next := by
  cases typed with
  | @«let» name nameSpan initial type value typed bindable fresh =>
      have checked := expression_of_typed agreement typed
      have missing := (lookup_eq_none_iff agreement).mpr fresh
      refine ⟨⟨name, type, nameSpan⟩ :: scope, ?_, agreement.cons fresh⟩
      dsimp only [checkStatement]
      rw [checked, missing]
      dsimp only
      rw [typed.type_eq, if_neg]
      · rfl
      · rcases bindable with rfl | rfl <;> exact nofun
  | returnNothing same =>
      refine ⟨scope, ?_, agreement⟩
      subst same
      rfl
  | @«return» tree span value typed =>
      refine ⟨scope, ?_, agreement⟩
      dsimp only [checkStatement]
      rw [expression_of_typed agreement typed]
      dsimp only
      rw [typed.type_eq, if_pos]
      · rfl
      · exact Bool.or_eq_true_iff.mpr (.inl (Bool.or_eq_true_iff.mpr (.inl (beq_self_eq_true returnType))))
  | expression typed =>
      refine ⟨scope, ?_, agreement⟩
      dsimp only [checkStatement]
      rw [expression_of_typed agreement typed]

-- The scope and the context grow together, so the induction is for all of them.
theorem statements_of_clean (agreement : Agreement signatures scope functions context)
    (known : Known functions context) (returnKnown : returnType ≠ .unknown) {trees : List Tree.Statement}
    (whole : ∀ tree ∈ trees, tree.Whole)
    (clean : (checkStatements signatures returnType scope trees).faults = []) :
    Typing.Statements functions returnType context trees
      (checkStatements signatures returnType scope trees).value := by
  induction trees generalizing scope context with
  | nil => exact .nil
  | cons tree trees ih =>
      obtain ⟨cleanFirst, cleanLater⟩ := List.append_eq_nil_iff.mp clean
      obtain ⟨next, typed, agree, known⟩ :=
        statement_of_clean agreement known returnKnown (whole tree (List.mem_cons_self ..)) cleanFirst
      have wholeLater := fun tree member => whole tree (List.mem_cons_of_mem _ member)
      exact .cons typed (ih agree known wholeLater cleanLater)

theorem statements_of_typed (agreement : Agreement signatures scope functions context)
    {trees : List Tree.Statement} {statements : List Statement}
    (typed : Typing.Statements functions returnType context trees statements) :
    checkStatements signatures returnType scope trees = ⟨statements, []⟩ := by
  induction typed generalizing scope with
  | nil => rfl
  | cons first _ ih =>
      obtain ⟨after, checked, agree⟩ := statement_of_typed agreement first
      dsimp only [checkStatements]
      rw [checked]
      dsimp only
      rw [ih agree]
      rfl

/-! ### Functions -/

theorem any_isReturn_iff {body : List Tree.Statement} :
    body.any isReturn = true ↔ ∃ value span, .return value span ∈ body := by
  rw [List.any_eq_true]
  constructor
  · rintro ⟨statement, member, returns⟩
    cases statement with
    | «return» value span => exact ⟨value, span, member⟩
    | «let» | expression => exact absurd returns nofun
  · rintro ⟨value, span, member⟩
    exact ⟨_, member, rfl⟩

theorem agreement_nil (calls : signatures.Find functions) :
    Agreement signatures [] functions [] where
  calls := calls
  bound name type := by
    constructor
    · exact fun member => absurd member List.not_mem_nil
    · rintro ⟨binding, found, -⟩
      exact absurd found nofun

theorem function_of_clean (calls : signatures.Find functions)
    (known : ∀ name type, functions name type → type ≠ .unknown) {function : Tree.Function}
    (written : Written function.returnType returnType) (whole : ∀ statement ∈ function.body, statement.Whole)
    (clean : (checkBody signatures returnType function).faults = []) :
    Typing.Function functions function (checkBody signatures returnType function).value := by
  obtain ⟨cleanBody, missing⟩ := List.append_eq_nil_iff.mp clean
  have typed := statements_of_clean (agreement_nil calls) (.nil known) written.known whole cleanBody
  refine .function written typed ?_
  split at missing
  case isTrue returns =>
    rcases Bool.or_eq_true_iff.mp returns with void | some
    · exact .inl ((void_agrees_iff written.known).mp void)
    · exact .inr (any_isReturn_iff.mp some)
  case isFalse => exact absurd missing (List.cons_ne_nil _ _)

theorem function_of_typed (calls : signatures.Find functions)
    {function : Tree.Function} {checked : Function} (typed : Typing.Function functions function checked) :
    checkBody signatures checked.returnType function = ⟨checked, []⟩ := by
  cases typed with
  | @function type body written statements returns =>
      dsimp only [checkBody]
      rw [statements_of_typed (agreement_nil calls) statements, if_pos]
      · rfl
      · rw [Bool.or_eq_true_iff, any_isReturn_iff]
        refine returns.imp_left ?_
        rintro rfl
        rfl

/-! ### Declarations -/

theorem declaredType_iff {function : Tree.Function} {type : Ty} :
    declaredType function = ⟨type, []⟩ ↔ Written function.returnType type := by
  obtain ⟨name, nameSpan, written, body⟩ := function
  dsimp only [declaredType]
  constructor
  · intro declared
    cases written with
    | none =>
        cases declared
        exact .nothing
    | some written =>
        obtain ⟨spelling, span⟩ := written
        dsimp only [Ty.ofName?] at declared
        split at declared
        case h_1 found =>
          split at found
          case h_4 => exact absurd found nofun
          all_goals
            cases found
            cases declared
            first | exact .void | exact .i64 | exact .string
        case h_2 => exact absurd (congrArg Checked.faults declared) (List.cons_ne_nil _ _)
  · rintro (_ | _ | _ | _) <;> rfl

theorem written_unique {function : Tree.Function} {type other : Ty}
    (derived : Written function.returnType type) (again : Written function.returnType other) :
    type = other := by
  have both := (declaredType_iff.mpr derived).symm.trans (declaredType_iff.mpr again)
  exact congrArg Checked.value both

/-- A signature tells of a definition what calls need of it. -/
structure Signed (function : Tree.Function) (signature : Signature) : Prop where
  name : signature.name = function.name
  type : Written function.returnType signature.returnType
  span : signature.span = function.nameSpan

theorem declare_clean {known : Signatures} {function : Tree.Function}
    (clean : (declare known function).faults = []) :
    ∃ signature, Signed function signature ∧ (declare known function).value = known ++ [signature] ∧
      (∀ target, ¬ Prints function.name target) ∧ known.lookup function.name = none := by
  dsimp only [declare] at clean ⊢
  split at clean
  case h_1 => exact absurd (List.append_eq_nil_iff.mp clean).2 (List.cons_ne_nil _ _)
  case h_2 other =>
    split at clean
    case h_1 => exact absurd (List.append_eq_nil_iff.mp clean).2 (List.cons_ne_nil _ _)
    case h_2 fresh =>
      have written : Written function.returnType (declaredType function).value :=
        declaredType_iff.mp (by rw [← clean])
      exact ⟨⟨_, _, _⟩, ⟨rfl, written, rfl⟩, rfl, ofCallee?_eq_none_iff.mp other, fresh⟩

theorem declare_signed {known : Signatures} {function : Tree.Function} {signature : Signature}
    (signed : Signed function signature) (own : ∀ target, ¬ Prints function.name target)
    (fresh : known.lookup function.name = none) : declare known function = ⟨known ++ [signature], []⟩ := by
  obtain ⟨name, type, span⟩ := signature
  obtain ⟨rfl, written, rfl⟩ := signed
  dsimp only [declare]
  rw [ofCallee?_eq_none_iff.mpr own, fresh, declaredType_iff.mpr written]

theorem Signatures.lookup_eq_none_iff {known : Signatures} {name : String} :
    known.lookup name = none ↔ name ∉ known.map Signature.name := by
  simp [lookup]

theorem Signatures.name_of_lookup {known : Signatures} {name : String} {signature : Signature}
    (found : known.lookup name = some signature) : signature.name = name := by
  have named := List.find?_some found
  exact of_decide_eq_true named

theorem Signatures.lookup_eq_some_iff {known : Signatures} (distinct : (known.map Signature.name).Nodup)
    {name : String} {signature : Signature} :
    known.lookup name = some signature ↔ signature ∈ known ∧ signature.name = name := by
  constructor
  · intro found
    exact ⟨List.mem_of_find?_eq_some found, name_of_lookup found⟩
  · rintro ⟨member, rfl⟩
    obtain ⟨found, lookup⟩ : ∃ found, known.lookup signature.name = some found := by
      rw [← Option.ne_none_iff_exists', Ne, lookup_eq_none_iff, not_not]
      exact List.mem_map_of_mem member
    have there := List.mem_of_find?_eq_some lookup
    rw [lookup, List.inj_on_of_nodup_map distinct there member (name_of_lookup lookup)]

theorem declareAll_clean {trees : List Tree.Function} {known : Signatures}
    (distinct : (known.map Signature.name).Nodup) (clean : (declareAll known trees).faults = []) :
    ∃ signatures, List.Forall₂ Signed trees signatures ∧
      (declareAll known trees).value = known ++ signatures ∧
      ((known ++ signatures).map Signature.name).Nodup ∧
      ∀ function ∈ trees, ∀ target, ¬ Prints function.name target := by
  induction trees generalizing known with
  | nil =>
      refine ⟨[], .nil, (List.append_nil _).symm, ?_, nofun⟩
      rw [List.append_nil]
      exact distinct
  | cons function trees ih =>
      obtain ⟨cleanFirst, cleanLater⟩ := List.append_eq_nil_iff.mp clean
      obtain ⟨signature, signed, value, own, fresh⟩ := declare_clean cleanFirst
      rw [value] at cleanLater
      have distinctNext : ((known ++ [signature]).map Signature.name).Nodup := by
        rw [Signatures.lookup_eq_none_iff, ← signed.name] at fresh
        rw [List.map_append, List.map_singleton, List.nodup_middle, List.append_nil]
        exact List.nodup_cons.mpr ⟨fresh, distinct⟩
      obtain ⟨signatures, all, whole, distinctAll, ownLater⟩ := ih distinctNext cleanLater
      refine ⟨signature :: signatures, .cons signed all, ?_, ?_, ?_⟩
      · dsimp only [declareAll]
        rw [value, whole, List.append_assoc, List.singleton_append]
      · rw [List.append_assoc, List.singleton_append] at distinctAll
        exact distinctAll
      · exact List.forall_mem_cons.mpr ⟨own, ownLater⟩

theorem declareAll_signed {trees : List Tree.Function} {known signatures : Signatures}
    (signed : List.Forall₂ Signed trees signatures)
    (distinct : ((known ++ signatures).map Signature.name).Nodup)
    (own : ∀ function ∈ trees, ∀ target, ¬ Prints function.name target) :
    declareAll known trees = ⟨known ++ signatures, []⟩ := by
  induction signed generalizing known with
  | nil => rw [declareAll, List.append_nil]
  | @cons function signature trees signatures first _ ih =>
      obtain ⟨ownFirst, ownLater⟩ := List.forall_mem_cons.mp own
      have fresh : known.lookup function.name = none := by
        rw [Signatures.lookup_eq_none_iff, ← first.name]
        rw [List.map_append, List.map_cons, List.nodup_middle, List.nodup_cons, List.mem_append] at distinct
        exact fun member => distinct.1 (.inl member)
      dsimp only [declareAll]
      rw [declare_signed first ownFirst fresh]
      dsimp only
      rw [ih _ ownLater, List.append_assoc, List.singleton_append]
      · rfl
      · rw [List.append_assoc, List.singleton_append]
        exact distinct

theorem map_related {α β γ : Type} {R : α → β → Prop} {f : α → γ} {g : β → γ} {as : List α} {bs : List β}
    (related : List.Forall₂ R as bs) (same : ∀ a b, R a b → g b = f a) : bs.map g = as.map f := by
  induction related with
  | nil => rfl
  | cons first _ ih => rw [List.map_cons, List.map_cons, same _ _ first, ih]

theorem Signed.names {trees : List Tree.Function} {signatures : Signatures}
    (signed : List.Forall₂ Signed trees signatures) :
    signatures.map Signature.name = trees.map Tree.Function.name :=
  map_related signed fun _ _ first => first.name

theorem exists_right {α β : Type} {R : α → β → Prop} {as : List α} {bs : List β}
    (related : List.Forall₂ R as bs) {a : α} (member : a ∈ as) : ∃ b ∈ bs, R a b := by
  induction related with
  | nil => exact absurd member List.not_mem_nil
  | cons first _ ih =>
      rcases List.mem_cons.mp member with rfl | later
      · exact ⟨_, List.mem_cons_self .., first⟩
      · obtain ⟨b, there, holds⟩ := ih later
        exact ⟨b, List.mem_cons_of_mem _ there, holds⟩

theorem exists_related {α β : Type} {R : α → β → Prop} {as : List α} (each : ∀ a ∈ as, ∃ b, R a b) :
    ∃ bs, List.Forall₂ R as bs := by
  induction as with
  | nil => exact ⟨[], .nil⟩
  | cons a as ih =>
      obtain ⟨b, first⟩ := each a (List.mem_cons_self ..)
      obtain ⟨bs, later⟩ := ih fun a member => each a (List.mem_cons_of_mem _ member)
      exact ⟨b :: bs, .cons first later⟩

theorem find_declared {tree : Tree.File} {signatures : Signatures}
    (signed : List.Forall₂ Signed tree.functions signatures)
    (distinct : (tree.functions.map Tree.Function.name).Nodup) : signatures.Find (Typing.Declares tree) := by
  intro name type
  rw [← Signed.names signed] at distinct
  constructor
  · rintro ⟨function, member, rfl, written⟩
    obtain ⟨signature, there, signs⟩ := exists_right signed member
    have found := (Signatures.lookup_eq_some_iff distinct).mpr ⟨there, signs.name⟩
    exact ⟨signature, found, written_unique signs.type written⟩
  · rintro ⟨signature, found, rfl⟩
    obtain ⟨there, rfl⟩ := (Signatures.lookup_eq_some_iff distinct).mp found
    obtain ⟨function, member, signs⟩ := exists_right signed.flip there
    exact ⟨function, member, signs.name.symm, signs.type⟩

theorem checkFunction?_signed {function : Tree.Function} {signature : Signature}
    (distinct : (signatures.map Signature.name).Nodup) (there : signature ∈ signatures)
    (signed : Signed function signature) :
    checkFunction? signatures function = some (checkBody signatures signature.returnType function) := by
  have found := (Signatures.lookup_eq_some_iff distinct).mpr ⟨there, signed.name⟩
  rw [checkFunction?, found]
  exact if_pos signed.span

theorem mainFaults_eq_nil_iff {file : FileId}
    (known : ∀ name signature, signatures.lookup name = some signature → signature.returnType ≠ .unknown) :
    mainFaults file signatures = [] ↔
      ∃ signature, signatures.lookup "main" = some signature ∧
        (signature.returnType = .void ∨ signature.returnType = .i64) := by
  unfold mainFaults
  cases found : signatures.lookup "main" with
  | none =>
      constructor
      · exact fun clean => absurd clean (List.cons_ne_nil _ _)
      · rintro ⟨_, missing, _⟩
        exact absurd missing nofun
  | some main =>
      have typeKnown := known "main" main found
      constructor
      · intro clean
        refine ⟨main, rfl, ?_⟩
        cases type : main.returnType with
        | void => exact .inl rfl
        | i64 => exact .inr rfl
        | string => exact absurd ((if_pos type).symm.trans clean) (List.cons_ne_nil _ _)
        | unknown => exact absurd type typeKnown
      · rintro ⟨_, ⟨rfl⟩, void | i64⟩
        · exact if_neg (void ▸ nofun)
        · exact if_neg (i64 ▸ nofun)

theorem filterMap_related {α β : Type} {f : α → Option β} {R : α → β → Prop} {as : List α}
    (each : ∀ a ∈ as, ∃ b, f a = some b ∧ R a b) : List.Forall₂ R as (as.filterMap f) := by
  induction as with
  | nil => exact .nil
  | cons a as ih =>
      obtain ⟨b, found, holds⟩ := each a (List.mem_cons_self ..)
      rw [List.filterMap_cons_some found]
      exact .cons holds (ih fun a member => each a (List.mem_cons_of_mem _ member))

theorem filterMap_eq {α β : Type} {f : α → Option β} {as : List α} {bs : List β}
    (found : List.Forall₂ (fun a b => f a = some b) as bs) : as.filterMap f = bs := by
  induction found with
  | nil => rfl
  | cons first _ ih => rw [List.filterMap_cons_some first, ih]

/-! ### Files -/

theorem file_of_clean {file : FileId} {tree : Tree.File} (whole : tree.Whole)
    (clean : (check file tree).faults = []) : Typing.File tree (check file tree).value := by
  obtain ⟨cleanHead, cleanBodies⟩ := List.append_eq_nil_iff.mp clean
  obtain ⟨cleanDeclared, cleanMain⟩ := List.append_eq_nil_iff.mp cleanHead
  have nothing : (([] : Signatures).map Signature.name).Nodup := List.nodup_nil
  obtain ⟨signatures, signed, value, distinct, own⟩ := declareAll_clean nothing cleanDeclared
  rw [List.nil_append] at value distinct
  rw [value] at cleanBodies cleanMain
  have calls := find_declared signed (Signed.names signed ▸ distinct)
  have known : ∀ name type, Typing.Declares tree name type → type ≠ .unknown :=
    fun _ _ ⟨_, _, _, written⟩ => written.known
  refine ⟨Signed.names signed ▸ distinct, own, ?_, ?_⟩
  · have mainKnown := fun name signature found => known name _ ((calls name _).mpr ⟨signature, found, rfl⟩)
    obtain ⟨signature, found, type⟩ := (mainFaults_eq_nil_iff mainKnown).mp cleanMain
    exact ⟨_, (calls _ _).mpr ⟨signature, found, rfl⟩, type⟩
  · dsimp only [check]
    rw [value, List.forall₂_map_right_iff]
    refine filterMap_related fun function member => ?_
    obtain ⟨signature, there, signs⟩ := exists_right signed member
    have checked := checkFunction?_signed distinct there signs
    refine ⟨_, checked, function_of_clean calls known signs.type (whole function member) ?_⟩
    exact List.flatMap_eq_nil_iff.mp cleanBodies _ (List.mem_filterMap.mpr ⟨function, member, checked⟩)

theorem check_of_typed {file : FileId} {tree : Tree.File} {program : Program}
    (typed : Typing.File tree program) : check file tree = ⟨program, []⟩ := by
  have written : ∀ function ∈ tree.functions, ∃ signature, Signed function signature := by
    intro function member
    obtain ⟨_, _, ⟨written, _, _⟩⟩ := exists_right typed.functions member
    exact ⟨⟨function.name, _, function.nameSpan⟩, rfl, written, rfl⟩
  obtain ⟨signatures, signed⟩ := exists_related written
  have distinct : (signatures.map Signature.name).Nodup := Signed.names signed ▸ typed.distinct
  have declared : declareAll [] tree.functions = ⟨signatures, []⟩ :=
    declareAll_signed signed distinct typed.own
  have calls := find_declared signed typed.distinct
  have bodies : tree.functions.filterMap (checkFunction? signatures) =
      program.functions.map fun checked => ⟨checked, []⟩ := by
    refine filterMap_eq (List.forall₂_map_right_iff.mpr ?_)
    have both := (List.forall₂_and_left ..).mpr ⟨fun function => exists_right signed, typed.functions⟩
    refine both.imp fun function checked ⟨⟨signature, there, signs⟩, derived⟩ => ?_
    rw [checkFunction?_signed distinct there signs]
    rw [written_unique signs.type derived.written, function_of_typed calls derived]
  have main : mainFaults file signatures = [] := by
    obtain ⟨type, declares, entry⟩ := typed.main
    obtain ⟨signature, found, rfl⟩ := (calls "main" type).mp declares
    refine (mainFaults_eq_nil_iff fun name other lookup => ?_).mpr ⟨signature, found, entry⟩
    obtain ⟨_, _, _, written⟩ := (calls name _).mpr ⟨other, lookup, rfl⟩
    exact written.known
  dsimp only [check]
  rw [declared]
  dsimp only
  rw [bodies, main, List.map_map, List.flatMap_map]
  have programs : (fun checked : Checked Function => checked.value) ∘ (fun checked => ⟨checked, []⟩) = id :=
    rfl
  rw [programs, List.map_id, List.append_nil, List.nil_append, List.flatMap_eq_nil_iff.mpr fun _ _ => rfl]

/-- Without garbage, what is checked without faults is what is well typed, and it becomes the program
of the derivation. -/
theorem check_iff_typed (file : FileId) (tree : Tree.File) (whole : tree.Whole) :
    ((check file tree).faults = [] ↔ ∃ program, Typing.File tree program) ∧
      ∀ program, Typing.File tree program ↔
        (check file tree).faults = [] ∧ (check file tree).value = program := by
  have sound : (check file tree).faults = [] → Typing.File tree (check file tree).value := file_of_clean whole
  refine ⟨⟨fun clean => ⟨_, sound clean⟩, ?_⟩, fun program => ⟨?_, ?_⟩⟩
  · rintro ⟨program, typed⟩
    rw [check_of_typed typed]
  · intro typed
    rw [check_of_typed typed]
    exact ⟨rfl, rfl⟩
  · rintro ⟨clean, rfl⟩
    exact sound clean

/-- The tree of a `main` that prints the number one. -/
def printsOne : Tree.File :=
  let place (start stop : Nat) : Span := ⟨⟨0⟩, start, stop⟩
  ⟨[⟨"main", place 9 13, none, [.expression (.call "println"
    [.quotation "\x7b\x7d" (place 26 30), .number 1 (place 32 33)] (place 18 34))]⟩]⟩

theorem check_iff_typed_printsOne : printsOne.Whole ∧ ∃ program, Typing.File printsOne program := by
  have whole : printsOne.Whole := List.forall_mem_singleton.mpr (List.forall_mem_singleton.mpr
    (.expression (.call (List.forall_mem_cons.mpr ⟨.quotation, List.forall_mem_singleton.mpr .number⟩))))
  exact ⟨whole, (check_iff_typed ⟨0⟩ printsOne whole).1.mp rfl⟩

end StageZero.Program
