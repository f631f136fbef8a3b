import StageZero.Proofs.Alike
import StageZero.Proofs.Checking

/-! Checking is uniform in places, but for one decision: a definition is the first of its name when its name stands
where the signature says. Where the names of the definitions stand apart from each other, that comes out alike, so
trees that are alike become programs that are alike, with faults that are alike. -/
namespace StageZero
namespace Program

section
variable (R : Span → Span → Prop)

structure Checked.Alike {α : Type} (V : α → α → Prop) (checked other : Checked α) : Prop where
  value : V checked.value other.value
  faults : List.Forall₂ (Fault.Alike R) checked.faults other.faults

structure Signature.Alike (signature other : Signature) : Prop where
  name : signature.name = other.name
  returnType : signature.returnType = other.returnType
  span : R signature.span other.span

structure Binding.Alike (binding other : Binding) : Prop where
  name : binding.name = other.name
  type : binding.type = other.type
  span : R binding.span other.span

structure Argument.Alike (argument other : Argument) : Prop where
  span : R argument.span other.span
  checked : argument.checked.Alike R Eq other.checked

structure Step.Alike (step other : Step) : Prop where
  statement : step.statement.Alike R other.statement
  scope : List.Forall₂ (Binding.Alike R) step.scope other.scope
  faults : List.Forall₂ (Fault.Alike R) step.faults other.faults

end

variable {R S : Span → Span → Prop}

/-! ### Faults and lookups -/

/-- A fault without a hint, at two places. -/
theorem faults_alike {cause : TypeCause} {span place : Span} (plain : cause.hint = none) (near : R span place) :
    List.Forall₂ (Fault.Alike R) [(⟨cause, span⟩ : Fault TypeCause)] [⟨cause, place⟩] := by
  have hint : Option.Rel (Hint.Alike R) cause.hint cause.hint := plain ▸ .none
  exact .cons ⟨rfl, rfl, near, hint⟩ .nil

theorem ite_alike {α : Type} {V : α → α → Prop} {p : Prop} [Decidable p] {yes no others behind : List α}
    (first : List.Forall₂ V yes others) (second : List.Forall₂ V no behind) :
    List.Forall₂ V (if p then yes else no) (if p then others else behind) := by
  split
  case isTrue => exact first
  case isFalse => exact second

theorem find?_alike {α : Type} {V : α → α → Prop} {p : α → Bool} {items others : List α}
    (same : ∀ item other, V item other → p item = p other) (alike : List.Forall₂ V items others) :
    Option.Rel V (items.find? p) (others.find? p) := by
  induction alike with
  | nil => exact .none
  | cons first _ ih =>
      rw [List.find?_cons, List.find?_cons, same _ _ first]
      split
      case h_1 => exact .some first
      case h_2 => exact ih

theorem Signatures.lookup_alike {signatures others : Signatures}
    (alike : List.Forall₂ (Signature.Alike S) signatures others) (name : String) :
    Option.Rel (Signature.Alike S) (signatures.lookup name) (others.lookup name) :=
  find?_alike (fun _ _ same => by rw [same.name]) alike

theorem Scope.lookup_alike {scope other : Scope} (alike : List.Forall₂ (Binding.Alike R) scope other)
    (name : String) : Option.Rel (Binding.Alike R) (scope.lookup name) (other.lookup name) :=
  find?_alike (fun _ _ same => by rw [same.name]) alike

/-! ### Expressions -/

section
variable {signatures others : Signatures} {scope like : Scope}
  (known : List.Forall₂ (Signature.Alike S) signatures others)
  (bound : List.Forall₂ (Binding.Alike R) scope like)

include known in
theorem checkCall_alike (callee : String) {arguments given : List Argument} {span place : Span}
    (alike : List.Forall₂ (Argument.Alike R) arguments given) (near : R span place) :
    (checkCall signatures callee arguments span).Alike R Eq (checkCall others callee given place) := by
  have faults : List.Forall₂ (Fault.Alike R) (arguments.flatMap fun argument => argument.checked.faults)
      (given.flatMap fun argument => argument.checked.faults) :=
    List.rel_flatMap alike fun _ _ same => same.checked.faults
  have found := Signatures.lookup_alike known callee
  unfold checkCall
  generalize signatures.lookup callee = signature at found ⊢
  generalize others.lookup callee = other at found ⊢
  cases found with
  | none => exact ⟨rfl, List.rel_append faults (faults_alike rfl near)⟩
  | some same =>
      dsimp only
      rw [same.returnType, alike.length_eq]
      exact ⟨rfl, List.rel_append faults (ite_alike .nil (faults_alike rfl near))⟩

theorem Argument.Alike.printFaults {argument other : Argument} (alike : argument.Alike R other) :
    List.Forall₂ (Fault.Alike R) argument.printFaults other.printFaults := by
  unfold Argument.printFaults
  rw [alike.checked.value]
  exact List.rel_append alike.checked.faults (ite_alike (faults_alike rfl alike.span) .nil)

theorem checkPrint_alike (target : Target) {format other : Tree.Expression} {arguments given : List Argument}
    (same : format.Alike R other) (alike : List.Forall₂ (Argument.Alike R) arguments given) :
    (checkPrint target format arguments).Alike R Eq (checkPrint target other given) := by
  have faults : List.Forall₂ (Fault.Alike R) (arguments.flatMap Argument.printFaults)
      (given.flatMap Argument.printFaults) := List.rel_flatMap alike fun _ _ same => same.printFaults
  have values : arguments.map (fun argument => argument.checked.value) =
      given.map fun argument => argument.checked.value := by
    rw [← List.forall₂_eq_eq_eq]
    exact List.rel_map (fun _ _ same => same.checked.value) alike
  have wrong : List.Forall₂ (Fault.Alike R)
      [(⟨.formatNotLiteral target.callee, format.span⟩ : Fault TypeCause)]
      [⟨.formatNotLiteral target.callee, other.span⟩] := faults_alike rfl same.span
  unfold checkPrint
  cases same with
  | quotation near =>
      dsimp only
      rw [alike.length_eq, values]
      split
      case isTrue => exact ⟨rfl, faults⟩
      case isFalse => exact ⟨rfl, List.rel_append faults (faults_alike rfl near)⟩
  | call | «variable» | number | garbage => exact ⟨rfl, List.rel_append faults wrong⟩

include known bound in
theorem checkExpression_alike {tree other : Tree.Expression} (alike : tree.Alike R other) :
    (checkExpression signatures scope tree).Alike R Eq (checkExpression others like other) := by
  refine Tree.Expression.Alike.induct (motive := fun tree other =>
    (checkExpression signatures scope tree).Alike R Eq (checkExpression others like other))
    ?call ?name ?number ?quotation ?garbage alike
  case number | quotation | garbage =>
    intros
    rw [checkExpression, checkExpression]
    exact ⟨rfl, .nil⟩
  case name =>
    intro name span place near
    have found := Scope.lookup_alike bound name
    rw [checkExpression, checkExpression]
    generalize scope.lookup name = binding at found ⊢
    generalize like.lookup name = other at found ⊢
    cases found with
    | none => exact ⟨rfl, faults_alike rfl near⟩
    | some same => exact ⟨congrArg (Expression.variable name) same.type, .nil⟩
  case call =>
    intro callee items given span place alike near
    have arguments : List.Forall₂ (Argument.Alike R) (checkArguments signatures scope items)
        (checkArguments others like given) := by
      rw [checkArguments_eq, checkArguments_eq]
      exact List.rel_map (fun _ _ same => ⟨same.1.span, same.2⟩) alike
    rw [checkExpression, checkExpression]
    cases Target.ofCallee? callee with
    | none => exact checkCall_alike known callee arguments near
    | some target =>
        cases alike with
        | nil => exact ⟨rfl, faults_alike rfl near⟩
        | cons format _ =>
            rw [checkArguments, checkArguments] at arguments ⊢
            exact checkPrint_alike target format.1 (List.forall₂_cons.mp arguments).2

/-! ### Bodies -/

include known bound in
theorem checkStatement_alike (covers : Span.Covers R) (returnType : Ty) {tree other : Tree.Statement}
    (alike : tree.Alike R other) :
    (checkStatement signatures returnType scope tree).Alike R (checkStatement others returnType like other) := by
  cases alike with
  | @«let» name span place initial other near initialAlike =>
      obtain ⟨value, faults⟩ := checkExpression_alike known bound initialAlike
      have whole := covers near initialAlike.span
      have found := Scope.lookup_alike bound name
      dsimp only [checkStatement]
      rw [value]
      refine ⟨.let whole, .cons ⟨rfl, rfl, near⟩ bound,
        List.rel_append (List.rel_append faults (ite_alike (faults_alike rfl whole) .nil)) ?_⟩
      generalize scope.lookup name = binding at found ⊢
      generalize like.lookup name = other at found ⊢
      cases found with
      | none => exact .nil
      | some same => exact .cons ⟨rfl, rfl, near, .some ⟨rfl, same.span⟩⟩ .nil
  | returnNothing near => exact ⟨.return near, bound, ite_alike .nil (faults_alike rfl near)⟩
  | «return» valueAlike near =>
      obtain ⟨value, faults⟩ := checkExpression_alike known bound valueAlike
      dsimp only [checkStatement]
      rw [value]
      exact ⟨.return near, bound, List.rel_append faults (ite_alike .nil (faults_alike rfl near))⟩
  | expression valueAlike =>
      obtain ⟨value, faults⟩ := checkExpression_alike known bound valueAlike
      dsimp only [checkStatement]
      rw [value]
      exact ⟨.expression valueAlike.span, bound, faults⟩

end

variable {signatures others : Signatures}

theorem checkStatements_alike (known : List.Forall₂ (Signature.Alike S) signatures others) (covers : Span.Covers R)
    (returnType : Ty) {scope like : Scope} (bound : List.Forall₂ (Binding.Alike R) scope like)
    {trees given : List Tree.Statement} (alike : List.Forall₂ (Tree.Statement.Alike R) trees given) :
    (checkStatements signatures returnType scope trees).Alike R (List.Forall₂ (Statement.Alike R))
      (checkStatements others returnType like given) := by
  induction alike generalizing scope like with
  | nil => exact ⟨.nil, .nil⟩
  | cons first _ ih =>
      obtain ⟨statement, behind, faults⟩ := checkStatement_alike known bound covers returnType first
      obtain ⟨statements, faultsLater⟩ := ih behind
      exact ⟨.cons statement statements, List.rel_append faults faultsLater⟩

theorem isReturn_eq {tree other : Tree.Statement} (alike : tree.Alike R other) : isReturn tree = isReturn other := by
  cases alike <;> rfl

theorem any_isReturn_eq {trees given : List Tree.Statement}
    (alike : List.Forall₂ (Tree.Statement.Alike R) trees given) : trees.any isReturn = given.any isReturn := by
  induction alike with
  | nil => rfl
  | cons first _ ih => rw [List.any_cons, List.any_cons, isReturn_eq first, ih]

theorem checkBody_alike (known : List.Forall₂ (Signature.Alike S) signatures others) (covers : Span.Covers R)
    (returnType : Ty) {function other : Tree.Function} (alike : function.Alike R other) :
    (checkBody signatures returnType function).Alike R (Function.Alike R) (checkBody others returnType other) := by
  obtain ⟨body, faults⟩ := checkStatements_alike known covers returnType .nil alike.body
  unfold checkBody
  rw [alike.name, any_isReturn_eq alike.body]
  exact ⟨⟨rfl, rfl, body⟩, List.rel_append faults (ite_alike .nil (faults_alike rfl alike.nameSpan))⟩

/-! ### Declarations -/

theorem declaredType_alike {function other : Tree.Function} (alike : function.Alike R other) :
    (declaredType function).Alike R Eq (declaredType other) := by
  have written := alike.returnType
  unfold declaredType
  generalize function.returnType = type at written ⊢
  generalize other.returnType = like at written ⊢
  cases written with
  | none => exact ⟨rfl, .nil⟩
  | some same =>
      dsimp only
      rw [same.name]
      split
      case h_1 => exact ⟨rfl, .nil⟩
      case h_2 => exact ⟨rfl, faults_alike rfl same.span⟩

/-- What is declared is alike, also in a closer relation in which the names of the definitions stand. -/
theorem declare_alike (closer : ∀ span place, S span place → R span place)
    (known : List.Forall₂ (Signature.Alike S) signatures others) {function other : Tree.Function}
    (alike : function.Alike R other) (near : S function.nameSpan other.nameSpan) :
    (declare signatures function).Alike R (List.Forall₂ (Signature.Alike S)) (declare others other) := by
  obtain ⟨type, faults⟩ := declaredType_alike alike
  have found := Signatures.lookup_alike known other.name
  unfold declare
  dsimp only
  rw [alike.name]
  cases Target.ofCallee? other.name with
  | some target => exact ⟨known, List.rel_append faults (faults_alike rfl alike.nameSpan)⟩
  | none =>
      generalize signatures.lookup other.name = signature at found ⊢
      generalize others.lookup other.name = like at found ⊢
      cases found with
      | none => exact ⟨List.rel_append known (.cons ⟨rfl, type, near⟩ .nil), faults⟩
      | some same =>
          exact ⟨known, List.rel_append faults
            (.cons ⟨rfl, rfl, alike.nameSpan, .some ⟨rfl, closer _ _ same.span⟩⟩ .nil)⟩

theorem declareAll_alike (closer : ∀ span place, S span place → R span place)
    (known : List.Forall₂ (Signature.Alike S) signatures others) {trees given : List Tree.Function}
    (alike : List.Forall₂ (fun function other => function.Alike R other ∧ S function.nameSpan other.nameSpan)
      trees given) :
    (declareAll signatures trees).Alike R (List.Forall₂ (Signature.Alike S)) (declareAll others given) := by
  induction alike generalizing signatures others with
  | nil => exact ⟨known, .nil⟩
  | cons first _ ih =>
      obtain ⟨value, faults⟩ := declare_alike closer known first.1 first.2
      obtain ⟨values, faultsLater⟩ := ih value
      exact ⟨values, List.rel_append faults faultsLater⟩

theorem mainFaults_alike (closer : ∀ span place, S span place → R span place)
    (known : List.Forall₂ (Signature.Alike S) signatures others) {file id : FileId}
    (start : R ⟨file, 0, 0⟩ ⟨id, 0, 0⟩) :
    List.Forall₂ (Fault.Alike R) (mainFaults file signatures) (mainFaults id others) := by
  have found := Signatures.lookup_alike known "main"
  unfold mainFaults
  generalize signatures.lookup "main" = signature at found ⊢
  generalize others.lookup "main" = other at found ⊢
  cases found with
  | none => exact faults_alike rfl start
  | some same =>
      dsimp only
      rw [same.returnType]
      exact ite_alike (faults_alike rfl (closer _ _ same.span)) .nil

/-! ### Files -/

/-- A relation under which spans are the same on one side just if they are on the other. -/
def Tells (S : Span → Span → Prop) : Prop :=
  ∀ ⦃first other later behind : Span⦄, S first other → S later behind → (first = later ↔ other = behind)

theorem checkFunction?_alike (tells : Tells S) (known : List.Forall₂ (Signature.Alike S) signatures others)
    (covers : Span.Covers R) {function other : Tree.Function} (alike : function.Alike R other)
    (near : S function.nameSpan other.nameSpan) :
    Option.Rel (Checked.Alike R (Function.Alike R)) (checkFunction? signatures function)
      (checkFunction? others other) := by
  have found := Signatures.lookup_alike known other.name
  unfold checkFunction?
  rw [alike.name]
  generalize signatures.lookup other.name = signature at found ⊢
  generalize others.lookup other.name = like at found ⊢
  cases found with
  | none => exact .none
  | @some signature like same =>
      have first := tells same.span near
      dsimp only
      by_cases own : like.span = other.nameSpan
      · rw [if_pos own, if_pos (first.mpr own), same.returnType]
        exact .some (checkBody_alike known covers _ alike)
      · rw [if_neg own, if_neg (mt first.mp own)]
        exact .none

/-- Places that are related, of names that the definitions in two files have at the same index. -/
def Beside (R : Span → Span → Prop) (functions others : List Tree.Function) (span place : Span) : Prop :=
  R span place ∧
    (span, place) ∈ (functions.map Tree.Function.nameSpan).zip (others.map Tree.Function.nameSpan)

theorem tells_beside {functions given : List Tree.Function} (length : functions.length = given.length)
    (distinct : (functions.map Tree.Function.nameSpan).Nodup) (apart : (given.map Tree.Function.nameSpan).Nodup) :
    Tells (Beside R functions given) := by
  have left : (((functions.map Tree.Function.nameSpan).zip (given.map Tree.Function.nameSpan)).map Prod.fst).Nodup := by
    rwa [List.map_fst_zip (by simp [length])]
  have right : (((functions.map Tree.Function.nameSpan).zip (given.map Tree.Function.nameSpan)).map Prod.snd).Nodup := by
    rwa [List.map_snd_zip (by simp [length])]
  rintro first other later behind ⟨-, here⟩ ⟨-, there⟩
  constructor
  · intro same
    exact congrArg Prod.snd (List.inj_on_of_nodup_map left here there same)
  · intro same
    exact congrArg Prod.fst (List.inj_on_of_nodup_map right here there same)

theorem forall₂_beside {functions given : List Tree.Function}
    (alike : List.Forall₂ (Tree.Function.Alike R) functions given) :
    List.Forall₂ (fun function other => function.Alike R other ∧
      Beside R functions given function.nameSpan other.nameSpan) functions given := by
  rw [List.forall₂_iff_zip]
  refine ⟨alike.length_eq, fun {function other} member => ?_⟩
  have same := List.forall₂_zip alike member
  refine ⟨same, same.nameSpan, ?_⟩
  rw [List.zip_map]
  exact List.mem_map_of_mem (f := Prod.map Tree.Function.nameSpan Tree.Function.nameSpan) member

end Program

/-- Files that are alike are checked alike, if in each the names of the definitions stand apart. -/
theorem check_alike {R : Span → Span → Prop} (covers : Span.Covers R) {file id : FileId}
    (start : R ⟨file, 0, 0⟩ ⟨id, 0, 0⟩) {tree other : Tree.File} (alike : tree.Alike R other)
    (distinct : (tree.functions.map Tree.Function.nameSpan).Nodup)
    (apart : (other.functions.map Tree.Function.nameSpan).Nodup) :
    (check file tree).Alike R (Program.Alike R) (check id other) := by
  have tells := Program.tells_beside (R := R) alike.length_eq distinct apart
  have closer : ∀ span place, Program.Beside R tree.functions other.functions span place → R span place :=
    fun _ _ near => near.1
  have definitions := Program.forall₂_beside alike
  obtain ⟨known, faults⟩ := Program.declareAll_alike closer .nil definitions
  have bodies := List.rel_filterMap (fun _ _ same =>
    Program.checkFunction?_alike tells known covers same.1 same.2) definitions
  have main := Program.mainFaults_alike closer known start
  have bodyFaults := List.rel_flatMap bodies fun _ _ same => same.faults
  exact ⟨List.rel_map (fun _ _ same => same.value) bodies,
    List.rel_append (List.rel_append faults main) bodyFaults⟩

end StageZero
