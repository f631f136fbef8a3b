import StageZero.Proofs.Definitions
import StageZero.Proofs.Extents
import StageZero.Proofs.UniformChecking

/-! Faults do not cascade. Garbage in the place of an expression takes faults away and adds none, but for the format
of a print, which has to be a string literal. What is bound to garbage has no type that could be wrong, so the faults
behind it do not become more either. -/
namespace StageZero

/-- A list of items of another one, in the same order, with more items between them. -/
inductive Adds {α : Type} : List α → List α → List α → Prop
  | nil : Adds [] [] []
  | keep {more items others} (a : α) : Adds more items others → Adds more (a :: items) (a :: others)
  | drop {more items others} (a : α) : Adds more items others → Adds more items (a :: others)
  | add {more items others} (a : α) : Adds more items others → Adds (a :: more) (a :: items) others

namespace Adds
variable {α : Type} {more items others : List α}

theorem refl (items : List α) : Adds [] items items := by
  induction items with
  | nil => exact .nil
  | cons a items ih => exact .keep a ih

theorem none (others : List α) : Adds [] [] others := by
  induction others with
  | nil => exact .nil
  | cons a others ih => exact .drop a ih

theorem append {still later behind : List α} (first : Adds more items others) (second : Adds still later behind) :
    Adds (more ++ still) (items ++ later) (others ++ behind) := by
  induction first with
  | nil => exact second
  | keep a _ ih => exact .keep a ih
  | drop a _ ih => exact .drop a ih
  | add a _ ih => exact .add a ih

theorem append_fewer {later behind : List α} (first : Adds more items others) (second : Adds [] later behind) :
    Adds more (items ++ later) (others ++ behind) := by
  have both := first.append second
  rwa [List.append_nil] at both

theorem same_append (front : List α) (second : Adds more items others) :
    Adds more (front ++ items) (front ++ others) := (refl front).append second

theorem append_same (first : Adds more items others) (behind : List α) :
    Adds more (items ++ behind) (others ++ behind) := first.append_fewer (refl behind)

theorem map {β : Type} (f : α → β) (adds : Adds more items others) :
    Adds (more.map f) (items.map f) (others.map f) := by
  induction adds with
  | nil => exact .nil
  | keep a _ ih => exact .keep (f a) ih
  | drop a _ ih => exact .drop (f a) ih
  | add a _ ih => exact .add (f a) ih

theorem sublist (adds : Adds [] items others) : items.Sublist others := by
  generalize empty : ([] : List α) = more at adds
  induction adds with
  | nil => exact .slnil
  | keep a _ ih => exact (ih empty).cons_cons a
  | drop a _ ih => exact (ih empty).cons a
  | add => exact absurd empty.symm (List.cons_ne_nil _ _)

/-- One item more stands somewhere among the others. -/
theorem exists_parts {a : α} (adds : Adds [a] items others) :
    ∃ front back, items = front ++ a :: back ∧ (front ++ back).Sublist others := by
  generalize one : [a] = more at adds
  induction adds with
  | nil => exact absurd one (List.cons_ne_nil _ _)
  | keep b _ ih =>
      obtain ⟨front, back, rfl, less⟩ := ih one
      exact ⟨b :: front, back, rfl, less.cons_cons b⟩
  | drop b _ ih =>
      obtain ⟨front, back, rfl, less⟩ := ih one
      exact ⟨front, back, rfl, less.cons b⟩
  | add b adds _ =>
      cases one
      exact ⟨[], _, rfl, adds.sublist⟩

end Adds

/-! ### Places of expressions -/

namespace Tree

/-- An expression but for one that stands in it, at any depth. -/
inductive Expression.Around where
  | here
  | argument (callee : String) (before : List Expression) (inside : Around) (after : List Expression) (span : Span)

def Expression.Around.fill : Expression.Around → Expression → Expression
  | .here, tree => tree
  | .argument callee before inside after span, tree => .call callee (before ++ inside.fill tree :: after) span

/-- A statement but for one expression. -/
inductive Statement.Around where
  | let (name : String) (nameSpan : Span) (initial : Expression.Around)
  | return (value : Expression.Around) (span : Span)
  | expression (value : Expression.Around)

def Statement.Around.fill : Statement.Around → Expression → Statement
  | .let name nameSpan initial, tree => .let name nameSpan (initial.fill tree)
  | .return value span, tree => .return (some (value.fill tree)) span
  | .expression value, tree => .expression (value.fill tree)

/-- Where the expression stands in what the statement evaluates. -/
def Statement.Around.value : Statement.Around → Expression.Around
  | .let _ _ value | .return value _ | .expression value => value

/-- A file but for one expression: the definitions before and behind it, and in its own definition, which has a header
and stands in `function` with any body, the statements before and behind it. -/
structure File.Around where
  earlier : List Function
  function : Function
  before : List Statement
  place : Statement.Around
  after : List Statement
  later : List Function

namespace File.Around

/-- The definition with an expression in its place. -/
def definition (around : File.Around) (tree : Expression) : Function :=
  { around.function with body := around.before ++ around.place.fill tree :: around.after }

def fill (around : File.Around) (tree : Expression) : File :=
  ⟨around.earlier ++ around.definition tree :: around.later⟩

end File.Around

/-- Every expression that stands in another one has a place in it. -/
theorem Expression.Within.exists_around {node tree : Expression} (within : node.Within tree) :
    ∃ around : Expression.Around, around.fill node = tree := by
  induction within with
  | self => exact ⟨.here, rfl⟩
  | argument member _ ih =>
      obtain ⟨inside, rfl⟩ := ih
      obtain ⟨before, after, rfl⟩ := List.append_of_mem member
      exact ⟨.argument _ before inside after _, rfl⟩

/-- Every expression of a file has a place in it. -/
theorem File.Holds.exists_around {file : File} {node : Expression} (held : file.Holds node) :
    ∃ around : File.Around, around.fill node = file := by
  obtain ⟨function, member, statement, inBody, value, some, within⟩ := held
  obtain ⟨inside, rfl⟩ := within.exists_around
  obtain ⟨earlier, later, functions⟩ := List.append_of_mem member
  obtain ⟨before, after, body⟩ := List.append_of_mem inBody
  have there : ∃ place : Statement.Around, place.fill node = statement := by
    cases statement with
    | «let» name nameSpan initial => exact ⟨.let name nameSpan inside, by cases some; rfl⟩
    | «return» returned span => exact ⟨.return inside span, by cases some; rfl⟩
    | expression alone => exact ⟨.expression inside, by cases some; rfl⟩
  obtain ⟨place, rfl⟩ := there
  refine ⟨⟨earlier, function, before, place, after, later⟩, ?_⟩
  rw [File.Around.fill, File.Around.definition, ← body, ← functions]

end Tree

/-! ### Vaguer types -/

/-- The same type, or none that could be wrong. -/
def Ty.Vaguer (type other : Ty) : Prop := type = other ∨ type = .unknown

theorem Ty.Vaguer.refl (type : Ty) : type.Vaguer type := .inl rfl

/-- What follows from a type, and does not from the unknown one, does not become more for a vaguer type. -/
theorem Ty.Vaguer.adds {α : Type} {type other : Ty} (vaguer : type.Vaguer other) (f : Ty → List α)
    (unknown : f .unknown = []) : Adds [] (f type) (f other) := by
  rcases vaguer with rfl | rfl
  · exact .refl _
  · exact unknown ▸ .none _

namespace Program

/-! ### Easier outcomes -/

/-- No more faults than in another outcome but for some, and no more of a type. -/
structure Checked.Eases (more : List (Fault TypeCause)) (checked other : Checked Expression) : Prop where
  type : checked.value.type.Vaguer other.value.type
  faults : Adds more checked.faults other.faults

theorem Checked.Eases.refl (checked : Checked Expression) : checked.Eases [] checked := ⟨.refl _, .refl _⟩

/-- Arguments one by one, with the faults that they add in the order of the arguments. -/
inductive ArgumentsEase : List (Fault TypeCause) → List Argument → List Argument → Prop
  | nil : ArgumentsEase [] [] []
  | cons {more still span checked other arguments given} : checked.Eases more other →
      ArgumentsEase still arguments given →
      ArgumentsEase (more ++ still) (⟨span, checked⟩ :: arguments) (⟨span, other⟩ :: given)

structure Binding.Vaguer (binding other : Binding) : Prop where
  name : binding.name = other.name
  type : binding.type.Vaguer other.type
  span : binding.span = other.span

structure Step.Eases (more : List (Fault TypeCause)) (step other : Step) : Prop where
  scope : List.Forall₂ Binding.Vaguer step.scope other.scope
  faults : Adds more step.faults other.faults

variable {signatures : Signatures} {scope vague : Scope} {more still : List (Fault TypeCause)}
  {arguments given : List Argument}

namespace ArgumentsEase

theorem refl (arguments : List Argument) : ArgumentsEase [] arguments arguments := by
  induction arguments with
  | nil => exact .nil
  | cons argument arguments ih => exact .cons (.refl _) ih

theorem append {later behind : List Argument} (first : ArgumentsEase more arguments given)
    (second : ArgumentsEase still later behind) :
    ArgumentsEase (more ++ still) (arguments ++ later) (given ++ behind) := by
  induction first with
  | nil => exact second
  | cons eases _ ih =>
      rw [List.append_assoc]
      exact .cons eases ih

/-- One argument is easier, and the others are the same. -/
theorem among {checked other : Checked Expression} (eases : checked.Eases more other) (span : Span)
    (before after : List Argument) :
    ArgumentsEase more (before ++ ⟨span, checked⟩ :: after) (before ++ ⟨span, other⟩ :: after) := by
  have ease := (refl before).append (@cons _ _ span _ _ _ _ eases (refl after))
  rwa [List.nil_append, List.append_nil] at ease

theorem length_eq (ease : ArgumentsEase more arguments given) : arguments.length = given.length := by
  induction ease with
  | nil => rfl
  | cons _ _ ih => rw [List.length_cons, List.length_cons, ih]

theorem flatMap {f : Argument → List (Fault TypeCause)}
    (each : ∀ {more span checked other}, Checked.Eases more checked other →
      Adds more (f ⟨span, checked⟩) (f ⟨span, other⟩))
    (ease : ArgumentsEase more arguments given) : Adds more (arguments.flatMap f) (given.flatMap f) := by
  induction ease with
  | nil => exact .nil
  | cons eases _ ih => exact (each eases).append ih

end ArgumentsEase

/-- What has no known type is printed without a fault. -/
theorem Checked.Eases.printFaults {checked other : Checked Expression} (eases : checked.Eases more other)
    (span : Span) :
    Adds more (Argument.printFaults ⟨span, checked⟩) (Argument.printFaults ⟨span, other⟩) := by
  have void := eases.type.adds (fun type => if type = .void then
    [(⟨.voidPrinted, span⟩ : Fault TypeCause)] else []) rfl
  exact eases.faults.append_fewer void

/-! ### Expressions -/

theorem checkCall_eases (callee : String) (ease : ArgumentsEase more arguments given) (span : Span) :
    (checkCall signatures callee arguments span).Eases more (checkCall signatures callee given span) := by
  have faults := ease.flatMap (f := fun argument => argument.checked.faults) fun eases => eases.faults
  unfold checkCall
  cases signatures.lookup callee with
  | none => exact ⟨.refl _, faults.append_same _⟩
  | some signature =>
      dsimp only
      rw [ease.length_eq]
      exact ⟨.refl _, faults.append_same _⟩

theorem checkPrint_eases (target : Target) (format : Tree.Expression) (ease : ArgumentsEase more arguments given) :
    (checkPrint target format arguments).Eases more (checkPrint target format given) := by
  have faults := ease.flatMap fun eases => eases.printFaults _
  unfold checkPrint
  cases format with
  | quotation =>
      dsimp only
      rw [ease.length_eq]
      split
      case isTrue => exact ⟨.refl _, faults⟩
      case isFalse => exact ⟨.refl _, faults.append_same _⟩
  | call | «variable» | number | garbage => exact ⟨.refl _, faults.append_same _⟩

theorem Scope.lookup_vaguer (bound : List.Forall₂ Binding.Vaguer vague scope) (name : String) :
    Option.Rel Binding.Vaguer (vague.lookup name) (scope.lookup name) :=
  find?_alike (fun _ _ same => by rw [same.name]) bound

mutual

/-- Behind vaguer bindings an expression has the same faults or less. -/
theorem checkExpression_eases (bound : List.Forall₂ Binding.Vaguer vague scope) (tree : Tree.Expression) :
    (checkExpression signatures vague tree).Eases [] (checkExpression signatures scope tree) := by
  cases tree with
  | number | quotation | garbage =>
      rw [checkExpression, checkExpression]
      exact .refl _
  | «variable» name span =>
      have found := Scope.lookup_vaguer bound name
      rw [checkExpression, checkExpression]
      generalize vague.lookup name = binding at found ⊢
      generalize scope.lookup name = other at found ⊢
      cases found with
      | none => exact .refl _
      | some vaguer => exact ⟨vaguer.type, .refl _⟩
  | call callee items span =>
      have ease := checkArguments_ease bound items
      rw [checkExpression, checkExpression]
      cases Target.ofCallee? callee with
      | none => exact checkCall_eases callee ease span
      | some target =>
          cases items with
          | nil => exact .refl _
          | cons format items =>
              rw [checkArguments, checkArguments]
              exact checkPrint_eases target format (checkArguments_ease bound items)

theorem checkArguments_ease (bound : List.Forall₂ Binding.Vaguer vague scope) (items : List Tree.Expression) :
    ArgumentsEase [] (checkArguments signatures vague items) (checkArguments signatures scope items) := by
  cases items with
  | nil =>
      rw [checkArguments, checkArguments]
      exact .nil
  | cons item items =>
      rw [checkArguments, checkArguments]
      exact .cons (checkExpression_eases bound item) (checkArguments_ease bound items)

end

/-! ### Garbage in a place -/

/-- The print that a place is the format of, if the print is checked. What stands in a format is not. -/
def formatOf? : Tree.Expression.Around → Option Target
  | .here => none
  | .argument callee [] inside _ _ =>
    match Target.ofCallee? callee with
    | none => formatOf? inside
    | some target =>
      match inside with
      | .here => some target
      | .argument .. => none
  | .argument _ (_ :: _) inside _ _ => formatOf? inside

/-- The fault that garbage adds. Only a string literal is missed, and only by the print that it is the format of. -/
def formatFaults (target : Option Target) (tree : Tree.Expression) : List (Fault TypeCause) :=
  match target, tree with
  | some target, .quotation _ span => [⟨.formatNotLiteral target.callee, span⟩]
  | _, _ => []

theorem fill_span (around : Tree.Expression.Around) (tree : Tree.Expression) :
    (around.fill (.garbage tree.span)).span = (around.fill tree).span := by
  cases around <;> rfl

theorem checkArguments_append (before after : List Tree.Expression) :
    checkArguments signatures scope (before ++ after) =
      checkArguments signatures scope before ++ checkArguments signatures scope after := by
  rw [checkArguments_eq, checkArguments_eq, checkArguments_eq, List.map_append]

theorem checkArguments_fill {filled other : Tree.Expression} (spans : filled.span = other.span)
    (eases : (checkExpression signatures scope filled).Eases more (checkExpression signatures scope other))
    (before after : List Tree.Expression) :
    ArgumentsEase more (checkArguments signatures scope (before ++ filled :: after))
      (checkArguments signatures scope (before ++ other :: after)) := by
  rw [checkArguments_append, checkArguments_append, checkArguments, checkArguments, spans]
  exact .among eases _ _ _

/-- Garbage is no string literal, and it is not missed where there was none. -/
theorem checkPrint_garbage (target : Target) (format : Tree.Expression) (arguments : List Argument) :
    (checkPrint target (.garbage format.span) arguments).Eases (formatFaults (some target) format)
      (checkPrint target format arguments) := by
  refine ⟨.inr rfl, ?_⟩
  unfold checkPrint
  cases format with
  | quotation text span =>
      dsimp only
      split
      case isTrue =>
        have added := (Adds.refl (arguments.flatMap Argument.printFaults)).append
          (.add (⟨.formatNotLiteral target.callee, span⟩ : Fault TypeCause) .nil)
        rwa [List.append_nil] at added
      case isFalse => exact .same_append _ (.add _ (.none _))
  | call | «variable» | number | garbage => exact .refl _

theorem checkExpression_fill (signatures : Signatures) (scope : Scope) (around : Tree.Expression.Around)
    (tree : Tree.Expression) :
    (checkExpression signatures scope (around.fill (.garbage tree.span))).Eases (formatFaults (formatOf? around) tree)
      (checkExpression signatures scope (around.fill tree)) := by
  induction around with
  | here =>
      rw [Tree.Expression.Around.fill, checkExpression]
      exact ⟨.inr rfl, .none _⟩
  | argument callee before inside after span ih =>
      have ease := checkArguments_fill (fill_span inside tree) ih
      rw [Tree.Expression.Around.fill, Tree.Expression.Around.fill, checkExpression, checkExpression]
      cases before with
      | nil =>
          rw [formatOf?]
          cases Target.ofCallee? callee with
          | none => exact checkCall_eases callee (ease [] after) span
          | some target =>
              rw [List.nil_append, List.nil_append, checkArguments, checkArguments]
              cases inside with
              | here => exact checkPrint_garbage target tree _
              -- what stands in the format is not looked at
              | argument => exact .refl _
      | cons format before =>
          rw [formatOf?]
          cases Target.ofCallee? callee with
          | none => exact checkCall_eases callee (ease (format :: before) after) span
          | some target =>
              rw [List.cons_append, List.cons_append, checkArguments, checkArguments]
              exact checkPrint_eases target format (ease before after)

/-! ### Statements -/

section
variable (returnType : Ty) (bound : List.Forall₂ Binding.Vaguer vague scope) {filled other : Tree.Expression}
  (eases : (checkExpression signatures vague filled).Eases more (checkExpression signatures scope other))
include bound eases

theorem let_eases (spans : filled.span = other.span) (name : String) (nameSpan : Span) :
    (checkStatement signatures returnType vague (.let name nameSpan filled)).Eases more
      (checkStatement signatures returnType scope (.let name nameSpan other)) := by
  have found := Scope.lookup_vaguer bound name
  dsimp only [checkStatement]
  rw [spans]
  have void := eases.type.adds (fun type => if type = .void then
    [(⟨.voidBound name, nameSpan.cover other.span⟩ : Fault TypeCause)] else []) rfl
  refine ⟨.cons ⟨rfl, eases.type, rfl⟩ bound, (eases.faults.append_fewer void).append_fewer ?_⟩
  generalize vague.lookup name = binding at found ⊢
  generalize scope.lookup name = previous at found ⊢
  cases found with
  | none => exact .nil
  | some vaguer =>
      dsimp only
      rw [vaguer.span]
      exact .refl _

theorem return_eases (span : Span) :
    (checkStatement signatures returnType vague (.return (some filled) span)).Eases more
      (checkStatement signatures returnType scope (.return (some other) span)) := by
  have mismatch := eases.type.adds (fun type => if type.agrees returnType then [] else
    [(⟨.returnMismatch returnType type, span⟩ : Fault TypeCause)]) (by cases returnType <;> rfl)
  exact ⟨bound, eases.faults.append_fewer mismatch⟩

theorem expression_eases :
    (checkStatement signatures returnType vague (.expression filled)).Eases more
      (checkStatement signatures returnType scope (.expression other)) := ⟨bound, eases.faults⟩

end

theorem Binding.Vaguer.refl (scope : Scope) : List.Forall₂ Binding.Vaguer scope scope :=
  List.forall₂_same.mpr fun _ _ => ⟨rfl, .refl _, rfl⟩

theorem checkStatement_eases (signatures : Signatures) (returnType : Ty)
    (bound : List.Forall₂ Binding.Vaguer vague scope) (statement : Tree.Statement) :
    (checkStatement signatures returnType vague statement).Eases []
      (checkStatement signatures returnType scope statement) := by
  cases statement with
  | «let» name nameSpan initial =>
      exact let_eases returnType bound (checkExpression_eases bound initial) rfl name nameSpan
  | «return» value span =>
      cases value with
      | none => exact ⟨bound, .refl _⟩
      | some value => exact return_eases returnType bound (checkExpression_eases bound value) span
  | expression value => exact expression_eases returnType bound (checkExpression_eases bound value)

theorem checkStatements_eases (returnType : Ty) (bound : List.Forall₂ Binding.Vaguer vague scope)
    (statements : List Tree.Statement) :
    Adds [] (checkStatements signatures returnType vague statements).faults
      (checkStatements signatures returnType scope statements).faults := by
  induction statements generalizing vague scope with
  | nil => exact .nil
  | cons statement statements ih =>
      have first := checkStatement_eases signatures returnType bound statement
      exact first.faults.append (ih first.scope)

theorem checkStatement_fill (signatures : Signatures) (returnType : Ty) (scope : Scope)
    (place : Tree.Statement.Around) (tree : Tree.Expression) :
    (checkStatement signatures returnType scope (place.fill (.garbage tree.span))).Eases
      (formatFaults (formatOf? place.value) tree) (checkStatement signatures returnType scope (place.fill tree)) := by
  have same := Binding.Vaguer.refl scope
  have eases := checkExpression_fill signatures scope place.value tree
  cases place with
  | «let» name nameSpan initial => exact let_eases returnType same eases (fill_span initial tree) name nameSpan
  | «return» value span => exact return_eases returnType same eases span
  | expression => exact expression_eases returnType same eases

theorem checkStatements_fill (signatures : Signatures) (returnType : Ty) (scope : Scope)
    (place : Tree.Statement.Around) (tree : Tree.Expression) (before after : List Tree.Statement) :
    Adds (formatFaults (formatOf? place.value) tree)
      (checkStatements signatures returnType scope (before ++ place.fill (.garbage tree.span) :: after)).faults
      (checkStatements signatures returnType scope (before ++ place.fill tree :: after)).faults := by
  induction before generalizing scope with
  -- only the statements behind the place may find a vaguer scope
  | nil =>
      have first := checkStatement_fill signatures returnType scope place tree
      exact first.faults.append_fewer (checkStatements_eases returnType first.scope after)
  | cons statement before ih => exact .same_append _ (ih _)

/-! ### Definitions -/

theorem isReturn_fill (place : Tree.Statement.Around) (tree other : Tree.Expression) :
    isReturn (place.fill tree) = isReturn (place.fill other) := by
  cases place <;> rfl

theorem checkBody_fill (returnType : Ty) (around : Tree.File.Around) (tree : Tree.Expression) :
    Adds (formatFaults (formatOf? around.place.value) tree)
      (checkBody signatures returnType (around.definition (.garbage tree.span))).faults
      (checkBody signatures returnType (around.definition tree)).faults := by
  have body := checkStatements_fill signatures returnType [] around.place tree around.before around.after
  have returns := isReturn_fill around.place (.garbage tree.span) tree
  unfold checkBody Tree.File.Around.definition
  simp only [List.any_append, List.any_cons, returns]
  exact body.append_same _

theorem checkFunction?_fill (signatures : Signatures) (around : Tree.File.Around) (tree : Tree.Expression) :
    Option.Rel (fun checked other : Checked Function =>
        Adds (formatFaults (formatOf? around.place.value) tree) checked.faults other.faults)
      (checkFunction? signatures (around.definition (.garbage tree.span)))
      (checkFunction? signatures (around.definition tree)) := by
  unfold checkFunction?
  have header (filled : Tree.Expression) : (around.definition filled).name = around.function.name ∧
      (around.definition filled).nameSpan = around.function.nameSpan := ⟨rfl, rfl⟩
  rw [(header _).1, (header _).1, (header _).2, (header _).2]
  cases signatures.lookup around.function.name with
  | none => exact .none
  | some signature =>
      dsimp only
      split
      case isTrue => exact .some (checkBody_fill signature.returnType around tree)
      case isFalse => exact .none

theorem declareAll_fill (known : Signatures) (around : Tree.File.Around) (tree other : Tree.Expression) :
    declareAll known (around.fill tree).functions = declareAll known (around.fill other).functions := by
  rw [← declareAll_header, ← declareAll_header known (around.fill other).functions]
  simp only [Tree.File.Around.fill, List.map_append, List.map_cons]
  rfl

/-! ### Which definitions are checked -/

/-- Whether the definition around a place is checked: its name is not that of a print, and it is not taken by a
definition that stands before it, elsewhere. -/
def isChecked (around : Tree.File.Around) : Bool :=
  (Target.ofCallee? around.function.name).isNone &&
    (around.earlier.find? fun earlier => earlier.name = around.function.name).all fun first =>
      first.nameSpan = around.function.nameSpan

theorem isChecked_eq (around : Tree.File.Around) (tree : Tree.Expression) :
    isChecked around =
      (checkFunction? (declareAll [] (around.fill tree).functions).value (around.definition tree)).isSome := by
  have name : (around.definition tree).name = around.function.name := rfl
  have span : (around.definition tree).nameSpan = around.function.nameSpan := rfl
  rw [isSome_checkFunction?, lookup_declared, name, span, isChecked]
  dsimp only [Tree.File.Around.fill]
  rw [← Tree.Function.isOwn]
  cases own : around.function.isOwn with
  | false =>
      rw [find?_gives_eq_none own]
      rfl
  | true =>
      rw [gives_of_isOwn own, List.find?_append, List.find?_cons]
      cases around.earlier.find? fun function => function.name = around.function.name with
      | none => simp [signatureOf, name, span]
      | some first => simp [signatureOf]

/-! ### Files -/

/-- The print that misses an expression when there is garbage in its place: the one that the expression is the format
of, if it is a string literal, and if the print is checked. -/
def missing? (around : Tree.File.Around) (tree : Tree.Expression) : Option Target :=
  match tree with
  | .quotation .. => if isChecked around then formatOf? around.place.value else none
  | _ => none

theorem formatFaults_missing? (around : Tree.File.Around) (tree : Tree.Expression) :
    formatFaults (missing? around tree) tree =
      if isChecked around then formatFaults (formatOf? around.place.value) tree else [] := by
  cases tree with
  | quotation =>
      rw [missing?]
      split <;> rfl
  | call | «variable» | number | garbage => cases formatOf? around.place.value <;> exact (ite_self _).symm

/-- The faults of the definitions, of which only one is around the place. -/
theorem checkFunctions_fill (around : Tree.File.Around) (tree : Tree.Expression) :
    let signatures := (declareAll [] (around.fill tree).functions).value
    let faults (filled : Tree.Expression) :=
      ((around.fill filled).functions.filterMap (checkFunction? signatures)).flatMap fun checked => checked.faults
    Adds (formatFaults (missing? around tree) tree) (faults (.garbage tree.span)) (faults tree) := by
  intro signatures faults
  have found := checkFunction?_fill signatures around tree
  let own (filled : Tree.Expression) :=
    (checkFunction? signatures (around.definition filled)).toList.flatMap fun checked => checked.faults
  have adds : Adds (formatFaults (missing? around tree) tree) (own (.garbage tree.span)) (own tree) := by
    dsimp only [own]
    rw [formatFaults_missing?, isChecked_eq around tree]
    generalize checkFunction? signatures (around.definition (.garbage tree.span)) = garbled at found ⊢
    generalize checkFunction? signatures (around.definition tree) = checked at found ⊢
    cases found with
    | none => exact .nil
    | some adds => simpa using adds
  have parts (filled : Tree.Expression) : faults filled =
      (around.earlier.filterMap (checkFunction? signatures)).flatMap (fun checked => checked.faults) ++
        (own filled ++ (around.later.filterMap (checkFunction? signatures)).flatMap fun checked => checked.faults) := by
    simp only [own, faults, Tree.File.Around.fill, List.filterMap_eq_flatMap_toList, List.flatMap_append,
      List.flatMap_cons]
  rw [parts, parts]
  exact (adds.append_same _).same_append _

theorem check_fill (file : FileId) (around : Tree.File.Around) (tree : Tree.Expression) :
    Adds (formatFaults (missing? around tree) tree) (check file (around.fill (.garbage tree.span))).faults
      (check file (around.fill tree)).faults := by
  have declared := declareAll_fill [] around (.garbage tree.span) tree
  have functions := checkFunctions_fill around tree
  unfold check
  dsimp only
  rw [declared]
  exact functions.same_append _

end Program

/-- Garbage in the place of an expression of a file makes no diagnostics, and if it takes away the format of a checked
print it makes the one that says so. -/
theorem check_garbage (file : FileId) (around : Tree.File.Around) (tree : Tree.Expression) :
    let diagnostics (filled : Tree.Expression) := (check file (around.fill filled)).faults.map Fault.diagnostic
    (Program.missing? around tree = none → (diagnostics (.garbage tree.span)).Sublist (diagnostics tree)) ∧
      ∀ target, Program.missing? around tree = some target →
        ∃ front back, diagnostics (.garbage tree.span) = front ++ ⟨"typecheck",
            "first argument to '" ++ target.callee ++ "' must be a string literal", tree.span, none⟩ :: back ∧
          (front ++ back).Sublist (diagnostics tree) := by
  intro diagnostics
  have adds := (Program.check_fill file around tree).map Fault.diagnostic
  refine ⟨fun none => ?_, fun target some => ?_⟩
  · rw [none] at adds
    exact adds.sublist
  · cases tree with
    | quotation text span =>
        rw [some] at adds
        exact adds.exists_parts
    | call | «variable» | number | garbage => exact absurd some nofun

theorem check_garbage_format :
    let place : Span := ⟨⟨0⟩, 0, 1⟩
    let around : Tree.File.Around :=
      ⟨[], ⟨"main", place, none, []⟩, [], .expression (.argument "println" [] .here [] place), [], []⟩
    let diagnostics (filled : Tree.Expression) := (check ⟨0⟩ (around.fill filled)).faults.map Fault.diagnostic
    (Program.missing? around (.variable "x" place) = none ∧
        (diagnostics (.garbage place)).Sublist (diagnostics (.variable "x" place))) ∧
      Program.missing? around (.quotation "x" place) = some .output ∧
      ∃ front back, diagnostics (.garbage place) = front ++
          ⟨"typecheck", "first argument to 'println' must be a string literal", place, none⟩ :: back ∧
        (front ++ back).Sublist (diagnostics (.quotation "x" place)) := by
  intro place around diagnostics
  have fewer := (check_garbage ⟨0⟩ around (.variable "x" place)).1 rfl
  have one := (check_garbage ⟨0⟩ around (.quotation "x" place)).2 .output rfl
  exact ⟨⟨rfl, fewer⟩, rfl, one⟩

end StageZero
