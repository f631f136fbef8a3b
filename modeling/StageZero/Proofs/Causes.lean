import StageZero.Proofs.Checking

/-! Which causes checking finds in which part of a file, and how a diagnostic shows its cause: no two causes that differ
in kind have messages that start with the same words. -/
namespace StageZero

/-- Whether the message of a diagnostic starts with some words. -/
def Diagnostic.startsWith (words : String) (diagnostic : Diagnostic) : Bool :=
  words.toList.isPrefixOf diagnostic.message.toList

/-- A message that opens with words that part from others does not start with those. -/
theorem Diagnostic.startsWith_eq_false {diagnostic : Diagnostic} {words opening rest : String}
    (message : diagnostic.message = opening ++ rest) (short : ¬ opening.toList.isPrefixOf words.toList)
    (long : ¬ words.toList.isPrefixOf opening.toList) : diagnostic.startsWith words = false := by
  rw [List.isPrefixOf_iff_prefix] at short long
  rw [Bool.eq_false_iff, startsWith, Ne, List.isPrefixOf_iff_prefix, message, String.toList_append]
  intro starts
  rcases List.prefix_or_prefix_of_prefix (List.prefix_append ..) starts with inside | outside
  · exact short inside
  · exact long outside

theorem Diagnostic.startsWith_eq_true {diagnostic : Diagnostic} {words opening rest : String}
    (message : diagnostic.message = opening ++ rest) (opens : words.toList.isPrefixOf opening.toList) :
    diagnostic.startsWith words = true := by
  rw [List.isPrefixOf_iff_prefix] at opens
  rw [startsWith, List.isPrefixOf_iff_prefix, message, String.toList_append]
  exact opens.trans (List.prefix_append ..)

/-! ### Messages -/

namespace TypeCause

/-- The words in a message before the first name, type or number in it. -/
def opening : TypeCause → String
  | .unknownType _ => "unknown type '"
  | .builtinRedefined _ => "cannot redefine builtin function '"
  | .functionRedefined .. => "redefinition of function '"
  | .mainMissing => "no 'main' function defined"
  | .mainResult => "'main' must return void or i64"
  | .returnMissing .. | .argumentsGiven .. => "function '"
  | .voidBound _ => "cannot bind a value of type void to '"
  | .variableRedefined .. => "redefinition of variable '"
  | .returnMismatch .. => "return type mismatch: expected "
  | .unknownVariable _ => "unknown variable '"
  | .unknownFunction _ => "unknown function '"
  | .formatMissing _ => "'"
  | .voidPrinted => "cannot print a value of type void"
  | .formatNotLiteral _ => "first argument to '"
  | .formatArity .. => "format string expects "

theorem message_eq (cause : TypeCause) : ∃ rest, cause.message = cause.opening ++ rest := by
  cases cause with
  | mainMissing | mainResult | voidPrinted => exact ⟨"", String.append_empty.symm⟩
  | unknownType | builtinRedefined | functionRedefined | returnMissing | voidBound | variableRedefined | returnMismatch
  | unknownVariable | unknownFunction | argumentsGiven | formatMissing | formatNotLiteral | formatArity =>
      -- the equations of the messages are slow to make, and the messages need not be told apart here
      delta message opening
      simp only [String.append_assoc]
      exact ⟨_, rfl⟩

/-- The part of a file that a cause is found in. -/
inductive Part where
  | type | name | entry | statement | binding | call | use
deriving DecidableEq

def part : TypeCause → Part
  | .unknownType _ => .type
  | .builtinRedefined _ | .functionRedefined .. => .name
  | .mainMissing | .mainResult => .entry
  | .returnMissing .. | .voidBound _ | .returnMismatch .. => .statement
  | .variableRedefined .. => .binding
  | .unknownVariable _ => .use
  | .unknownFunction _ | .argumentsGiven .. | .formatMissing _ | .voidPrinted | .formatNotLiteral _ | .formatArity .. =>
    .call

/-- The openings of all causes, with the part that they are found in. -/
def openings : List (String × Part) :=
  [("unknown type '", .type), ("cannot redefine builtin function '", .name), ("redefinition of function '", .name),
    ("no 'main' function defined", .entry), ("'main' must return void or i64", .entry), ("function '", .statement),
    ("cannot bind a value of type void to '", .statement), ("redefinition of variable '", .binding),
    ("return type mismatch: expected ", .statement), ("unknown variable '", .use), ("unknown function '", .call),
    ("function '", .call), ("'", .call), ("cannot print a value of type void", .call),
    ("first argument to '", .call), ("format string expects ", .call)]

theorem opening_mem (cause : TypeCause) : (cause.opening, cause.part) ∈ openings := by
  cases cause <;> simp [opening, part, openings]

/-- Words that part from every opening that is not the same. -/
def Opens (words : String) : Prop :=
  ∀ entry ∈ openings, entry.1 = words ∨
    ¬ entry.1.toList.isPrefixOf words.toList ∧ ¬ words.toList.isPrefixOf entry.1.toList

instance (words : String) : Decidable (Opens words) := inferInstanceAs (Decidable (∀ entry ∈ openings, _))

theorem Opens.startsWith_eq {words : String} (opens : Opens words) (fault : Fault TypeCause) :
    fault.diagnostic.startsWith words = decide (fault.cause.opening = words) := by
  obtain ⟨rest, message⟩ := message_eq fault.cause
  have message : fault.diagnostic.message = fault.cause.opening ++ rest := message
  by_cases same : fault.cause.opening = words
  · rw [decide_eq_true same]
    exact Diagnostic.startsWith_eq_true message (List.isPrefixOf_iff_prefix.mpr (same ▸ List.prefix_rfl))
  · rw [decide_eq_false same]
    obtain ⟨short, long⟩ := (opens _ (opening_mem fault.cause)).resolve_left same
    exact Diagnostic.startsWith_eq_false message short long

/-- The faults whose messages open with some words. -/
def opened (words : String) (faults : List (Fault TypeCause)) : List (Fault TypeCause) :=
  faults.filter fun fault => fault.cause.opening = words

theorem opened_append (words : String) (faults others : List (Fault TypeCause)) :
    opened words (faults ++ others) = opened words faults ++ opened words others := List.filter_append ..

theorem opened_flatMap {α : Type} (words : String) (items : List α) (f : α → List (Fault TypeCause)) :
    opened words (items.flatMap f) = items.flatMap fun item => opened words (f item) := List.filter_flatMap ..

theorem opened_single_eq_nil {words : String} {cause : TypeCause} (other : cause.opening ≠ words) (span : Span) :
    opened words [⟨cause, span⟩] = [] := List.filter_cons_of_neg (mt decide_eq_true_iff.mp other)

/-- The diagnostics that start with the opening of a cause are those of the faults with such a cause. -/
theorem Opens.filter_startsWith {words : String} (opens : Opens words) (faults : List (Fault TypeCause)) :
    (faults.map Fault.diagnostic).filter (Diagnostic.startsWith words) =
      (opened words faults).map Fault.diagnostic := by
  rw [List.filter_map]
  exact congrArg (List.map Fault.diagnostic) (List.filter_congr fun fault _ => opens.startsWith_eq fault)

theorem opens_builtinRedefined : Opens "cannot redefine builtin function '" := by decide +kernel

theorem opens_functionRedefined : Opens "redefinition of function '" := by decide +kernel

theorem opens_variableRedefined : Opens "redefinition of variable '" := by decide +kernel

theorem opens_unknownVariable : Opens "unknown variable '" := by decide +kernel

/-! ### Parts of a file -/

/-- The causes of some faults, all of them found in some parts. -/
def Within (parts : List Part) (faults : List (Fault TypeCause)) : Prop :=
  ∀ fault ∈ faults, fault.cause.part ∈ parts

namespace Within
variable {parts : List Part} {faults others : List (Fault TypeCause)}

theorem nil : Within parts [] := List.forall_mem_nil _

theorem single {cause : TypeCause} {span : Span} (found : cause.part ∈ parts) : Within parts [⟨cause, span⟩] :=
  List.forall_mem_singleton.mpr found

theorem append (first : Within parts faults) (second : Within parts others) : Within parts (faults ++ others) :=
  List.forall_mem_append.mpr ⟨first, second⟩

theorem ite {p : Prop} [Decidable p] (first : Within parts faults) (second : Within parts others) :
    Within parts (if p then faults else others) := by
  split
  case isTrue => exact first
  case isFalse => exact second

theorem flatMap {α : Type} {items : List α} {f : α → List (Fault TypeCause)}
    (each : ∀ item ∈ items, Within parts (f item)) : Within parts (items.flatMap f) := by
  intro fault member
  obtain ⟨item, there, found⟩ := List.mem_flatMap.mp member
  exact each item there fault found

theorem mono {more : List Part} (within : Within parts faults) (subset : parts ⊆ more) : Within more faults :=
  fun fault member => subset (within fault member)

/-- No message opens as those of other parts do. -/
theorem opened_eq_nil {words : String} (within : Within parts faults)
    (elsewhere : ∀ entry ∈ openings, entry.2 ∈ parts → entry.1 ≠ words) : opened words faults = [] := by
  refine List.filter_eq_nil_iff.mpr fun fault member => ?_
  rw [decide_eq_true_iff]
  exact elsewhere _ (opening_mem fault.cause) (within fault member)

end Within
end TypeCause

/-- The name that a statement binds, if it binds one. -/
def Tree.Statement.bound? : Statement → Option Named
  | .let name nameSpan _ => some ⟨name, nameSpan⟩
  | .return .. | .expression _ => none

namespace Program
open TypeCause

variable {signatures : Signatures} {scope : Scope}

/-! ### Expressions -/

theorem checkCall_faults (signatures : Signatures) (callee : String) (arguments : List Argument) (span : Span) :
    ∃ own, (checkCall signatures callee arguments span).faults =
      (arguments.flatMap fun argument => argument.checked.faults) ++ own ∧ Within [.call] own := by
  unfold checkCall
  cases signatures.lookup callee with
  | none => exact ⟨_, rfl, .single (.head _)⟩
  | some signature => exact ⟨_, rfl, .ite .nil (.single (.head _))⟩

theorem printFaults_eq (argument : Argument) :
    ∃ own, argument.printFaults = argument.checked.faults ++ own ∧ Within [.call] own :=
  ⟨_, rfl, .ite (.single (.head _)) .nil⟩

theorem checkPrint_faults (target : Target) (format : Tree.Expression) (arguments : List Argument) :
    ∃ own, (checkPrint target format arguments).faults = arguments.flatMap Argument.printFaults ++ own ∧
      Within [.call] own := by
  unfold checkPrint
  cases format with
  | quotation =>
      dsimp only
      split
      case isTrue => exact ⟨[], (List.append_nil _).symm, .nil⟩
      case isFalse => exact ⟨_, rfl, .single (.head _)⟩
  | call | «variable» | number | garbage => exact ⟨_, rfl, .single (.head _)⟩

mutual

theorem checkExpression_within (tree : Tree.Expression) :
    Within [.use, .call] (checkExpression signatures scope tree).faults := by
  cases tree with
  | number | quotation | garbage =>
      rw [checkExpression]
      exact .nil
  | «variable» name span =>
      rw [checkExpression]
      cases scope.lookup name with
      | some binding => exact .nil
      | none => exact .single (.head _)
  | call callee items span =>
      have each := checkArguments_within items
      rw [checkExpression]
      cases Target.ofCallee? callee with
      | none =>
          obtain ⟨own, whole, within⟩ := checkCall_faults signatures callee (checkArguments signatures scope items) span
          dsimp only
          rw [whole]
          exact (Within.flatMap each).append (within.mono (by simp))
      | some target =>
          cases items with
          | nil => exact .single (.tail _ (.head _))
          | cons format items =>
              rw [checkArguments] at each ⊢
              obtain ⟨own, whole, within⟩ := checkPrint_faults target format (checkArguments signatures scope items)
              dsimp only [List.tail_cons]
              rw [whole]
              refine (Within.flatMap fun argument member => ?_).append (within.mono (by simp))
              obtain ⟨own, whole, within⟩ := printFaults_eq argument
              rw [whole]
              exact ((List.forall_mem_cons.mp each).2 argument member).append (within.mono (by simp))

theorem checkArguments_within (items : List Tree.Expression) :
    ∀ argument ∈ checkArguments signatures scope items, Within [.use, .call] argument.checked.faults := by
  cases items with
  | nil =>
      rw [checkArguments]
      exact List.forall_mem_nil _
  | cons item items =>
      rw [checkArguments]
      exact List.forall_mem_cons.mpr ⟨checkExpression_within item, checkArguments_within items⟩

end

/-! ### Statements -/

/-- The faults of the expression that a statement holds, if it holds one. -/
def valueFaults (signatures : Signatures) (scope : Scope) : Tree.Statement → List (Fault TypeCause)
  | .let _ _ value | .return (some value) _ | .expression value => (checkExpression signatures scope value).faults
  | .return none _ => []

/-- The fault of a binding whose name is in scope. -/
def bindingFaults (scope : Scope) (tree : Tree.Statement) : List (Fault TypeCause) :=
  match tree.bound? with
  | none => []
  | some bound =>
    match scope.lookup bound.name with
    | none => []
    | some previous => [⟨.variableRedefined bound.name previous.span, bound.span⟩]

/-- A statement has the faults of what it holds, those of its type, and that of its name. -/
theorem checkStatement_faults (signatures : Signatures) (returnType : Ty) (scope : Scope) (tree : Tree.Statement) :
    ∃ own, (checkStatement signatures returnType scope tree).faults =
      valueFaults signatures scope tree ++ own ++ bindingFaults scope tree ∧ Within [.statement] own := by
  cases tree with
  | «let» name nameSpan initial =>
      refine ⟨if (checkExpression signatures scope initial).value.type = .void then
        [⟨.voidBound name, nameSpan.cover initial.span⟩] else [], ?_, .ite (.single (.head _)) .nil⟩
      dsimp only [checkStatement, valueFaults, bindingFaults, Tree.Statement.bound?]
      cases scope.lookup name <;> rfl
  | «return» value span =>
      cases value with
      | none => exact ⟨_, (List.append_nil _).symm, .ite .nil (.single (.head _))⟩
      | some value => exact ⟨_, (List.append_nil _).symm, .ite .nil (.single (.head _))⟩
  | expression value =>
      refine ⟨[], ?_, .nil⟩
      rw [List.append_nil]
      exact (List.append_nil _).symm

theorem valueFaults_within (signatures : Signatures) (scope : Scope) (tree : Tree.Statement) :
    Within [.use, .call] (valueFaults signatures scope tree) := by
  cases tree with
  | «let» _ _ value | expression value => exact checkExpression_within value
  | «return» value =>
      cases value with
      | none => exact .nil
      | some value => exact checkExpression_within value

theorem bindingFaults_within (scope : Scope) (tree : Tree.Statement) :
    Within [.binding] (bindingFaults scope tree) := by
  unfold bindingFaults
  cases tree.bound? with
  | none => exact .nil
  | some bound =>
      dsimp only
      cases scope.lookup bound.name with
      | none => exact .nil
      | some previous => exact .single (.head _)

theorem checkStatements_within (returnType : Ty) (trees : List Tree.Statement) :
    Within [.use, .call, .statement, .binding] (checkStatements signatures returnType scope trees).faults := by
  induction trees generalizing scope with
  | nil => exact .nil
  | cons tree trees ih =>
      obtain ⟨own, whole, within⟩ := checkStatement_faults signatures returnType scope tree
      unfold checkStatements
      dsimp only
      rw [whole]
      have value := valueFaults_within signatures scope tree
      have binding := bindingFaults_within scope tree
      exact (((value.mono (by simp)).append (within.mono (by simp))).append (binding.mono (by simp))).append ih

theorem checkBody_within (returnType : Ty) (function : Tree.Function) :
    Within [.use, .call, .statement, .binding] (checkBody signatures returnType function).faults :=
  (checkStatements_within returnType function.body).append (.ite .nil (.single (.tail _ (.tail _ (.head _)))))

/-! ### Declarations -/

theorem declaredType_within (function : Tree.Function) : Within [.type] (declaredType function).faults := by
  unfold declaredType
  split
  case h_1 => exact .nil
  case h_2 =>
    split
    case h_1 => exact .nil
    case h_2 => exact .single (.head _)

theorem declareAll_within (known : Signatures) (functions : List Tree.Function) :
    Within [.type, .name] (declareAll known functions).faults := by
  induction functions generalizing known with
  | nil => exact .nil
  | cons function functions ih =>
      refine Within.append ?_ (ih _)
      have written : Within [.type, .name] (declaredType function).faults := (declaredType_within function).mono (by simp)
      unfold declare
      dsimp only
      split
      case h_1 => exact written.append (.single (.tail _ (.head _)))
      case h_2 =>
        split
        case h_1 => exact written.append (.single (.tail _ (.head _)))
        case h_2 => exact written

theorem mainFaults_within (file : FileId) (signatures : Signatures) : Within [.entry] (mainFaults file signatures) := by
  unfold mainFaults
  split
  case h_1 => exact .single (.head _)
  case h_2 => exact .ite (.single (.head _)) .nil

end Program
end StageZero
