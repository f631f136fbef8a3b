import StageZero.Program.Basic
import StageZero.Program.Format
import StageZero.Source.Diagnostic
import StageZero.Tree.Basic

/-! Checked programs from trees. Signatures are declared first, so a body may call a function that
is defined after it. What does not check becomes garbage of unknown type and a fault, and unknown
types raise no further faults. -/
namespace StageZero

inductive TypeCause where
  | unknownType (name : String)
  | builtinRedefined (name : String)
  | functionRedefined (name : String) (first : Span)
  | mainMissing
  | mainResult
  | returnMissing (function : String) (type : Ty)
  | voidBound (name : String)
  | variableRedefined (name : String) (previous : Span)
  | returnMismatch (expected found : Ty)
  | unknownVariable (name : String)
  | unknownFunction (name : String)
  | argumentsGiven (function : String) (count : Nat)
  | formatMissing (callee : String)
  | voidPrinted
  | formatNotLiteral (callee : String)
  | formatArity (placeholders given : Nat)
deriving DecidableEq

namespace TypeCause

/-- A count and the verb that agrees with it. -/
def given (count : Nat) : String := toString count ++ (if count = 1 then " was" else " were") ++ " given"

def message : TypeCause → String
  | .unknownType name => "unknown type '" ++ name ++ "'"
  | .builtinRedefined name => "cannot redefine builtin function '" ++ name ++ "'"
  | .functionRedefined name _ => "redefinition of function '" ++ name ++ "'"
  | .mainMissing => "no 'main' function defined"
  | .mainResult => "'main' must return void or i64"
  | .returnMissing function type =>
    "function '" ++ function ++ "' must return a value of type " ++ type.display
  | .voidBound name => "cannot bind a value of type void to '" ++ name ++ "'"
  | .variableRedefined name _ => "redefinition of variable '" ++ name ++ "'"
  | .returnMismatch expected found =>
    "return type mismatch: expected " ++ expected.display ++ ", found " ++ found.display
  | .unknownVariable name => "unknown variable '" ++ name ++ "'"
  | .unknownFunction name => "unknown function '" ++ name ++ "'"
  | .argumentsGiven function count =>
    "function '" ++ function ++ "' takes no arguments, but " ++ given count
  | .formatMissing callee => "'" ++ callee ++ "' expects a format string"
  | .voidPrinted => "cannot print a value of type void"
  | .formatNotLiteral callee => "first argument to '" ++ callee ++ "' must be a string literal"
  | .formatArity placeholders count =>
    "format string expects " ++ toString placeholders ++
      (if placeholders = 1 then " argument" else " arguments") ++ ", but " ++ given count

def hint : TypeCause → Option Hint
  | .functionRedefined _ first => some ⟨"previous definition here", first⟩
  | .variableRedefined _ previous => some ⟨"previous definition here", previous⟩
  | _ => none

end TypeCause

instance : Wording TypeCause where
  phase := "typecheck"
  message := TypeCause.message
  hint := TypeCause.hint

namespace Program

/-- The outcome of checking a part of a tree. -/
structure Checked (α : Type) where
  value : α
  faults : List (Fault TypeCause)

/-- What a call may know of a function. -/
structure Signature where
  name : String
  returnType : Ty
  span : Span

abbrev Signatures := List Signature

def Signatures.lookup (signatures : Signatures) (name : String) : Option Signature :=
  signatures.find? fun signature => signature.name = name

/-- A variable that a statement has bound. -/
structure Binding where
  name : String
  type : Ty
  span : Span

/-- The bindings of a body so far, the newest first. -/
abbrev Scope := List Binding

def Scope.lookup (scope : Scope) (name : String) : Option Binding :=
  scope.find? fun binding => binding.name = name

/-- A checked argument, and where it stands. -/
structure Argument where
  span : Span
  checked : Checked Expression

/-- The faults of a printed argument: void has nothing to print. -/
def Argument.printFaults (argument : Argument) : List (Fault TypeCause) :=
  argument.checked.faults ++
    if argument.checked.value.type = .void then [⟨.voidPrinted, argument.span⟩] else []

/-- A call of a user's function. All its arguments are checked, though it takes none. -/
def checkCall (signatures : Signatures) (callee : String) (arguments : List Argument) (span : Span) :
    Checked Expression :=
  let faults := arguments.flatMap fun argument => argument.checked.faults
  match signatures.lookup callee with
  | none => ⟨.garbage, faults ++ [⟨.unknownFunction callee, span⟩]⟩
  | some signature =>
    let count := arguments.length
    ⟨.call callee signature.returnType,
      faults ++ if count = 0 then [] else [⟨.argumentsGiven callee count, span⟩]⟩

/-- A print of checked arguments by a format, which is not itself checked as an expression. -/
def checkPrint (target : Target) (format : Tree.Expression) (arguments : List Argument) :
    Checked Expression :=
  let faults := arguments.flatMap Argument.printFaults
  match format with
  | .quotation text span =>
    let pieces := pieces text
    let placeholders := pieces.length - 1
    if placeholders = arguments.length then
      ⟨.print target pieces (arguments.map fun argument => argument.checked.value), faults⟩
    else ⟨.garbage, faults ++ [⟨.formatArity placeholders arguments.length, span⟩]⟩
  | other => ⟨.garbage, faults ++ [⟨.formatNotLiteral target.callee, other.span⟩]⟩

mutual

def checkExpression (signatures : Signatures) (scope : Scope) : Tree.Expression → Checked Expression
  | .number value _ => ⟨.number value, []⟩
  | .quotation text _ => ⟨.quotation text, []⟩
  | .garbage _ => ⟨.garbage, []⟩
  | .variable name span =>
    match scope.lookup name with
    | some binding => ⟨.variable name binding.type, []⟩
    | none => ⟨.garbage, [⟨.unknownVariable name, span⟩]⟩
  | .call callee arguments span =>
    let checked := checkArguments signatures scope arguments
    match Target.ofCallee? callee with
    | none => checkCall signatures callee checked span
    | some target =>
      match arguments with
      | [] => ⟨.garbage, [⟨.formatMissing callee, span⟩]⟩
      | format :: _ => checkPrint target format checked.tail

def checkArguments (signatures : Signatures) (scope : Scope) : List Tree.Expression → List Argument
  | [] => []
  | argument :: later =>
    ⟨argument.span, checkExpression signatures scope argument⟩ ::
      checkArguments signatures scope later

end

/-- A checked statement and the scope behind it. -/
structure Step where
  statement : Statement
  scope : Scope
  faults : List (Fault TypeCause)

/-- Checks a statement of a function with the given return type. A binding hides an earlier one of
its name, though that is a fault. -/
def checkStatement (signatures : Signatures) (returnType : Ty) (scope : Scope) :
    Tree.Statement → Step
  | .let name nameSpan initial =>
    let value := checkExpression signatures scope initial
    let type := value.value.type
    let span := nameSpan.cover initial.span
    let void := if type = .void then [⟨.voidBound name, span⟩] else []
    let again := match scope.lookup name with
      | some previous => [⟨.variableRedefined name previous.span, nameSpan⟩]
      | none => []
    ⟨.let name type value.value span, ⟨name, type, nameSpan⟩ :: scope, value.faults ++ void ++ again⟩
  | .return none span =>
    ⟨.return none span, scope,
      if Ty.void.agrees returnType then [] else [⟨.returnMismatch returnType .void, span⟩]⟩
  | .return (some value) span =>
    let value := checkExpression signatures scope value
    ⟨.return (some value.value) span, scope, value.faults ++
      if value.value.type.agrees returnType then []
      else [⟨.returnMismatch returnType value.value.type, span⟩]⟩
  | .expression value =>
    let checked := checkExpression signatures scope value
    ⟨.expression checked.value value.span, scope, checked.faults⟩

def checkStatements (signatures : Signatures) (returnType : Ty) (scope : Scope) :
    List Tree.Statement → Checked (List Statement)
  | [] => ⟨[], []⟩
  | statement :: later =>
    let first := checkStatement signatures returnType scope statement
    let rest := checkStatements signatures returnType first.scope later
    ⟨first.statement :: rest.value, first.faults ++ rest.faults⟩

def isReturn : Tree.Statement → Bool
  | .return .. => true
  | _ => false

/-- Checks a body. Each body starts with no variables. -/
def checkBody (signatures : Signatures) (returnType : Ty) (function : Tree.Function) :
    Checked Function :=
  let body := checkStatements signatures returnType [] function.body
  let missing :=
    if Ty.void.agrees returnType || function.body.any isReturn then []
    else [⟨.returnMissing function.name returnType, function.nameSpan⟩]
  ⟨⟨function.name, returnType, body.value⟩, body.faults ++ missing⟩

/-- Checks the definition that gave a name its signature. A builtin, or a definition after the
first, is left out. -/
def checkFunction? (signatures : Signatures) (function : Tree.Function) : Option (Checked Function) :=
  match signatures.lookup function.name with
  | none => none
  | some signature =>
    if signature.span = function.nameSpan then
      some (checkBody signatures signature.returnType function)
    else none

/-- The return type that a definition declares; none written is void. -/
def declaredType (function : Tree.Function) : Checked Ty :=
  match function.returnType with
  | none => ⟨.void, []⟩
  | some written =>
    match Ty.ofName? written.name with
    | some type => ⟨type, []⟩
    | none => ⟨.unknown, [⟨.unknownType written.name, written.span⟩]⟩

/-- Adds the signature of a definition to those known, unless its name is taken. -/
def declare (known : Signatures) (function : Tree.Function) : Checked Signatures :=
  let declared := declaredType function
  match Target.ofCallee? function.name with
  | some _ => ⟨known, declared.faults ++ [⟨.builtinRedefined function.name, function.nameSpan⟩]⟩
  | none =>
    match known.lookup function.name with
    | some first =>
      ⟨known, declared.faults ++ [⟨.functionRedefined function.name first.span, function.nameSpan⟩]⟩
    | none => ⟨known ++ [⟨function.name, declared.value, function.nameSpan⟩], declared.faults⟩

def declareAll (known : Signatures) : List Tree.Function → Checked Signatures
  | [] => ⟨known, []⟩
  | function :: later =>
    let first := declare known function
    let rest := declareAll first.value later
    ⟨rest.value, first.faults ++ rest.faults⟩

/-- The faults of the entry function; a missing one is placed at the start of the file. -/
def mainFaults (file : FileId) (signatures : Signatures) : List (Fault TypeCause) :=
  match signatures.lookup "main" with
  | none => [⟨.mainMissing, ⟨file, 0, 0⟩⟩]
  | some main => if main.returnType = .string then [⟨.mainResult, main.span⟩] else []

end Program

/-- Checks the tree of a file. -/
def check (file : FileId) (tree : Tree.File) : Program.Checked Program :=
  let declared := Program.declareAll [] tree.functions
  let functions := tree.functions.filterMap (Program.checkFunction? declared.value)
  ⟨⟨functions.map fun function => function.value⟩,
    declared.faults ++ Program.mainFaults file declared.value ++
      functions.flatMap fun function => function.faults⟩

end StageZero
