import StageZero.Proofs.Checking
import StageZero.Proofs.Contents
import StageZero.Proofs.Reading

/-! Programs of texts in which no phase finds a fault. Scanning reports its garbage, reading and
checking report theirs and count on the phases before, so none is left at the end. -/
namespace StageZero

/-! ### Trees without garbage -/

namespace Tree

theorem Expression.Each.whole {tree : Expression} (each : tree.Each (· ≠ .garbage)) : tree.Whole := by
  induction each with
  | call _ _ ih => exact .call ih
  | «variable» => exact .variable
  | number => exact .number
  | quotation => exact .quotation
  | garbage same => exact absurd rfl same

theorem Statement.Each.whole {statement : Statement} (each : statement.Each (· ≠ .garbage)) :
    statement.Whole := by
  cases each with
  | «let» _ initial => exact .let initial.whole
  | returnNothing => exact .returnNothing
  | «return» value => exact .return value.whole
  | expression value => exact .expression value.whole

theorem Grammar.File.whole {tokens : List Token} {file : Tree.File} (derived : File tokens file)
    (clean : Token.Clean tokens) : file.Whole := by
  have each : file.Each (· ≠ .garbage) := derived.each clean
  exact fun function member statement inside => ((each function member).body statement inside).whole

end Tree

/-! ### Programs without garbage -/

namespace Program

/-- An expression of a program behind the statements of a body: it has no garbage, it calls functions
of the program, and its variables are bound by the statements. -/
inductive Expression.Sound (program : Program) (earlier : List Statement) : Expression → Prop
  | call {callee type function} : function ∈ program.functions → function.name = callee →
      function.returnType = type → type ≠ .unknown → Sound program earlier (.call callee type)
  | print {target pieces arguments} : (∀ argument ∈ arguments, Sound program earlier argument) →
      (∀ argument ∈ arguments, argument.type ≠ .void) → Sound program earlier (.print target pieces arguments)
  | variable {name type initial span} : .let name type initial span ∈ earlier → type ≠ .unknown →
      Sound program earlier (.variable name type)
  | number {value} : Sound program earlier (.number value)
  | quotation {text} : Sound program earlier (.quotation text)

/-- A statement of a function with some return type, behind the statements before it. -/
inductive Statement.Sound (program : Program) (returnType : Ty) (earlier : List Statement) : Statement → Prop
  | let {name type initial span} : initial.Sound program earlier → initial.type = type → type ≠ .void →
      type ≠ .unknown → Sound program returnType earlier (.let name type initial span)
  | returnNothing {span} : returnType = .void → Sound program returnType earlier (.return none span)
  | return {value span} : value.Sound program earlier → value.type = returnType →
      Sound program returnType earlier (.return (some value) span)
  | expression {value span} : value.Sound program earlier →
      Sound program returnType earlier (.expression value span)

structure Function.Sound (program : Program) (function : Function) : Prop where
  own : function.name ≠ "println" ∧ function.name ≠ "eprintln"
  known : function.returnType ≠ .unknown
  body : ∀ before statement after, function.body = before ++ statement :: after →
    statement.Sound program function.returnType before
  returns : function.returnType ≠ .void → ∃ value span, .return (some value) span ∈ function.body

end Program

structure Program.Sound (program : Program) : Prop where
  distinct : (program.functions.map Function.name).Nodup
  main : ∃ function ∈ program.functions, function.name = "main" ∧
    (function.returnType = .void ∨ function.returnType = .i64)
  functions : ∀ function ∈ program.functions, function.Sound program

namespace Typing
open Program (exists_right Known)

/-- The variables in scope are those that statements have bound. -/
def Bound (context : Context) (earlier : List Program.Statement) : Prop :=
  ∀ name type, (name, type) ∈ context → ∃ initial span, .let name type initial span ∈ earlier

/-- The functions that are declared are functions of the program. -/
def Callable (program : Program) (functions : String → Ty → Prop) : Prop :=
  ∀ name type, functions name type →
    ∃ function ∈ program.functions, function.name = name ∧ function.returnType = type

variable {program : Program} {functions : String → Ty → Prop} {context : Context} {returnType : Ty}
  {earlier : List Program.Statement}

theorem Expression.sound (known : Known functions context) (bound : Bound context earlier)
    (calls : Callable program functions)
    {tree : Tree.Expression} {type : Ty} {value : Program.Expression}
    (derived : Expression functions context tree type value) : value.Sound program earlier := by
  refine @Expression.rec functions context (fun _ _ value _ => value.Sound program earlier)
    (fun _ arguments _ => ∀ argument ∈ arguments, argument.Sound program earlier ∧ argument.type ≠ .void)
    ?number ?quotation ?name ?call ?print ?nil ?cons _ _ _ derived
  case number => exact .number
  case quotation => exact .quotation
  case name =>
    intro name type span member
    obtain ⟨initial, span, there⟩ := bound name type member
    exact .variable there (known.bound name type member)
  case call =>
    intro callee type span _ declared
    obtain ⟨function, member, named, returned⟩ := calls callee type declared
    exact .call member named returned (known.calls callee type declared)
  case print =>
    intro callee target text textSpan items span pieces arguments _ _ _ _ ih
    exact .print (fun argument member => (ih argument member).1) fun argument member => (ih argument member).2
  case nil => exact List.forall_mem_nil _
  case cons =>
    intro item type argument items arguments typed printable _ first later
    exact List.forall_mem_cons.mpr ⟨⟨first, typed.type_eq ▸ printable⟩, later⟩

theorem Bound.append (bound : Bound context earlier) (later : List Program.Statement) :
    Bound context (earlier ++ later) := by
  intro name type member
  obtain ⟨initial, span, there⟩ := bound name type member
  exact ⟨initial, span, List.mem_append_left _ there⟩

theorem Statement.sound (known : Known functions context) (bound : Bound context earlier)
    (calls : Callable program functions)
    {tree : Tree.Statement} {next : Context} {statement : Program.Statement}
    (derived : Statement functions returnType context tree next statement) :
    statement.Sound program returnType earlier ∧ Known functions next ∧
      Bound next (earlier ++ [statement]) := by
  cases derived with
  | @«let» name nameSpan initial type value typed bindable _ =>
      have typeKnown := known.expression typed
      have notVoid : type ≠ .void := by
        rcases bindable with rfl | rfl <;> exact nofun
      refine ⟨.let (typed.sound known bound calls) typed.type_eq notVoid typeKnown, known.cons typeKnown, ?_⟩
      intro other found member
      rcases List.mem_cons.mp member with here | before
      · cases here
        exact ⟨_, _, List.mem_append_right _ (List.mem_singleton_self _)⟩
      · exact bound.append _ other found before
  | returnNothing void => exact ⟨.returnNothing void, known, bound.append _⟩
  | «return» typed => exact ⟨.return (typed.sound known bound calls) typed.type_eq, known, bound.append _⟩
  | expression typed => exact ⟨.expression (typed.sound known bound calls), known, bound.append _⟩

-- The induction goes along the body, and the statements already passed move to those before.
theorem Statements.sound (known : Known functions context) (bound : Bound context earlier)
    (calls : Callable program functions)
    {trees : List Tree.Statement} {statements before after : List Program.Statement}
    {statement : Program.Statement} (derived : Statements functions returnType context trees statements)
    (there : statements = before ++ statement :: after) :
    statement.Sound program returnType (earlier ++ before) := by
  induction derived generalizing before earlier with
  | nil => exact absurd there (List.append_ne_nil_of_right_ne_nil _ (List.cons_ne_nil _ _)).symm
  | cons first _ ih =>
      obtain ⟨sound, knownNext, boundNext⟩ := first.sound known bound calls
      cases before with
      | nil =>
          cases there
          rw [List.append_nil]
          exact sound
      | cons other before =>
          cases there
          have later := ih knownNext boundNext rfl
          rw [List.append_assoc, List.singleton_append] at later
          exact later

/-- A return of a function that returns something has a value. -/
theorem Statements.returns {trees : List Tree.Statement} {statements : List Program.Statement}
    (derived : Statements functions returnType context trees statements) (some : returnType ≠ .void)
    {tree : Option Tree.Expression} {span : Span} (member : .return tree span ∈ trees) :
    ∃ value span, .return (.some value) span ∈ statements := by
  induction derived with
  | nil => exact absurd member List.not_mem_nil
  | cons first _ ih =>
      rcases List.mem_cons.mp member with rfl | later
      · cases first with
        | returnNothing void => exact absurd void some
        | «return» => exact ⟨_, _, List.mem_cons_self ..⟩
      · obtain ⟨value, span, there⟩ := ih later
        exact ⟨value, span, List.mem_cons_of_mem _ there⟩

theorem Function.name_eq {function : Tree.Function} {checked : Program.Function}
    (derived : Function functions function checked) : checked.name = function.name := by
  cases derived with
  | function => rfl

theorem Function.sound (known : ∀ name type, functions name type → type ≠ .unknown)
    (calls : Callable program functions) {function : Tree.Function} {checked : Program.Function}
    (own : ∀ target, ¬ Prints function.name target) (derived : Function functions function checked) :
    checked.Sound program := by
  cases derived with
  | function written statements returns =>
      refine ⟨⟨?_, ?_⟩, written.known, ?_, ?_⟩
      · rintro (name : function.name = "println")
        exact own .output (name ▸ .println)
      · rintro (name : function.name = "eprintln")
        exact own .errors (name ▸ .eprintln)
      · intro before statement after there
        have nothing : Bound [] [] := fun _ _ member => absurd member List.not_mem_nil
        exact statements.sound (.nil known) nothing calls there
      · intro some
        obtain ⟨_, _, member⟩ := returns.resolve_left some
        exact statements.returns some member

theorem File.sound {tree : Tree.File} (derived : File tree program) : program.Sound := by
  have names := Program.map_related derived.functions fun _ _ typed => typed.name_eq
  have calls : Callable program (Declares tree) := by
    rintro _ type ⟨function, member, rfl, written⟩
    obtain ⟨checked, there, typed⟩ := exists_right derived.functions member
    exact ⟨checked, there, typed.name_eq, Program.written_unique typed.written written⟩
  have known : ∀ name type, Declares tree name type → type ≠ .unknown :=
    fun _ _ ⟨_, _, _, written⟩ => written.known
  refine ⟨names ▸ derived.distinct, ?_, ?_⟩
  · obtain ⟨type, declared, entry⟩ := derived.main
    obtain ⟨function, member, named, rfl⟩ := calls "main" type declared
    exact ⟨function, member, named, entry⟩
  · intro checked member
    obtain ⟨function, there, typed⟩ := exists_right derived.functions.flip member
    exact typed.sound known calls (derived.own function there)

end Typing

/-- If no phase finds a fault in a text, its program has no garbage and no unknown type, and all it
uses is there. -/
theorem sound_of_accepted (file : FileId) (text : String) :
    let scanned := scan file text
    let parsed := parse scanned.stream
    let checked := check file parsed.file
    scanned.faults = [] → parsed.faults = [] → checked.faults = [] → checked.value.Sound := by
  intro scanned parsed checked cleanText cleanTokens cleanTree
  have derived := Tree.functions_derives scanned.stream.stop scanned.stream.tokens cleanTokens
  have whole : parsed.file.Whole := derived.whole (scan_clean cleanText)
  exact (Program.file_of_clean whole cleanTree).sound

theorem sound_of_accepted_printing :
    let text := "function main() \x7b println(\"\x7b\x7d\", 1) \x7d"
    (check ⟨0⟩ (parse (scan ⟨0⟩ text).stream).file).value.Sound := by
  intro text
  have tokens : (scan ⟨0⟩ text).stream.tokens = [
      ⟨.function, ⟨⟨0⟩, 0, 8⟩⟩, ⟨.name "main", ⟨⟨0⟩, 9, 13⟩⟩, ⟨.openParen, ⟨⟨0⟩, 13, 14⟩⟩,
      ⟨.closeParen, ⟨⟨0⟩, 14, 15⟩⟩, ⟨.openBrace, ⟨⟨0⟩, 16, 17⟩⟩, ⟨.name "println", ⟨⟨0⟩, 18, 25⟩⟩,
      ⟨.openParen, ⟨⟨0⟩, 25, 26⟩⟩, ⟨.quotation "\x7b\x7d", ⟨⟨0⟩, 26, 30⟩⟩, ⟨.comma, ⟨⟨0⟩, 30, 31⟩⟩,
      ⟨.number 1, ⟨⟨0⟩, 32, 33⟩⟩, ⟨.closeParen, ⟨⟨0⟩, 33, 34⟩⟩, ⟨.closeBrace, ⟨⟨0⟩, 35, 36⟩⟩] := by
    decide +kernel
  have blank : Tree.Grammar.Newlines [] := List.forall_mem_nil _
  have separated : Tree.Grammar.Separators [] := List.forall_mem_nil _
  have derived : Tree.Grammar.File (scan ⟨0⟩ text).stream.tokens Program.printsOne := by
    rw [tokens]
    exact (.file blank (.more (.plain blank (.full separated (.last (.expression (.call blank
      (.some (.more .quotation blank blank (.last .number blank))))) separated))) blank .none) :
        Tree.Grammar.File _ _)
  obtain ⟨parsed, tree⟩ := (Tree.functions_iff (scan ⟨0⟩ text).stream.stop _ _).mp derived
  refine sound_of_accepted ⟨0⟩ text (by decide +kernel) parsed ?_
  have same : (parse (scan ⟨0⟩ text).stream).file = Program.printsOne := tree
  rw [same]
  rfl

end StageZero
