import StageZero.Proofs.Shown

/-! What the names in generated C++ denote. A source file has one name space for functions and one for
variables, and C++ has one for both: in a block, a local hides the function of its name from its
declarator on, so also in its own initializer. -/
namespace StageZero

/-! ### Calls and bindings of a program -/

namespace Program

mutual

def Expression.calls : Expression → List String
  | .call callee _ => [callee]
  | .print _ _ arguments => callsAll arguments
  | .variable .. | .number _ | .quotation _ | .garbage => []

def callsAll : List Expression → List String
  | [] => []
  | argument :: later => argument.calls ++ callsAll later

end

def Statement.calls : Statement → List String
  | .let _ _ initial _ => initial.calls
  | .return none _ => []
  | .return (some value) _ | .expression value _ => value.calls

def Statement.binds : Statement → List String
  | .let name .. => [name]
  | .return .. | .expression .. => []

end Program

namespace Cxx
open Program (Expression Statement Function)

/-! ### Calls and declarations of generated text -/

def Operand.calls : Operand → List String
  | .call callee => [callee]
  | .number _ | .quotation _ | .variable _ => []

def Value.calls : Value → List String
  | .plain operand => operand.calls
  | .print _ _ more => more.flatMap fun item => item.1.calls

def Line.calls : Line → List String
  | .declaration _ _ initial => initial.calls
  | .return none => []
  | .return (some value) | .expression value => value.calls

def Line.declares : Line → List String
  | .declaration _ name _ => [name]
  | .return _ | .expression _ => []

inductive Entity where
  | local (name : String)
  | function (name : String)

/-- What a name denotes in a block of a namespace, where some locals are in scope. -/
def denoted? (functions locals : List String) (name : String) : Option Entity :=
  if name ∈ locals then some (.local name)
  else if name ∈ functions then some (.function name)
  else none

/-- The calls in a block, each with what the name that is called denotes there. -/
def calledIn (functions : List String) (locals : List String) : List Line → List (String × Option Entity)
  | [] => []
  | line :: later =>
    let scope := line.declares ++ locals
    line.calls.map (fun callee => (callee, denoted? functions scope callee)) ++ calledIn functions scope later

/-- In what is generated for each body, every call denotes the function that is called. -/
def KeepsCalls (program : Program) : Prop :=
  ∀ function ∈ program.functions, ∃ lines,
    ((function.body.map statementLine).map fun row => readLine row.toList) = lines.map some ∧
      ∀ call ∈ calledIn (program.functions.map Function.name) [] lines, call.2 = some (.function call.1)

/-- No statement of a body calls what it binds itself or what a statement before it has bound. -/
def Uncaptured (body : List Statement) : Prop :=
  ∀ before statement after, body = before ++ statement :: after →
    ∀ callee ∈ statement.calls, ∀ earlier ∈ before ++ [statement], callee ∉ earlier.binds

section
variable {functions context : Typing.Context}

theorem Operand.Shows.calls_eq {operand : Operand} {value : Expression}
    (shows : operand.Shows functions context value) : operand.calls = value.calls := by
  cases shows <;> rw [Operand.calls, Expression.calls]

theorem ShowsMore.calls_eq {more : List (Operand × String)} {arguments : List Expression} {pieces : List String}
    (shows : ShowsMore functions context more arguments pieces) :
    (more.flatMap fun item => item.1.calls) = Program.callsAll arguments := by
  induction shows with
  | nil => rw [Program.callsAll]; rfl
  | cons operand _ ih => rw [List.flatMap_cons, Program.callsAll, operand.calls_eq, ih]

theorem Value.Shows.calls_eq {value : Value} {tree : Expression} (shows : value.Shows functions context tree) :
    value.calls = tree.calls := by
  cases shows with
  | plain operand => exact operand.calls_eq
  | print more => rw [Value.calls, Expression.calls, more.calls_eq]

theorem Line.Shows.calls_eq {next : Typing.Context} {line : Line} {statement : Statement}
    (shows : line.Shows functions context statement next) : line.calls = statement.calls := by
  cases shows with
  | returnNothing => rfl
  | declaration _ _ _ value | «return» value | expression value => exact value.calls_eq

theorem Line.Shows.declares_eq {next : Typing.Context} {line : Line} {statement : Statement}
    (shows : line.Shows functions context statement next) : line.declares = statement.binds := by
  cases shows <;> rfl

/-! ### Only functions are called -/

theorem Operand.Shows.declared {operand : Operand} {value : Expression}
    (shows : operand.Shows functions context value) : ∀ callee ∈ operand.calls, callee ∈ functions.map Prod.fst := by
  cases shows with
  | number | quotation | «variable» => exact List.forall_mem_nil _
  | call _ member => exact List.forall_mem_singleton.mpr (List.mem_map_of_mem member)

theorem ShowsMore.declared {more : List (Operand × String)} {arguments : List Expression} {pieces : List String}
    (shows : ShowsMore functions context more arguments pieces) :
    ∀ callee ∈ more.flatMap fun item => item.1.calls, callee ∈ functions.map Prod.fst := by
  induction shows with
  | nil => exact List.forall_mem_nil _
  | cons operand _ ih => exact List.forall_mem_append.mpr ⟨operand.declared, ih⟩

theorem Value.Shows.declared {value : Value} {tree : Expression} (shows : value.Shows functions context tree) :
    ∀ callee ∈ value.calls, callee ∈ functions.map Prod.fst := by
  cases shows with
  | plain operand => exact operand.declared
  | print more => exact more.declared

theorem Line.Shows.declared {next : Typing.Context} {line : Line} {statement : Statement}
    (shows : line.Shows functions context statement next) : ∀ callee ∈ line.calls, callee ∈ functions.map Prod.fst := by
  cases shows with
  | returnNothing => exact List.forall_mem_nil _
  | declaration _ _ _ value | «return» value | expression value => exact value.declared

/-! ### What is called -/

theorem denoted?_eq_function_iff {names locals : List String} {name : String} (declared : name ∈ names) :
    denoted? names locals name = some (.function name) ↔ name ∉ locals := by
  unfold denoted?
  split
  case isTrue hidden => exact ⟨nofun, fun free => absurd hidden free⟩
  case isFalse free => exact ⟨fun _ => free, fun _ => rfl⟩

/-- What holds of each statement behind those before it, in a body with a first statement. -/
theorem forall_split_cons {first : Statement} {body : List Statement} {P : List Statement → Statement → Prop} :
    (∀ before statement after, first :: body = before ++ statement :: after → P before statement) ↔
      P [] first ∧ ∀ before statement after, body = before ++ statement :: after → P (first :: before) statement := by
  constructor
  · intro every
    exact ⟨every [] first body rfl, fun before statement after there => every (first :: before) statement after (there ▸ rfl)⟩
  · rintro ⟨here, later⟩ before statement after there
    cases before with
    | nil =>
        cases there
        exact here
    | cons other before =>
        cases there
        exact later before statement after rfl

-- The induction goes along the body, and the locals declared so far are those in scope.
theorem calledIn_denotes_iff {locals : List String} {lines : List Line} {body : List Statement}
    (shows : ShowsBody functions context lines body) :
    (∀ call ∈ calledIn (functions.map Prod.fst) locals lines, call.2 = some (.function call.1)) ↔
      ∀ before statement after, body = before ++ statement :: after → ∀ callee ∈ statement.calls,
        callee ∉ locals ∧ ∀ earlier ∈ before ++ [statement], callee ∉ earlier.binds := by
  induction shows generalizing locals with
  | nil => simp [calledIn]
  | cons first _ ih =>
      rw [calledIn, List.forall_mem_append, ih, List.forall_mem_map, forall_split_cons, first.declares_eq, first.calls_eq]
      refine and_congr ?_ ?_
      · refine forall_congr' fun callee => imp_congr_right fun member => ?_
        have declared := first.declared callee (first.calls_eq ▸ member)
        rw [denoted?_eq_function_iff declared, List.mem_append, not_or, List.nil_append, List.forall_mem_singleton,
          and_comm]
      · refine forall_congr' fun before => forall_congr' fun statement => forall_congr' fun after =>
          imp_congr_right fun _ => forall_congr' fun callee => imp_congr_right fun _ => ?_
        rw [List.mem_append, not_or, List.cons_append, List.forall_mem_cons, and_comm (a := callee ∉ Statement.binds _),
          and_assoc]

end

theorem signatures_fst (program : Program) : program.signatures.map Prod.fst = program.functions.map Function.name := by
  rw [Program.signatures, List.map_map]
  rfl

theorem keepsCalls_of_legible {program : Program} (legible : Legible program) :
    KeepsCalls program ↔ ∀ function ∈ program.functions, Uncaptured function.body := by
  refine forall_congr' fun function => imp_congr_right fun member => ?_
  obtain ⟨lines, shows⟩ := legible.bodies function member
  have denotes := @calledIn_denotes_iff _ _ [] lines function.body shows
  simp only [List.not_mem_nil, not_false_eq_true, true_and, signatures_fst] at denotes
  rw [Uncaptured, ← denotes]
  constructor
  · rintro ⟨others, read, calls⟩
    rwa [shows.eq_of_read read]
  · exact fun calls => ⟨lines, shows.read, calls⟩

/-- In what is generated for an accepted text, every call denotes the function that is called just if
no variable of its name is bound by then. -/
theorem keepsCalls_iff {file : FileId} {text : String} (accepted : Accepted file text) :
    KeepsCalls (programOf file text) ↔ ∀ function ∈ (programOf file text).functions, Uncaptured function.body :=
  keepsCalls_of_legible (legible_of_accepted accepted)

theorem uncaptured_singleton {statement : Statement} :
    Uncaptured [statement] ↔ ∀ callee ∈ statement.calls, callee ∉ statement.binds := by
  rw [Uncaptured, forall_split_cons, List.nil_append]
  simp only [List.forall_mem_singleton]
  refine and_iff_left fun before other after there => ?_
  exact absurd there.symm (List.append_ne_nil_of_right_ne_nil _ (List.cons_ne_nil _ _))

/-- A `main` that binds a variable to what the function `f` returns. -/
def bindsCall (bound : String) : Tree.File :=
  let place (start stop : Nat) : Span := ⟨⟨0⟩, start, stop⟩
  ⟨[⟨"main", place 9 13, none, [.let bound (place 22 23) (.call "f" [] (place 26 29))]⟩,
    ⟨"f", place 41 42, some ⟨"i64", place 48 51⟩, [.return (some (.number 1 (place 61 62))) (place 54 62)]⟩]⟩

theorem accepted_bindsCall {text bound : String} (scanned : (scan ⟨0⟩ text).faults = [])
    (tokens : (scan ⟨0⟩ text).stream.tokens = [
      ⟨.function, ⟨⟨0⟩, 0, 8⟩⟩, ⟨.name "main", ⟨⟨0⟩, 9, 13⟩⟩, ⟨.openParen, ⟨⟨0⟩, 13, 14⟩⟩,
      ⟨.closeParen, ⟨⟨0⟩, 14, 15⟩⟩, ⟨.openBrace, ⟨⟨0⟩, 16, 17⟩⟩, ⟨.let, ⟨⟨0⟩, 18, 21⟩⟩,
      ⟨.name bound, ⟨⟨0⟩, 22, 23⟩⟩, ⟨.equals, ⟨⟨0⟩, 24, 25⟩⟩, ⟨.name "f", ⟨⟨0⟩, 26, 27⟩⟩,
      ⟨.openParen, ⟨⟨0⟩, 27, 28⟩⟩, ⟨.closeParen, ⟨⟨0⟩, 28, 29⟩⟩, ⟨.closeBrace, ⟨⟨0⟩, 30, 31⟩⟩,
      ⟨.newline, ⟨⟨0⟩, 31, 32⟩⟩, ⟨.function, ⟨⟨0⟩, 32, 40⟩⟩, ⟨.name "f", ⟨⟨0⟩, 41, 42⟩⟩,
      ⟨.openParen, ⟨⟨0⟩, 42, 43⟩⟩, ⟨.closeParen, ⟨⟨0⟩, 43, 44⟩⟩, ⟨.arrow, ⟨⟨0⟩, 45, 47⟩⟩,
      ⟨.name "i64", ⟨⟨0⟩, 48, 51⟩⟩, ⟨.openBrace, ⟨⟨0⟩, 52, 53⟩⟩, ⟨.return, ⟨⟨0⟩, 54, 60⟩⟩,
      ⟨.number 1, ⟨⟨0⟩, 61, 62⟩⟩, ⟨.closeBrace, ⟨⟨0⟩, 63, 64⟩⟩]) :
    Accepted ⟨0⟩ text ∧ (programOf ⟨0⟩ text).functions.map Function.body =
      [[.let bound .i64 (.call "f" .i64) ⟨⟨0⟩, 22, 29⟩], [.return (some (.number 1)) ⟨⟨0⟩, 54, 62⟩]] := by
  have blank : Tree.Grammar.Newlines [] := List.forall_mem_nil _
  have separated : Tree.Grammar.Separators [] := List.forall_mem_nil _
  have newline : Tree.Grammar.Newlines [⟨.newline, ⟨⟨0⟩, 31, 32⟩⟩] := List.forall_mem_singleton.mpr rfl
  have derived : Tree.Grammar.File (scan ⟨0⟩ text).stream.tokens (bindsCall bound) := by
    rw [tokens]
    refine (.file blank (.more (.plain blank (.full separated (.last (.let (.call blank .none)) separated))) newline
      (.more (.typed blank (.full separated (.last (.return .number) separated))) blank .none)) :
        Tree.Grammar.File _ _)
  obtain ⟨accepted, read⟩ := Accepted.of_derived scanned derived rfl
  refine ⟨accepted, ?_⟩
  rw [programOf, read]
  rfl

theorem keepsCalls_iff_other_name :
    let text := "function main() \x7b let x = f() \x7d\nfunction f() -> i64 \x7b return 1 \x7d"
    Accepted ⟨0⟩ text ∧ KeepsCalls (programOf ⟨0⟩ text) := by
  intro text
  obtain ⟨accepted, bodies⟩ := @accepted_bindsCall text "x" (by decide +kernel) (by decide +kernel)
  refine ⟨accepted, (keepsCalls_iff accepted).mpr fun function member => ?_⟩
  have body := List.mem_map_of_mem (f := Function.body) member
  rw [bodies] at body
  rcases List.mem_cons.mp body with same | there
  · rw [same]
    exact uncaptured_singleton.mpr (by decide)
  · rw [List.mem_singleton.mp there]
    exact uncaptured_singleton.mpr (by decide)

/-- An accepted text in which a call is captured: C++ reads `f` as the variable that is being bound. -/
theorem not_keepsCalls_own_name :
    let text := "function main() \x7b let f = f() \x7d\nfunction f() -> i64 \x7b return 1 \x7d"
    Accepted ⟨0⟩ text ∧ ¬ KeepsCalls (programOf ⟨0⟩ text) := by
  intro text
  obtain ⟨accepted, bodies⟩ := @accepted_bindsCall text "f" (by decide +kernel) (by decide +kernel)
  refine ⟨accepted, fun keeps => ?_⟩
  have free := (keepsCalls_of_legible (legible_of_accepted accepted)).mp keeps
  have body : [.let "f" .i64 (.call "f" .i64) ⟨⟨0⟩, 22, 29⟩] ∈ (programOf ⟨0⟩ text).functions.map Function.body := by
    rw [bodies]
    exact List.mem_cons_self ..
  obtain ⟨main, member, same⟩ := List.mem_map.mp body
  have own := uncaptured_singleton.mp (same ▸ free main member)
  exact absurd own (by decide)

end Cxx
end StageZero
