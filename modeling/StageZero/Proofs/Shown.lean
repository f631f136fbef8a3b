import StageZero.Proofs.Generated
import StageZero.Proofs.Sources

/-! The statements that lines of generated text show. A line leaves out the types of its names, and the
names in scope give them back, so it shows one statement only. -/
namespace StageZero

/-! ### Programs without places -/

namespace Program

def nowhere : Span := ⟨⟨0⟩, 0, 0⟩

def Statement.unplaced : Statement → Statement
  | .let name type initial _ => .let name type initial nowhere
  | .return value _ => .return value nowhere
  | .expression value _ => .expression value nowhere

def Function.unplaced (function : Function) : Function :=
  { function with body := function.body.map Statement.unplaced }

end Program

/-- A program as it is but for where its statements stand. -/
def Program.unplaced (program : Program) : Program := ⟨program.functions.map Function.unplaced⟩

/-- The names of a program's functions, with their return types. -/
def Program.signatures (program : Program) : Typing.Context :=
  program.functions.map fun function => (function.name, function.returnType)

/-- Names of which each has one type. -/
def Typing.Single (names : Typing.Context) : Prop :=
  ∀ name type other, (name, type) ∈ names → (name, other) ∈ names → type = other

namespace Cxx
open Program (Expression Statement Function Target)
open Token (IsName)
open Typing (Single)

/-! ### What lines show -/

section
variable (functions context : Typing.Context)

/-- The expression that an operand is written for. A name stands for what it names in scope. -/
inductive Operand.Shows : Operand → Expression → Prop
  | number {value} : Shows (.number value) (.number value)
  | quotation {text} : Shows (.quotation text) (.quotation text)
  | variable {name type} : IsName name → (name, type) ∈ context → Shows (.variable name) (.variable name type)
  | call {callee type} : IsName callee → (callee, type) ∈ functions → Shows (.call callee) (.call callee type)

/-- Operands, each with the piece behind it, for arguments and the pieces behind those. -/
inductive ShowsMore : List (Operand × String) → List Expression → List String → Prop
  | nil : ShowsMore [] [] []
  | cons {operand piece more argument arguments pieces} : operand.Shows functions context argument →
      ShowsMore more arguments pieces →
      ShowsMore ((operand, piece) :: more) (argument :: arguments) (piece :: pieces)

inductive Value.Shows : Value → Expression → Prop
  | plain {operand value} : operand.Shows functions context value → Shows (.plain operand) value
  | print {target first more arguments pieces} : ShowsMore functions context more arguments pieces →
      Shows (.print target first more) (.print target (first :: pieces) arguments)

end

section
variable (functions : Typing.Context)

/-- The statement that a line is written for, between the variables before it and those behind it. -/
inductive Line.Shows : Typing.Context → Line → Statement → Typing.Context → Prop
  | declaration {context type name initial value span} : IsName name → type = .i64 ∨ type = .string →
      (∀ bound, (name, bound) ∉ context) → initial.Shows functions context value →
      Shows context (.declaration type name initial) (.let name type value span) ((name, type) :: context)
  | returnNothing {context span} : Shows context (.return none) (.return none span) context
  | return {context value tree span} : value.Shows functions context tree →
      Shows context (.return (some value)) (.return (some tree) span) context
  | expression {context value tree span} : value.Shows functions context tree →
      Shows context (.expression value) (.expression tree span) context

inductive ShowsBody : Typing.Context → List Line → List Statement → Prop
  | nil {context} : ShowsBody context [] []
  | cons {context line lines statement next statements} : line.Shows functions context statement next →
      ShowsBody next lines statements → ShowsBody context (line :: lines) (statement :: statements)

end

/-- A program whose functions have names of their own and bodies that lines show. -/
structure Legible (program : Program) : Prop where
  distinct : (program.functions.map Function.name).Nodup
  named : ∀ function ∈ program.functions, IsName function.name
  bodies : ∀ function ∈ program.functions, ∃ lines, ShowsBody program.signatures [] lines function.body

section
variable {functions context : Typing.Context}

theorem Operand.Shows.legible {operand : Operand} {value : Expression}
    (shows : operand.Shows functions context value) : operand.Legible := by
  cases shows with
  | number | quotation => trivial
  | «variable» named | call named => exact named

theorem ShowsMore.legible {more : List (Operand × String)} {arguments : List Expression} {pieces : List String}
    (shows : ShowsMore functions context more arguments pieces) : ∀ item ∈ more, item.1.Legible := by
  induction shows with
  | nil => exact List.forall_mem_nil _
  | cons first _ ih => exact List.forall_mem_cons.mpr ⟨first.legible, ih⟩

theorem Value.Shows.legible {value : Value} {tree : Expression} (shows : value.Shows functions context tree) :
    value.Legible := by
  cases shows with
  | plain operand => exact operand.legible
  | print more => exact more.legible

theorem Line.Shows.legible {next : Typing.Context} {line : Line} {statement : Statement}
    (shows : line.Shows functions context statement next) : line.Legible := by
  cases shows with
  | declaration named bindable _ initial => exact ⟨bindable, named, initial.legible⟩
  | returnNothing => trivial
  | «return» value | expression value => exact value.legible

theorem ShowsBody.legible {lines : List Line} {body : List Statement} (shows : ShowsBody functions context lines body) :
    ∀ line ∈ lines, line.Legible := by
  induction shows with
  | nil => exact List.forall_mem_nil _
  | cons first _ ih => exact List.forall_mem_cons.mpr ⟨first.legible, ih⟩

/-! ### What is generated is the text of the lines -/

theorem Operand.Shows.text_eq {operand : Operand} {value : Expression}
    (shows : operand.Shows functions context value) : Cxx.expression value = operand.text := by
  cases shows <;> rw [Cxx.expression, Operand.text]

theorem inserted_piece (piece : String) :
    (if piece = "" then "" else inserted ("\"" ++ escape piece ++ "\"")) = pieceText piece := by
  have front : " << " ++ "\"" = " << \"" := by decide
  rw [pieceText, inserted, ← String.append_assoc, ← String.append_assoc, front]

theorem ShowsMore.text_eq {more : List (Operand × String)} {arguments : List Expression} {pieces : List String}
    (shows : ShowsMore functions context more arguments pieces) (first : String) :
    insertions (first :: pieces) (Cxx.expressions arguments) ++ inserted "std::endl" =
      pieceText first ++ moreText more := by
  induction shows generalizing first with
  | nil => rw [Cxx.expressions, insertions, inserted_piece, insertions, String.append_empty, moreText]; rfl
  | cons operand _ ih =>
      rw [Cxx.expressions, insertions, inserted_piece, operand.text_eq, moreText]
      dsimp only
      rw [String.append_assoc, String.append_assoc, ih, inserted]
      simp only [String.append_assoc]

theorem Value.Shows.text_eq {value : Value} {tree : Expression} (shows : value.Shows functions context tree) :
    Cxx.expression tree = value.text := by
  cases shows with
  | plain operand => exact operand.text_eq
  | print more => rw [Cxx.expression, Value.text, String.append_assoc, more.text_eq, String.append_assoc]

theorem Line.Shows.text_eq {next : Typing.Context} {line : Line} {statement : Statement}
    (shows : line.Shows functions context statement next) : statementLine statement = line.text := by
  cases shows with
  | declaration _ _ _ initial => rw [statementLine, Line.text, initial.text_eq]
  | returnNothing => rfl
  | «return» value => rw [statementLine, Line.text, value.text_eq]
  | expression value => rw [statementLine, Line.text, value.text_eq]

theorem ShowsBody.text_eq {lines : List Line} {body : List Statement} (shows : ShowsBody functions context lines body) :
    body.map statementLine = lines.map Line.text := by
  induction shows with
  | nil => rfl
  | cons first _ ih => rw [List.map_cons, List.map_cons, first.text_eq, ih]

/-- The lines of a body are read back from what is generated for it. -/
theorem ShowsBody.read {lines : List Line} {body : List Statement} (shows : ShowsBody functions context lines body) :
    ((body.map statementLine).map fun row => readLine row.toList) = lines.map some := by
  rw [shows.text_eq, List.map_map]
  exact List.map_congr_left fun line member => readLine_text (shows.legible line member)

/-- Nothing else is read there. -/
theorem ShowsBody.eq_of_read {lines others : List Line} {body : List Statement}
    (shows : ShowsBody functions context lines body)
    (read : ((body.map statementLine).map fun row => readLine row.toList) = others.map some) : lines = others :=
  List.map_injective_iff.mpr (fun _ _ => Option.some.inj) (shows.read.symm.trans read)

/-! ### A line shows one statement -/

theorem Operand.Shows.unique (callable : Single functions) (bound : Single context) {operand : Operand}
    {value other : Expression} (shows : operand.Shows functions context value)
    (otherShows : operand.Shows functions context other) : value = other := by
  cases shows with
  | number | quotation => cases otherShows; rfl
  | «variable» _ member =>
      cases otherShows with
      | «variable» _ otherMember => rw [bound _ _ _ member otherMember]
  | call _ member =>
      cases otherShows with
      | call _ otherMember => rw [callable _ _ _ member otherMember]

theorem ShowsMore.unique (callable : Single functions) (bound : Single context) {more : List (Operand × String)}
    {arguments others : List Expression} {pieces otherPieces : List String}
    (shows : ShowsMore functions context more arguments pieces)
    (otherShows : ShowsMore functions context more others otherPieces) : arguments = others ∧ pieces = otherPieces := by
  induction shows generalizing others otherPieces with
  | nil => cases otherShows; exact ⟨rfl, rfl⟩
  | cons first _ ih =>
      cases otherShows with
      | cons otherFirst otherLater =>
          obtain ⟨rfl, rfl⟩ := ih otherLater
          exact ⟨by rw [first.unique callable bound otherFirst], rfl⟩

theorem Value.Shows.unique (callable : Single functions) (bound : Single context) {value : Value}
    {tree other : Expression} (shows : value.Shows functions context tree)
    (otherShows : value.Shows functions context other) : tree = other := by
  cases shows with
  | plain operand =>
      cases otherShows with
      | plain otherOperand => exact operand.unique callable bound otherOperand
  | print more =>
      cases otherShows with
      | print otherMore =>
          obtain ⟨rfl, rfl⟩ := more.unique callable bound otherMore
          rfl

theorem Single.cons {name : String} {type : Ty} (bound : Single context) (fresh : ∀ other, (name, other) ∉ context) :
    Single ((name, type) :: context) := by
  rintro found left right (_ | ⟨_, member⟩) (_ | ⟨_, otherMember⟩)
  · rfl
  · exact absurd otherMember (fresh _)
  · exact absurd member (fresh _)
  · exact bound found left right member otherMember

theorem Line.Shows.unique (callable : Single functions) (bound : Single context)
    {next otherNext : Typing.Context} {line : Line} {statement other : Statement} (shows : line.Shows functions context statement next)
    (otherShows : line.Shows functions context other otherNext) :
    statement.unplaced = other.unplaced ∧ next = otherNext ∧ Single next := by
  cases shows with
  | declaration _ _ fresh initial =>
      cases otherShows with
      | declaration _ _ _ otherInitial =>
          rw [initial.unique callable bound otherInitial]
          exact ⟨rfl, rfl, Single.cons bound fresh⟩
  | returnNothing => cases otherShows; exact ⟨rfl, rfl, bound⟩
  | «return» value =>
      cases otherShows with
      | «return» otherValue =>
          rw [value.unique callable bound otherValue]
          exact ⟨rfl, rfl, bound⟩
  | expression value =>
      cases otherShows with
      | expression otherValue =>
          rw [value.unique callable bound otherValue]
          exact ⟨rfl, rfl, bound⟩

theorem ShowsBody.unique (callable : Single functions) (bound : Single context) {lines : List Line}
    {body other : List Statement} (shows : ShowsBody functions context lines body)
    (otherShows : ShowsBody functions context lines other) :
    body.map Statement.unplaced = other.map Statement.unplaced := by
  induction shows generalizing other with
  | nil => cases otherShows; rfl
  | cons first _ ih =>
      cases otherShows with
      | cons otherFirst otherLater =>
          obtain ⟨same, rfl, boundNext⟩ := first.unique callable bound otherFirst
          rw [List.map_cons, List.map_cons, same, ih boundNext otherLater]

/-! ### Typed statements are shown -/

variable {declared : String → Ty → Prop}

/-- What can be printed is written as an operand: only prints are not, and they are void. -/
theorem exists_operand (calls : ∀ name type, declared name type → (name, type) ∈ functions) {tree : Tree.Expression}
    {type : Ty} {value : Expression} (typed : Typing.Expression declared context tree type value)
    (spelled : tree.Each Symbol.Spellable) (some : type ≠ .void) :
    ∃ operand : Operand, operand.Shows functions context value := by
  cases typed with
  | number => exact ⟨_, .number⟩
  | quotation => exact ⟨_, .quotation⟩
  | «variable» member =>
      cases spelled with
      | «variable» named => exact ⟨_, .variable named member⟩
  | call _ declares =>
      cases spelled with
      | call named => exact ⟨_, .call named (calls _ _ declares)⟩
  | print => exact absurd rfl some

theorem exists_more (calls : ∀ name type, declared name type → (name, type) ∈ functions)
    {items : List Tree.Expression} {arguments : List Expression} (printed : Typing.Printed declared context items arguments)
    (spelled : ∀ item ∈ items, item.Each Symbol.Spellable) {pieces : List String}
    (between : pieces.length = items.length) : ∃ more, ShowsMore functions context more arguments pieces := by
  induction items generalizing arguments pieces with
  | nil =>
      cases printed
      rw [List.eq_nil_of_length_eq_zero between]
      exact ⟨_, .nil⟩
  | cons item items ih =>
      obtain ⟨spelledFirst, spelledLater⟩ := List.forall_mem_cons.mp spelled
      cases printed with
      | cons typed some printedLater =>
          obtain ⟨piece, pieces, rfl⟩ := List.exists_cons_of_length_eq_add_one between
          obtain ⟨operand, first⟩ := exists_operand calls typed spelledFirst some
          obtain ⟨more, later⟩ := ih printedLater spelledLater (Nat.succ.inj between)
          exact ⟨_, .cons first later⟩

theorem exists_value (calls : ∀ name type, declared name type → (name, type) ∈ functions) {tree : Tree.Expression}
    {type : Ty} {value : Expression} (typed : Typing.Expression declared context tree type value)
    (spelled : tree.Each Symbol.Spellable) : ∃ written : Value, written.Shows functions context value := by
  cases typed with
  | number => exact ⟨_, .plain .number⟩
  | quotation => exact ⟨_, .plain .quotation⟩
  | «variable» member =>
      cases spelled with
      | «variable» named => exact ⟨_, .plain (.variable named member)⟩
  | call _ declares =>
      cases spelled with
      | call named => exact ⟨_, .plain (.call named (calls _ _ declares))⟩
  | @print _ _ text _ items _ pieces _ _ printed count splits =>
      have length := Program.length_pieces text
      rw [splits.pieces_eq, ← count] at length
      obtain ⟨first, pieces, rfl⟩ := List.exists_cons_of_length_eq_add_one length
      cases spelled with
      | call _ spelledItems =>
          obtain ⟨more, shows⟩ :=
            exists_more calls printed (List.forall_mem_cons.mp spelledItems).2 (Nat.succ.inj length)
          exact ⟨_, .print shows⟩

theorem exists_line (calls : ∀ name type, declared name type → (name, type) ∈ functions) {returnType : Ty}
    {tree : Tree.Statement} {next : Typing.Context} {statement : Statement}
    (typed : Typing.Statement declared returnType context tree next statement)
    (spelled : tree.Each Symbol.Spellable) : ∃ line : Line, line.Shows functions context statement next := by
  cases typed with
  | «let» typed bindable fresh =>
      cases spelled with
      | «let» named spelled =>
          obtain ⟨written, shows⟩ := exists_value calls typed spelled
          exact ⟨_, .declaration named bindable fresh shows⟩
  | returnNothing => exact ⟨_, .returnNothing⟩
  | «return» typed =>
      cases spelled with
      | «return» spelled =>
          obtain ⟨written, shows⟩ := exists_value calls typed spelled
          exact ⟨_, .return shows⟩
  | expression typed =>
      cases spelled with
      | expression spelled =>
          obtain ⟨written, shows⟩ := exists_value calls typed spelled
          exact ⟨_, .expression shows⟩

theorem exists_lines (calls : ∀ name type, declared name type → (name, type) ∈ functions) {returnType : Ty}
    {trees : List Tree.Statement} {body : List Statement}
    (typed : Typing.Statements declared returnType context trees body)
    (spelled : ∀ tree ∈ trees, tree.Each Symbol.Spellable) : ∃ lines, ShowsBody functions context lines body := by
  induction typed with
  | nil => exact ⟨_, .nil⟩
  | cons first _ ih =>
      obtain ⟨spelledFirst, spelledLater⟩ := List.forall_mem_cons.mp spelled
      obtain ⟨line, shows⟩ := exists_line calls first spelledFirst
      obtain ⟨lines, showsLater⟩ := ih spelledLater
      exact ⟨_, .cons shows showsLater⟩

end

/-- The program of an accepted text can be read off what is generated. -/
theorem legible_of_accepted {file : FileId} {text : String} (accepted : Accepted file text) :
    Legible (programOf file text) := by
  have typed := accepted.typed
  have spelled := accepted.spellable
  have names := Program.map_related typed.functions fun _ _ derived => derived.name_eq
  have calls : ∀ name type, Typing.Declares (treeOf file text) name type →
      (name, type) ∈ (programOf file text).signatures := by
    rintro _ type ⟨function, member, rfl, written⟩
    obtain ⟨checked, there, derived⟩ := Program.exists_right typed.functions member
    have same := Program.written_unique derived.written written
    exact List.mem_map.mpr ⟨checked, there, Prod.ext derived.name_eq same⟩
  refine ⟨names ▸ typed.distinct, ?_, ?_⟩
  · intro checked member
    obtain ⟨function, there, derived⟩ := Program.exists_right typed.functions.flip member
    exact derived.name_eq ▸ (spelled function there).name
  · intro checked member
    obtain ⟨function, there, derived⟩ := Program.exists_right typed.functions.flip member
    cases derived with
    | function _ statements => exact exists_lines calls statements (spelled function there).body

end Cxx
end StageZero
