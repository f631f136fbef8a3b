import StageZero.Proofs.Grammar
import StageZero.Proofs.Scanning

/-! The symbols that a tree is made of. A derivation puts no symbol into its tree that is not among the
tokens, so what holds of each token holds of the tree. -/
namespace StageZero

namespace Tree

/-- An expression made of symbols that have a property. -/
inductive Expression.Each (P : Symbol → Prop) : Expression → Prop
  | call {callee items span} : P (.name callee) → (∀ item ∈ items, Each P item) → Each P (.call callee items span)
  | variable {name span} : P (.name name) → Each P (.variable name span)
  | number {value span} : P (.number value) → Each P (.number value span)
  | quotation {text span} : P (.quotation text) → Each P (.quotation text span)
  | garbage {span} : P .garbage → Each P (.garbage span)

inductive Statement.Each (P : Symbol → Prop) : Statement → Prop
  | let {name nameSpan initial} : P (.name name) → initial.Each P → Each P (.let name nameSpan initial)
  | returnNothing {span} : Each P (.return none span)
  | return {value span} : value.Each P → Each P (.return (some value) span)
  | expression {value} : value.Each P → Each P (.expression value)

structure Function.Each (P : Symbol → Prop) (function : Function) : Prop where
  name : P (.name function.name)
  returnType : ∀ written ∈ function.returnType, P (.name written.name)
  body : ∀ statement ∈ function.body, statement.Each P

def File.Each (P : Symbol → Prop) (file : File) : Prop := ∀ function ∈ file.functions, function.Each P

end Tree

namespace Tree.Grammar
variable {P : Symbol → Prop}

theorem Expression.each {tokens : List Token} {tree : Tree.Expression} (derived : Expression tokens tree)
    (each : Token.Each P tokens) : tree.Each P := by
  refine @Expression.rec (fun tokens tree _ => Token.Each P tokens → tree.Each P)
    (fun tokens items _ => Token.Each P tokens → ∀ item ∈ items, item.Each P)
    (fun tokens items _ => Token.Each P tokens → ∀ item ∈ items, item.Each P)
    ?number ?quotation ?garbage ?name ?call ?none ?some ?last ?more _ _ derived each
  case number => exact fun each => .number (Token.Each.cons_iff.mp each).1
  case quotation => exact fun each => .quotation (Token.Each.cons_iff.mp each).1
  case garbage => exact fun each => .garbage (Token.Each.cons_iff.mp each).1
  case name => exact fun each => .variable (Token.Each.cons_iff.mp each).1
  case call =>
    intro name span opening gap tokens items closing _ _ ih each
    obtain ⟨callee, behindName⟩ := Token.Each.cons_iff.mp each
    obtain ⟨-, inside⟩ := Token.Each.cons_iff.mp behindName
    obtain ⟨listed, -⟩ := Token.Each.append_iff.mp inside
    exact .call callee (ih (Token.Each.append_iff.mp listed).2)
  case none => exact fun _ => List.forall_mem_nil _
  case some => exact fun _ ih each => ih each
  case last =>
    intro tokens item gap _ _ ih each
    exact List.forall_mem_singleton.mpr (ih (Token.Each.append_iff.mp each).1)
  case more =>
    intro tokens item gap comma next rest items _ _ _ _ ih ihLater each
    obtain ⟨front, behind⟩ := Token.Each.append_iff.mp each
    obtain ⟨-, later⟩ := Token.Each.cons_iff.mp behind
    exact List.forall_mem_cons.mpr
      ⟨ih (Token.Each.append_iff.mp front).1, ihLater (Token.Each.append_iff.mp later).2⟩

theorem Statement.each {tokens : List Token} {statement : Tree.Statement}
    (derived : Statement tokens statement) (each : Token.Each P tokens) : statement.Each P := by
  cases derived with
  | «let» initial =>
      obtain ⟨-, behindLet⟩ := Token.Each.cons_iff.mp each
      obtain ⟨name, behindName⟩ := Token.Each.cons_iff.mp behindLet
      exact .let name (initial.each (Token.Each.cons_iff.mp behindName).2)
  | returnNothing => exact .returnNothing
  | «return» value => exact .return (value.each (Token.Each.cons_iff.mp each).2)
  | expression value => exact .expression (value.each each)

theorem Statements.each {tokens : List Token} {statements : List Tree.Statement}
    (derived : Statements tokens statements) (each : Token.Each P tokens) :
    ∀ statement ∈ statements, statement.Each P := by
  induction derived with
  | last statement =>
      exact List.forall_mem_singleton.mpr (statement.each (Token.Each.append_iff.mp each).1)
  | more statement _ _ _ ih =>
      obtain ⟨front, later⟩ := Token.Each.append_iff.mp each
      exact List.forall_mem_cons.mpr ⟨statement.each (Token.Each.append_iff.mp front).1, ih later⟩

theorem Block.each {tokens : List Token} {body : List Tree.Statement} (derived : Block tokens body)
    (each : Token.Each P tokens) : ∀ statement ∈ body, statement.Each P := by
  cases derived with
  | empty => exact List.forall_mem_nil _
  | full _ statements =>
      obtain ⟨-, inside⟩ := Token.Each.cons_iff.mp each
      obtain ⟨listed, -⟩ := Token.Each.append_iff.mp inside
      exact statements.each (Token.Each.append_iff.mp listed).2

theorem Function.each {tokens : List Token} {function : Tree.Function} (derived : Function tokens function)
    (each : Token.Each P tokens) : function.Each P := by
  cases derived with
  | plain _ block =>
      obtain ⟨-, behindKeyword⟩ := Token.Each.cons_iff.mp each
      obtain ⟨name, behindName⟩ := Token.Each.cons_iff.mp behindKeyword
      obtain ⟨-, behindOpening⟩ := Token.Each.cons_iff.mp behindName
      obtain ⟨-, behindClosing⟩ := Token.Each.cons_iff.mp behindOpening
      exact ⟨name, nofun, block.each (Token.Each.append_iff.mp behindClosing).2⟩
  | typed _ block =>
      obtain ⟨-, behindKeyword⟩ := Token.Each.cons_iff.mp each
      obtain ⟨name, behindName⟩ := Token.Each.cons_iff.mp behindKeyword
      obtain ⟨-, behindOpening⟩ := Token.Each.cons_iff.mp behindName
      obtain ⟨-, behindClosing⟩ := Token.Each.cons_iff.mp behindOpening
      obtain ⟨-, behindArrow⟩ := Token.Each.cons_iff.mp behindClosing
      obtain ⟨type, behindType⟩ := Token.Each.cons_iff.mp behindArrow
      refine ⟨name, ?_, block.each (Token.Each.append_iff.mp behindType).2⟩
      rintro written ⟨rfl⟩
      exact type

theorem Functions.each {tokens : List Token} {functions : List Tree.Function}
    (derived : Functions tokens functions) (each : Token.Each P tokens) :
    ∀ function ∈ functions, function.Each P := by
  induction derived with
  | none => exact List.forall_mem_nil _
  | more function _ _ ih =>
      obtain ⟨front, later⟩ := Token.Each.append_iff.mp each
      exact List.forall_mem_cons.mpr ⟨function.each (Token.Each.append_iff.mp front).1, ih later⟩

theorem File.each {tokens : List Token} {file : Tree.File} (derived : File tokens file)
    (each : Token.Each P tokens) : file.Each P := by
  obtain ⟨_, functions⟩ := derived
  exact functions.each (Token.Each.append_iff.mp each).2

end Tree.Grammar
end StageZero
