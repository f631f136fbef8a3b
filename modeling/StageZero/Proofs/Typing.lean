import Mathlib.Data.List.Forall2
import StageZero.Program.Basic
import StageZero.Proofs.Format
import StageZero.Tree.Basic

/-! The type system of source files, with the checked program that each derivation builds. There is
no rule for garbage, and no type is unknown. -/
namespace StageZero

namespace Tree

/-- An expression without garbage. -/
inductive Expression.Whole : Expression → Prop
  | call {callee items span} : (∀ item ∈ items, Whole item) → Whole (.call callee items span)
  | variable {name span} : Whole (.variable name span)
  | number {value span} : Whole (.number value span)
  | quotation {text span} : Whole (.quotation text span)

inductive Statement.Whole : Statement → Prop
  | let {name nameSpan initial} : initial.Whole → Whole (.let name nameSpan initial)
  | returnNothing {span} : Whole (.return none span)
  | return {value span} : value.Whole → Whole (.return (some value) span)
  | expression {value} : value.Whole → Whole (.expression value)

def File.Whole (file : File) : Prop :=
  ∀ function ∈ file.functions, ∀ statement ∈ function.body, statement.Whole

end Tree

namespace Typing

/-- The functions that print, and where they print to. -/
inductive Prints : String → Program.Target → Prop
  | println : Prints "println" .output
  | eprintln : Prints "eprintln" .errors

/-- The type that is written behind an arrow, or void without an arrow. -/
inductive Written : Option Tree.Named → Ty → Prop
  | nothing : Written none .void
  | void {span} : Written (some ⟨"void", span⟩) .void
  | i64 {span} : Written (some ⟨"i64", span⟩) .i64
  | string {span} : Written (some ⟨"String", span⟩) .string

/-- The variables in scope. -/
abbrev Context := List (String × Ty)

section
variable (functions : String → Ty → Prop) (context : Context)

mutual

inductive Expression : Tree.Expression → Ty → Program.Expression → Prop
  | number {value span} : Expression (.number value span) .i64 (.number value)
  | quotation {text span} : Expression (.quotation text span) .string (.quotation text)
  | variable {name type span} : (name, type) ∈ context →
      Expression (.variable name span) type (.variable name type)
  | call {callee type span} : (∀ target, ¬ Prints callee target) → functions callee type →
      Expression (.call callee [] span) type (.call callee type)
  | print {callee target text textSpan items span pieces arguments} : Prints callee target →
      Printed items arguments → items.length = Program.placeholders text.toList →
      Program.Splits text.toList (pieces.map String.toList) →
      Expression (.call callee (.quotation text textSpan :: items) span) .void
        (.print target pieces arguments)

/-- Expressions that have something to print. -/
inductive Printed : List Tree.Expression → List Program.Expression → Prop
  | nil : Printed [] []
  | cons {item type argument items arguments} : Expression item type argument → type ≠ .void →
      Printed items arguments → Printed (item :: items) (argument :: arguments)

end

end

section
variable (functions : String → Ty → Prop) (returnType : Ty)

/-- A statement between the variables before it and those behind it. -/
inductive Statement : Context → Tree.Statement → Context → Program.Statement → Prop
  | let {context name nameSpan initial type value} : Expression functions context initial type value →
      type = .i64 ∨ type = .string → (∀ bound, (name, bound) ∉ context) →
      Statement context (.let name nameSpan initial) ((name, type) :: context)
        (.let name type value (nameSpan.cover initial.span))
  | returnNothing {context span} : returnType = .void →
      Statement context (.return none span) context (.return none span)
  | return {context tree span value} : Expression functions context tree returnType value →
      Statement context (.return (some tree) span) context (.return (some value) span)
  | expression {context tree type value} : Expression functions context tree type value →
      Statement context (.expression tree) context (.expression value tree.span)

inductive Statements : Context → List Tree.Statement → List Program.Statement → Prop
  | nil {context} : Statements context [] []
  | cons {context tree next statement trees statements} :
      Statement functions returnType context tree next statement →
      Statements next trees statements → Statements context (tree :: trees) (statement :: statements)

end

/-- A body starts with no variables. If something is to be returned, it has a return. -/
inductive Function (functions : String → Ty → Prop) : Tree.Function → Program.Function → Prop
  | function {function type body} : Written function.returnType type →
      Statements functions type [] function.body body →
      type = .void ∨ (∃ value span, .return value span ∈ function.body) →
      Function functions function ⟨function.name, type, body⟩

/-- Some function of a file has this name and this return type. -/
def Declares (tree : Tree.File) (name : String) (type : Ty) : Prop :=
  ∃ function ∈ tree.functions, function.name = name ∧ Written function.returnType type

structure File (tree : Tree.File) (program : Program) : Prop where
  distinct : (tree.functions.map Tree.Function.name).Nodup
  own : ∀ function ∈ tree.functions, ∀ target, ¬ Prints function.name target
  main : ∃ type, Declares tree "main" type ∧ (type = .void ∨ type = .i64)
  functions : List.Forall₂ (Function (Declares tree)) tree.functions program.functions

theorem Written.known {written : Option Tree.Named} {type : Ty} (derived : Written written type) :
    type ≠ .unknown := by
  cases derived <;> exact nofun

theorem Function.written {functions : String → Ty → Prop} {function : Tree.Function}
    {checked : Program.Function} (derived : Function functions function checked) :
    Written function.returnType checked.returnType := by
  cases derived with
  | function written => exact written

/-- A checked expression shows the type that it was derived with. -/
theorem Expression.type_eq {functions : String → Ty → Prop} {context : Context} {tree : Tree.Expression}
    {type : Ty} {value : Program.Expression} (derived : Expression functions context tree type value) :
    value.type = type := by
  cases derived <;> rfl

end Typing
end StageZero
