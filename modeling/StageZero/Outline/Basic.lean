import StageZero.Text.Margin
import StageZero.Text.Quoted

/-! Values written out over indented lines, for reading a tree or a program as it is stored. -/
namespace StageZero

inductive Outline where
  | atom (text : String)
  | field (name : String) (value : Outline)
  /-- Items on lines of their own between an opening and a closing text. -/
  | group (opening closing : String) (items : List Outline)

namespace Outline

mutual

def render (depth : Nat) : Outline → String
  | .atom text => text
  | .field name value => name ++ ": " ++ render depth value
  | .group opening closing [] => opening ++ closing
  | .group opening closing (item :: later) =>
    opening ++ "\n" ++ (Text.margin (depth + 1) ++ render (depth + 1) item ++ ",\n") ++
      renderItems (depth + 1) later ++ Text.margin depth ++ closing

def renderItems (depth : Nat) : List Outline → String
  | [] => ""
  | item :: later => Text.margin depth ++ render depth item ++ ",\n" ++ renderItems depth later

end

def display (outline : Outline) : String := render 0 outline

def text (text : String) : Outline := .atom (Text.quoted text)

def nat (value : Nat) : Outline := .atom (toString value)

def int (value : Int) : Outline := .atom (toString value)

def record (name : String) (fields : List (String × Outline)) : Outline :=
  .group (name ++ " \x7b") "\x7d" (fields.map fun (name, value) => .field name value)

def tuple (name : String) (items : List Outline) : Outline := .group (name ++ "(") ")" items

def list (items : List Outline) : Outline := .group "[" "]" items

def option : Option Outline → Outline
  | none => .atom "None"
  | some value => tuple "Some" [value]

end Outline
end StageZero
