/-! Text inside the quotes of a C++ string literal. -/
namespace StageZero.Cxx

def isControl (c : Char) : Bool := c.toNat < 32 || c.toNat == 127

def octal (digit : Nat) : Char := Nat.digitChar (digit % 8)

/-- A control character is written with three octal digits, so that a digit after it is never read
as a part of it. -/
def escaped (c : Char) : List Char :=
  match c with
  | '\\' => ['\\', '\\']
  | '"' => ['\\', '"']
  | '\n' => ['\\', 'n']
  | '\t' => ['\\', 't']
  | '\r' => ['\\', 'r']
  | _ =>
    if isControl c then ['\\', octal (c.toNat / 64), octal (c.toNat / 8), octal c.toNat] else [c]

def escape (text : String) : String := String.ofList (text.toList.flatMap escaped)

end StageZero.Cxx
