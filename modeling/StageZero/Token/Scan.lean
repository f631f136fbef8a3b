import StageZero.Source.Diagnostic
import StageZero.Text.Alphabetic
import StageZero.Text.Numeric
import StageZero.Token.Basic

/-! Tokens from characters. Scanning never stops early: what forms no token becomes garbage and a
fault. Every piece of the text is kept apart as it is read, so the pieces join up to the text. -/
namespace StageZero

/-- Why characters form no token, or less than they spell. -/
inductive LexicalCause where
  | unknownCharacter (c : Char)
  | integerOutOfRange
  | unterminatedString
  | unknownEscape (c : Char)
deriving DecidableEq

def LexicalCause.message : LexicalCause → String
  | .unknownCharacter c => "unknown character '" ++ c.toString ++ "'"
  | .integerOutOfRange => "integer literal out of range"
  | .unterminatedString => "unterminated string literal"
  | .unknownEscape c => "unknown escape sequence '\\" ++ c.toString ++ "'"

instance : Wording LexicalCause where
  phase := "lex"
  message := LexicalCause.message

namespace Token

/-- The number of bytes that encode some characters. -/
def width : List Char → Nat
  | [] => 0
  | c :: cs => c.utf8Size + width cs

def isBlank (c : Char) : Bool := c == ' ' || c == '\t' || c == '\r'

def isNameStart (c : Char) : Bool := Text.isAlphabetic c || c == '_'

def isNamePart (c : Char) : Bool := Text.isAlphabetic c || Text.isNumeric c || c == '_'

/-- A comment runs up to the end of its line. -/
def isInLine (c : Char) : Bool := c != '\n'

/-- The blanks before the next token, and a comment if one follows them. -/
def gap : List Char → List Char
  | [] => []
  | c :: rest =>
    if isBlank c then c :: gap rest
    else if c = '/' ∧ rest.head? = some '/' then (c :: rest).takeWhile isInLine
    else []

/-- What the gap leaves. -/
def afterGap : List Char → List Char
  | [] => []
  | c :: rest =>
    if isBlank c then afterGap rest
    else if c = '/' ∧ rest.head? = some '/' then (c :: rest).dropWhile isInLine
    else c :: rest

theorem gap_append_afterGap (cs : List Char) : gap cs ++ afterGap cs = cs := by
  induction cs with
  | nil => rfl
  | cons c rest ih =>
    simp only [gap, afterGap]
    split
    · simp [ih]
    · split
      · exact List.takeWhile_append_dropWhile
      · rfl

theorem afterGap_length_le (cs : List Char) : (afterGap cs).length ≤ cs.length := by
  have whole := congrArg List.length (gap_append_afterGap cs)
  rw [List.length_append] at whole
  omega

/-- The character that an escape sequence stands for. -/
def escape? : Char → Option Char
  | 'n' => some '\n'
  | 't' => some '\t'
  | 'r' => some '\r'
  | '0' => some '\x00'
  | '"' => some '"'
  | '\\' => some '\\'
  | _ => none

/-- A string literal from behind its opening quote. -/
structure Quotation where
  /-- The characters read, with the closing quote if there is one. -/
  body : List Char
  rest : List Char
  value : List Char
  closed : Bool
  /-- The escapes without a meaning: where each backslash stands, and what follows it. -/
  strays : List (Nat × Char)

/-- Reads a string literal whose first character stands at `offset`. A backslash at the end of a
line or of the text escapes nothing: the literal is unterminated there. -/
def quotation (offset : Nat) : List Char → Quotation
  | [] => ⟨[], [], [], false, []⟩
  | '\n' :: rest => ⟨[], '\n' :: rest, [], false, []⟩
  | '"' :: rest => ⟨['"'], rest, [], true, []⟩
  | ['\\'] => ⟨['\\'], [], [], false, []⟩
  | '\\' :: '\n' :: rest => ⟨['\\'], '\n' :: rest, [], false, []⟩
  | '\\' :: c :: rest =>
    let q := quotation (offset + 1 + c.utf8Size) rest
    match escape? c with
    | some meant => { q with body := '\\' :: c :: q.body, value := meant :: q.value }
    | none => { q with body := '\\' :: c :: q.body, strays := (offset, c) :: q.strays }
  | c :: rest =>
    let q := quotation (offset + c.utf8Size) rest
    { q with body := c :: q.body, value := c :: q.value }

theorem quotation_body_append_rest (offset : Nat) (cs : List Char) :
    (quotation offset cs).body ++ (quotation offset cs).rest = cs := by
  fun_induction quotation offset cs <;> simp_all +zetaDelta

/-- The largest value of an integer literal. -/
def maxNumber : Nat := 9223372036854775807

/-- One token from behind its first character. -/
structure Lexeme where
  symbol : Symbol
  /-- The characters after the first. -/
  more : List Char
  rest : List Char
  faults : List (Fault LexicalCause)

/-- Reads the token whose first character is `c`, at `start` in `file`. -/
def lexeme (file : FileId) (start : Nat) (c : Char) (cs : List Char) : Lexeme :=
  let single (symbol : Symbol) : Lexeme := ⟨symbol, [], cs, []⟩
  let unknown : Lexeme :=
    ⟨.garbage, [], cs, [⟨.unknownCharacter c, ⟨file, start, start + c.utf8Size⟩⟩]⟩
  match c with
  | '\n' => single .newline
  | '(' => single .openParen
  | ')' => single .closeParen
  | '{' => single .openBrace
  | '}' => single .closeBrace
  | ',' => single .comma
  | ';' => single .semicolon
  | ':' => single .colon
  | '=' => single .equals
  | '-' =>
    match cs with
    | '>' :: rest => ⟨.arrow, ['>'], rest, []⟩
    | _ => unknown
  | '"' =>
    let q := quotation (start + 1) cs
    let strays := q.strays.map fun (place, c) =>
      ⟨.unknownEscape c, ⟨file, place, place + 1 + c.utf8Size⟩⟩
    if q.closed then ⟨.quotation (String.ofList q.value), q.body, q.rest, strays⟩
    else
      let span := ⟨file, start, start + 1 + width q.body⟩
      ⟨.garbage, q.body, q.rest, strays ++ [⟨.unterminatedString, span⟩]⟩
  | _ =>
    if c.isDigit then
      let digits := cs.takeWhile Char.isDigit
      let rest := cs.dropWhile Char.isDigit
      let value := Nat.ofDigitChars 10 (c :: digits) 0
      if value ≤ maxNumber then ⟨.number value, digits, rest, []⟩
      else
        let span := ⟨file, start, start + width (c :: digits)⟩
        ⟨.garbage, digits, rest, [⟨.integerOutOfRange, span⟩]⟩
    else if isNameStart c then
      let more := cs.takeWhile isNamePart
      ⟨Symbol.ofWord (String.ofList (c :: more)), more, cs.dropWhile isNamePart, []⟩
    else unknown

theorem lexeme_more_append_rest (file : FileId) (start : Nat) (c : Char) (cs : List Char) :
    (lexeme file start c cs).more ++ (lexeme file start c cs).rest = cs := by
  unfold lexeme
  dsimp only
  split <;> try rfl
  · split <;> rfl
  · split <;> exact quotation_body_append_rest _ _
  · split
    · split <;> exact List.takeWhile_append_dropWhile
    · split
      · exact List.takeWhile_append_dropWhile
      · rfl

theorem lexeme_rest_length_le (file : FileId) (start : Nat) (c : Char) (cs : List Char) :
    (lexeme file start c cs).rest.length ≤ cs.length := by
  have whole := congrArg List.length (lexeme_more_append_rest file start c cs)
  rw [List.length_append] at whole
  omega

end Token

/-- The stream of some characters and the faults in them. -/
structure Scan where
  stream : Stream
  faults : List (Fault LexicalCause)

namespace Scan

/-- Scans characters that stand at `offset` in `file`. -/
def ofChars (file : FileId) (offset : Nat) (cs : List Char) : Scan :=
  let start := offset + Token.width (Token.gap cs)
  match _found : Token.afterGap cs with
  | [] => ⟨⟨[], ⟨file, start, start⟩⟩, []⟩
  | c :: rest =>
    let next := Token.lexeme file start c rest
    let stop := start + Token.width (c :: next.more)
    let later := ofChars file stop next.rest
    ⟨⟨⟨next.symbol, ⟨file, start, stop⟩⟩ :: later.stream.tokens, later.stream.stop⟩,
      next.faults ++ later.faults⟩
termination_by cs.length
decreasing_by
  have gap := Token.afterGap_length_le cs
  have token := Token.lexeme_rest_length_le file (offset + Token.width (Token.gap cs)) c rest
  rw [_found, List.length_cons] at gap
  omega

end Scan

/-- Splits a source text into tokens. -/
def scan (file : FileId) (text : String) : Scan := Scan.ofChars file 0 text.toList

end StageZero
