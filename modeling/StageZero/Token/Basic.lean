import StageZero.Source.Span
import StageZero.Text.Quoted

/-! Tokens, and the stream of them that a source text gives. -/
namespace StageZero

/-- What a token stands for. The end of a text is not a symbol. -/
inductive Symbol where
  | name (text : String)
  | number (value : Int)
  | quotation (text : String)
  | function | let | return
  | openParen | closeParen | openBrace | closeBrace
  | comma | semicolon | colon | equals | arrow
  | newline
  /-- Characters that form no token. -/
  | garbage
deriving DecidableEq

namespace Symbol

def keyword? : String → Option Symbol
  | "function" => some .function
  | "let" => some .let
  | "return" => some .return
  | _ => none

/-- The symbol of a word: a keyword, or else a name. -/
def ofWord (word : String) : Symbol := (keyword? word).getD (.name word)

/-- Whether a statement ends before this symbol. -/
def isTerminator : Symbol → Bool
  | .newline | .semicolon | .closeBrace => true
  | _ => false

def display : Symbol → String
  | .name text => "name '" ++ text ++ "'"
  | .number value => "number " ++ toString value
  | .quotation text => "string " ++ Text.quoted text
  | .function => "'function'"
  | .let => "'let'"
  | .return => "'return'"
  | .openParen => "'('"
  | .closeParen => "')'"
  | .openBrace => "'\x7b'"
  | .closeBrace => "'\x7d'"
  | .comma => "','"
  | .semicolon => "';'"
  | .colon => "':'"
  | .equals => "'='"
  | .arrow => "'->'"
  | .newline => "end of line"
  | .garbage => "garbage"

end Symbol

structure Token where
  symbol : Symbol
  span : Span
deriving DecidableEq

/-- A place in a stream: a token, or the end of the text when there is no symbol. -/
structure Mark where
  symbol : Option Symbol
  span : Span
deriving DecidableEq

namespace Mark

def isTerminator (mark : Mark) : Bool := mark.symbol.all Symbol.isTerminator

/-- How a mark is named in a message. -/
def describe : Option Symbol → String
  | none => "end of file"
  | some symbol => symbol.display

def display (mark : Mark) : String :=
  describe mark.symbol ++ " @ " ++ toString mark.span.start ++ ".." ++ toString mark.span.stop

end Mark

def Token.mark (token : Token) : Mark := ⟨some token.symbol, token.span⟩

/-- The tokens of a text, and the span where the text ends. -/
structure Stream where
  tokens : List Token
  stop : Span

namespace Stream

def marks (stream : Stream) : List Mark := stream.tokens.map Token.mark ++ [⟨none, stream.stop⟩]

/-- The stream of a list of marks: it ends at the first end of file, or after the last token, or,
with no mark at all, at the start of the first file. -/
def ofMarks : List Mark → Stream
  | [] => ⟨[], ⟨⟨0⟩, 0, 0⟩⟩
  | ⟨none, span⟩ :: _ => ⟨[], span⟩
  | [⟨some symbol, span⟩] => ⟨[⟨symbol, span⟩], span.after⟩
  | ⟨some symbol, span⟩ :: next :: rest =>
    let later := ofMarks (next :: rest)
    ⟨⟨symbol, span⟩ :: later.tokens, later.stop⟩

theorem ofMarks_marks (stream : Stream) : ofMarks stream.marks = stream := by
  obtain ⟨tokens, stop⟩ := stream
  induction tokens with
  | nil => rfl
  | cons token tokens ih =>
    cases tokens with
    | nil => rfl
    | cons next tokens => simp_all [marks, ofMarks, Token.mark]

/-- Nothing after an end of file is read. -/
theorem ofMarks_append_end (marks rest : List Mark) (stop : Span) :
    ofMarks (marks ++ ⟨none, stop⟩ :: rest) = ofMarks (marks ++ [⟨none, stop⟩]) := by
  induction marks with
  | nil => rfl
  | cons mark marks ih =>
    obtain ⟨symbol, span⟩ := mark
    cases symbol with
    | none => rfl
    | some symbol =>
      cases marks with
      | nil => rfl
      | cons next marks => simp_all [ofMarks]

end Stream
end StageZero
