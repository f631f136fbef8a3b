import StageZero.Source.Diagnostic
import StageZero.Token.Basic
import StageZero.Tree.Basic

/-! Trees from tokens. Reading never stops early: after a fault it goes on at the end of the
statement or at the next function. Every reader says that what it leaves is a suffix of what it
was given, and that is why reading ends. -/
namespace StageZero

/-- What a place in a file should have held. -/
inductive Expected where
  | functionKeyword | functionName | openParen | closeParen | returnType | openBrace | closeBrace
  | endOfStatement | variableName | equals | expression | commaOrCloseParen
deriving DecidableEq

def Expected.display : Expected → String
  | .functionKeyword => "'function'"
  | .functionName => "function name"
  | .openParen => "'('"
  | .closeParen => "')'"
  | .returnType => "return type"
  | .openBrace => "'\x7b'"
  | .closeBrace => "'\x7d'"
  | .endOfStatement => "end of statement"
  | .variableName => "variable name"
  | .equals => "'='"
  | .expression => "expression"
  | .commaOrCloseParen => "',' or ')'"

/-- One thing was expected and another, or the end of the file, was found. -/
structure SyntaxCause where
  expected : Expected
  found : Option Symbol
deriving DecidableEq

def SyntaxCause.message (cause : SyntaxCause) : String :=
  "expected " ++ cause.expected.display ++ ", found " ++ Mark.describe cause.found

instance : Wording SyntaxCause where
  phase := "parse"
  message := SyntaxCause.message

namespace Tree

/-- What was read off the front of `input`, the faults met, and what is left. -/
structure Reading (α : Type) (input : List Token) where
  value : α
  faults : List (Fault SyntaxCause)
  rest : List Token
  isSuffix : rest <:+ input

theorem Reading.length_le {α : Type} {input : List Token} (reading : Reading α input) :
    reading.rest.length ≤ input.length := reading.isSuffix.length_le

/-- The mark in front of a reader; `stop` is where the text ends. -/
def here (stop : Span) : List Token → Mark
  | [] => ⟨none, stop⟩
  | token :: _ => token.mark

def complaint (expected : Expected) (stop : Span) (input : List Token) : Fault SyntaxCause :=
  ⟨⟨expected, (here stop input).symbol⟩, (here stop input).span⟩

def skipNewlines (input : List Token) : List Token :=
  input.dropWhile fun token => token.symbol = .newline

theorem skipNewlines_suffix (input : List Token) : skipNewlines input <:+ input :=
  List.dropWhile_suffix _

/-- What lies behind a token after a reading is shorter than what was read. -/
theorem Reading.length_behind_lt {α : Type} {input rest : List Token} {token : Token}
    (reading : Reading α input) (shape : skipNewlines reading.rest = token :: rest) :
    (skipNewlines rest).length < input.length := by
  have behind := (skipNewlines_suffix rest).length_le
  have there := (skipNewlines_suffix reading.rest).length_le
  rw [shape, List.length_cons] at there
  have left := reading.length_le
  omega

/-- The arguments of a call and the span that closes it. -/
structure Arguments where
  items : List Expression
  close : Span

mutual

/-- Reads an expression. Before what ends a statement or closes a call nothing is consumed. -/
def expression (stop : Span) (input : List Token) : Reading Expression input :=
  match input with
  | ⟨.number value, span⟩ :: rest => ⟨.number value span, [], rest, List.suffix_cons ..⟩
  | ⟨.quotation text, span⟩ :: rest => ⟨.quotation text span, [], rest, List.suffix_cons ..⟩
  | ⟨.name name, span⟩ :: ⟨.openParen, _⟩ :: rest =>
    let called := arguments stop rest
    ⟨.call name called.value.items (span.cover called.value.close), called.faults, called.rest,
      called.isSuffix.trans ⟨[_, _], rfl⟩⟩
  | ⟨.name name, span⟩ :: rest => ⟨.variable name span, [], rest, List.suffix_cons ..⟩
  | ⟨.garbage, span⟩ :: rest => ⟨.garbage span, [], rest, List.suffix_cons ..⟩
  | [] => ⟨.garbage stop, [complaint .expression stop []], [], List.suffix_rfl⟩
  | token :: rest =>
    let fault := complaint .expression stop (token :: rest)
    if token.symbol.isTerminator ∨ token.symbol = .closeParen then
      ⟨.garbage token.span, [fault], token :: rest, List.suffix_rfl⟩
    else ⟨.garbage token.span, [fault], rest, List.suffix_cons ..⟩
termination_by (input.length, 0)

/-- Reads the arguments of a call from behind its opening parenthesis. -/
def arguments (stop : Span) (input : List Token) : Reading Arguments input :=
  match shape : skipNewlines input with
  | ⟨.closeParen, span⟩ :: rest =>
    ⟨⟨[], span⟩, [], rest, (List.suffix_cons ..).trans (shape ▸ skipNewlines_suffix input)⟩
  | first =>
    let listed := items stop first
    { listed with isSuffix := listed.isSuffix.trans (shape ▸ skipNewlines_suffix input) }
termination_by (input.length, 2)
decreasing_by
  have skipped := (shape ▸ skipNewlines_suffix input).length_le
  omega

/-- Reads one argument or more, with commas between them, and the closing parenthesis. -/
def items (stop : Span) (input : List Token) : Reading Arguments input :=
  let first := expression stop input
  match shape : skipNewlines first.rest with
  | ⟨.comma, _⟩ :: rest =>
    let more := items stop (skipNewlines rest)
    ⟨⟨first.value :: more.value.items, more.value.close⟩, first.faults ++ more.faults, more.rest,
      more.isSuffix.trans ((skipNewlines_suffix rest).trans ((List.suffix_cons ..).trans
        ((shape ▸ skipNewlines_suffix first.rest).trans first.isSuffix)))⟩
  | ⟨.closeParen, span⟩ :: rest =>
    ⟨⟨[first.value], span⟩, first.faults, rest, (List.suffix_cons ..).trans
      ((shape ▸ skipNewlines_suffix first.rest).trans first.isSuffix)⟩
  | after =>
    ⟨⟨[first.value], (here stop after).span⟩,
      first.faults ++ [complaint .commaOrCloseParen stop after], after,
      (shape ▸ skipNewlines_suffix first.rest).trans first.isSuffix⟩
termination_by (input.length, 1)
decreasing_by
  · exact Prod.Lex.right _ Nat.zero_lt_one
  · exact Prod.Lex.left _ _ (first.length_behind_lt shape)

end

/-- Reads a statement, but not what ends it. -/
def statement (stop : Span) (input : List Token) : Reading Statement input :=
  match input with
  | ⟨.let, _⟩ :: ⟨.name name, span⟩ :: ⟨.equals, _⟩ :: rest =>
    let initial := expression stop rest
    ⟨.let name span initial.value, initial.faults, initial.rest,
      initial.isSuffix.trans ⟨[_, _, _], rfl⟩⟩
  | ⟨.let, _⟩ :: ⟨.name name, span⟩ :: rest =>
    ⟨.let name span (.garbage (here stop rest).span), [complaint .equals stop rest], rest,
      ⟨[_, _], rfl⟩⟩
  | ⟨.let, _⟩ :: rest =>
    ⟨.expression (.garbage (here stop rest).span), [complaint .variableName stop rest], rest,
      List.suffix_cons ..⟩
  | ⟨.return, span⟩ :: rest =>
    if (here stop rest).isTerminator then ⟨.return none span, [], rest, List.suffix_cons ..⟩
    else
      let value := expression stop rest
      ⟨.return (some value.value) (span.cover value.value.span), value.faults, value.rest,
        value.isSuffix.trans (List.suffix_cons ..)⟩
  | input =>
    let alone := expression stop input
    { alone with value := .expression alone.value }

/-- Goes on to what ends a statement. -/
def settle (stop : Span) (input : List Token) : Reading Unit input :=
  if (here stop input).isTerminator then ⟨(), [], input, List.suffix_rfl⟩
  else
    ⟨(), [complaint .endOfStatement stop input],
      input.dropWhile fun token => !token.symbol.isTerminator, List.dropWhile_suffix _⟩

/-- Whatever was read from a token that ends no statement, the end of the statement lies behind
that token. -/
theorem settle_length_lt {α : Type} {token : Token} {rest : List Token} (stop : Span)
    (reading : Reading α (token :: rest)) (inside : token.symbol.isTerminator = false) :
    (settle stop reading.rest).rest.length < (token :: rest).length := by
  rcases List.suffix_cons_iff.mp reading.isSuffix with nothing | something
  · rw [nothing]
    have behind := (List.dropWhile_suffix (l := rest) fun token => !token.symbol.isTerminator).length_le
    simp only [settle, here, Mark.isTerminator, Token.mark, Option.all_some, inside,
      Bool.false_eq_true, if_false, List.dropWhile_cons, Bool.not_false, if_true, List.length_cons]
    omega
  · have settled := (settle stop reading.rest).length_le
    have left := something.length_le
    rw [List.length_cons]
    omega

def skipSeparators (input : List Token) : List Token :=
  input.dropWhile fun token => token.symbol = .newline ∨ token.symbol = .semicolon

theorem skipSeparators_suffix (input : List Token) : skipSeparators input <:+ input :=
  List.dropWhile_suffix _

theorem isTerminator_of_skipSeparators {input rest : List Token} {token : Token}
    (skipped : skipSeparators input = token :: rest) (notClose : token.symbol ≠ .closeBrace) :
    token.symbol.isTerminator = false := by
  have stays := List.head?_dropWhile_not
    (fun token : Token => decide (token.symbol = .newline ∨ token.symbol = .semicolon)) input
  rw [show input.dropWhile _ = token :: rest from skipped] at stays
  simp only [List.head?_cons, decide_eq_false_iff_not, not_or] at stays
  cases symbol : token.symbol <;> simp_all [Symbol.isTerminator]

/-- Reads statements up to and with the closing brace. -/
def statements (stop : Span) (input : List Token) : Reading (List Statement) input :=
  match shape : skipSeparators input with
  | [] => ⟨[], [complaint .closeBrace stop []], [], List.nil_suffix⟩
  | token :: rest =>
    if _close : token.symbol = .closeBrace then
      ⟨[], [], rest, (List.suffix_cons ..).trans (shape ▸ skipSeparators_suffix input)⟩
    else
      let first := statement stop (token :: rest)
      let settled := settle stop first.rest
      let later := statements stop settled.rest
      ⟨first.value :: later.value, first.faults ++ settled.faults ++ later.faults, later.rest,
        later.isSuffix.trans (settled.isSuffix.trans (first.isSuffix.trans
          (shape ▸ skipSeparators_suffix input)))⟩
termination_by input.length
decreasing_by
  have inside := isTerminator_of_skipSeparators shape _close
  have shorter := settle_length_lt stop (statement stop (token :: rest)) inside
  have skipped := (shape ▸ skipSeparators_suffix input).length_le
  omega

def block (stop : Span) (input : List Token) : Reading (List Statement) input :=
  match input with
  | ⟨.openBrace, _⟩ :: rest =>
    let body := statements stop rest
    { body with isSuffix := body.isSuffix.trans (List.suffix_cons ..) }
  | input => ⟨[], [complaint .openBrace stop input], input, List.suffix_rfl⟩

/-- What stands before the body of a function. -/
structure Header where
  name : String
  nameSpan : Span
  returnType : Option Named

/-- Reads a header from behind its keyword, up to the first thing that is not as expected. -/
def header (stop : Span) (input : List Token) : Reading (Option Header) input :=
  match input with
  | ⟨.name name, span⟩ :: rest₁ =>
    match rest₁ with
    | ⟨.openParen, _⟩ :: rest₂ =>
      match rest₂ with
      | ⟨.closeParen, _⟩ :: rest₃ =>
        match rest₃ with
        | ⟨.arrow, _⟩ :: rest₄ =>
          match rest₄ with
          | ⟨.name type, typeSpan⟩ :: rest =>
            ⟨some ⟨name, span, some ⟨type, typeSpan⟩⟩, [], rest, ⟨[_, _, _, _, _], rfl⟩⟩
          | rest => ⟨none, [complaint .returnType stop rest], rest, ⟨[_, _, _, _], rfl⟩⟩
        | rest => ⟨some ⟨name, span, none⟩, [], rest, ⟨[_, _, _], rfl⟩⟩
      | rest => ⟨none, [complaint .closeParen stop rest], rest, ⟨[_, _], rfl⟩⟩
    | rest => ⟨none, [complaint .openParen stop rest], rest, ⟨[_], rfl⟩⟩
  | input => ⟨none, [complaint .functionName stop input], input, List.suffix_rfl⟩

/-- Reads a function from behind its keyword. With a broken header, the body is read for its
faults alone. -/
def function (stop : Span) (input : List Token) : Reading (Option Function) input :=
  let head := header stop input
  let start := skipNewlines head.rest
  have isSuffix : start <:+ input := (skipNewlines_suffix head.rest).trans head.isSuffix
  match head.value with
  | some header =>
    let body := block stop start
    ⟨some ⟨header.name, header.nameSpan, header.returnType, body.value⟩, head.faults ++ body.faults,
      body.rest, body.isSuffix.trans isSuffix⟩
  | none =>
    let isEntry (token : Token) : Bool := token.symbol = .openBrace ∨ token.symbol = .function
    match shape : start.dropWhile fun token => !isEntry token with
    | ⟨.openBrace, span⟩ :: rest =>
      let body := statements stop rest
      ⟨none, head.faults ++ body.faults, body.rest, body.isSuffix.trans ((List.suffix_cons ..).trans
        ((shape ▸ List.dropWhile_suffix _ : ⟨.openBrace, span⟩ :: rest <:+ start).trans isSuffix))⟩
    | rest =>
      ⟨none, head.faults, rest, (shape ▸ List.dropWhile_suffix _ : rest <:+ start).trans isSuffix⟩

/-- A tree and the faults met while reading it. -/
structure Parse where
  file : File
  faults : List (Fault SyntaxCause)

/-- Reads functions to the end of the tokens. -/
def functions (stop : Span) (input : List Token) : Parse :=
  match _shape : skipNewlines input with
  | [] => ⟨⟨[]⟩, []⟩
  | token :: rest =>
    if token.symbol = .function then
      let first := function stop rest
      let later := functions stop first.rest
      ⟨⟨first.value.toList ++ later.file.functions⟩, first.faults ++ later.faults⟩
    else
      let later := functions stop (rest.dropWhile fun token => token.symbol ≠ .function)
      ⟨later.file, complaint .functionKeyword stop (token :: rest) :: later.faults⟩
termination_by input.length
decreasing_by
  · have skipped := (_shape ▸ skipNewlines_suffix input).length_le
    have left := (function stop rest).length_le
    rw [List.length_cons] at skipped
    omega
  · have skipped := (_shape ▸ skipNewlines_suffix input).length_le
    have left := (List.dropWhile_suffix (l := rest) fun token => decide (token.symbol ≠ .function)).length_le
    rw [List.length_cons] at skipped
    omega

end Tree

/-- Reads the tree of a stream of tokens. -/
def parse (stream : Stream) : Tree.Parse := Tree.functions stream.stop stream.tokens

end StageZero
