import StageZero.Tree.Read

/-! The reading of trees by a machine. It has an index into a list of marks and three steps: to look at the
mark there, to go past it, and to complain about it. Ends of file may stand anywhere among the marks or be
missing. Nothing here says that a loop ends: where one does not, there is no result. -/
namespace StageZero.Tree

/-- A reader of a list of marks. -/
structure Reader where
  marks : List Mark

/-- How one turn of a loop ends. -/
inductive Turn (State Result : Type) where
  | again (state : State)
  | leave (result : Result)

namespace Reader

/-- The end of file behind all marks. -/
def lastEnd (reader : Reader) : Mark :=
  match reader.marks.getLast? with
  | none => ⟨none, ⟨⟨0⟩, 0, 0⟩⟩
  | some mark => ⟨none, mark.span.after⟩

/-- A place among the marks, and the faults met on the way there. -/
@[ext]
structure Cursor (reader : Reader) where
  index : Nat
  faults : List (Fault SyntaxCause)
  index_le : index ≤ reader.marks.length

namespace Cursor
variable {reader : Reader}

def start (reader : Reader) : Cursor reader := ⟨0, [], Nat.zero_le _⟩

def mark (cursor : Cursor reader) : Mark := reader.marks[cursor.index]?.getD reader.lastEnd

/-- The next place. Behind the last mark there is none. -/
def next (cursor : Cursor reader) : Cursor reader :=
  if inside : cursor.index < reader.marks.length then ⟨cursor.index + 1, cursor.faults, inside⟩ else cursor

def blame (cursor : Cursor reader) (expected : Expected) : Cursor reader :=
  { cursor with faults := cursor.faults ++ [⟨⟨expected, cursor.mark.symbol⟩, cursor.mark.span⟩] }

end Cursor

/-- What is done from a cursor on, with the cursor that it leads to. -/
abbrev Walk (reader : Reader) := StateT (Cursor reader) Option

section
variable {reader : Reader}

def peek : Walk reader Mark := return (← get).mark

def advance : Walk reader Unit := modify Cursor.next

def complain (expected : Expected) : Walk reader Unit := modify fun cursor => cursor.blame expected

/-- Goes past what was expected, or complains. -/
def expect (symbol : Symbol) (expected : Expected) : Walk reader Bool := do
  if (← peek).symbol = some symbol then
    advance
    return true
  else
    complain expected
    return false

end

/-- Takes turns until one of them leaves the loop. -/
def loop (reader : Reader) {State Result : Type} (turn : State → Walk reader (Turn State Result))
    (state : State) : Walk reader Result := do
  match ← turn state with
  | .again state => reader |>.loop turn state
  | .leave result => return result
partial_fixpoint

/-- Goes past marks as long as their symbols are of some kind. -/
def passWhile (reader : Reader) (passed : Option Symbol → Bool) : Walk reader Unit := do
  if passed (← peek).symbol then
    advance
    reader |>.passWhile passed
partial_fixpoint

def passNewlines (reader : Reader) : Walk reader Unit := reader.passWhile fun symbol => symbol = some .newline

/-- One turn of the loop over the arguments of a call, behind `earlier` ones. -/
@[reducible]
def argumentTurn (reader : Reader) (argument : Walk reader Expression) (earlier : List Expression) :
    Walk reader (Turn (List Expression) Arguments) := do
  let items := earlier ++ [← argument]
  reader.passNewlines
  let ⟨symbol, span⟩ ← peek
  match symbol with
  | some .comma =>
    advance
    reader.passNewlines
    return .again items
  | some .closeParen =>
    advance
    return .leave ⟨items, span⟩
  | _ =>
    complain .commaOrCloseParen
    return .leave ⟨items, span⟩

mutual

def expression (reader : Reader) : Walk reader Expression := do
  match ← peek with
  | ⟨some (.number value), span⟩ =>
    advance
    return .number value span
  | ⟨some (.quotation text), span⟩ =>
    advance
    return .quotation text span
  | ⟨some (.name name), span⟩ =>
    advance
    if (← peek).symbol ≠ some .openParen then return .variable name span
    advance
    let called ← reader |>.arguments
    return .call name called.items (span.cover called.close)
  | ⟨some .garbage, span⟩ =>
    advance
    return .garbage span
  | mark =>
    complain .expression
    if mark.isTerminator ∨ mark.symbol = some .closeParen then return .garbage mark.span
    advance
    return .garbage mark.span
partial_fixpoint

/-- The arguments of a call, from behind its opening parenthesis. -/
def arguments (reader : Reader) : Walk reader Arguments := do
  reader.passNewlines
  match ← peek with
  | ⟨some .closeParen, span⟩ =>
    advance
    return ⟨[], span⟩
  | _ => reader |>.items []
partial_fixpoint

/-- The loop over the arguments of a call. -/
def items (reader : Reader) (earlier : List Expression) : Walk reader Arguments := do
  match ← reader.argumentTurn (reader |>.expression) earlier with
  | .again earlier => reader |>.items earlier
  | .leave called => return called
partial_fixpoint

end

def statement (reader : Reader) : Walk reader Statement := do
  match ← peek with
  | ⟨some .let, _⟩ =>
    advance
    match ← peek with
    | ⟨some (.name name), span⟩ =>
      advance
      if ← expect .equals .equals then return .let name span (← reader.expression)
      else return .let name span (.garbage (← peek).span)
    | ⟨_, span⟩ =>
      complain .variableName
      return .expression (.garbage span)
  | ⟨some .return, span⟩ =>
    advance
    if (← peek).isTerminator then return .return none span
    let value ← reader.expression
    return .return (some value) (span.cover value.span)
  | _ => return .expression (← reader.expression)

/-- Goes on to what ends a statement. -/
def settle (reader : Reader) : Walk reader Unit := do
  if (← peek).isTerminator then return
  complain .endOfStatement
  reader.passWhile fun symbol => !symbol.all Symbol.isTerminator

/-- A statement, and the way to what ends it. -/
def sentence (reader : Reader) : Walk reader Statement := do
  let value ← reader.statement
  reader.settle
  return value

section
variable (reader : Reader) (stuck : Walk reader Unit)

/-- Does `stuck` when a walk has led nowhere. -/
def guarded {Result : Type} (walk : Walk reader Result) : Walk reader Result := do
  let before ← get
  let result ← walk
  if (← get).index ≠ before.index then return result
  stuck
  return result

/-- One turn of the loop over the statements of a body, behind `earlier` ones. -/
def bodyTurn (earlier : List Statement) : Walk reader (Turn (List Statement) (List Statement)) := do
  reader.passWhile fun symbol => symbol = some .newline ∨ symbol = some .semicolon
  match (← peek).symbol with
  | some .closeBrace =>
    advance
    return .leave earlier
  | none =>
    complain .closeBrace
    return .leave earlier
  | some _ => return .again (earlier ++ [← reader.guarded stuck reader.sentence])

def block : Walk reader (List Statement) := do
  if ← expect .openBrace .openBrace then reader.loop (reader.bodyTurn stuck) [] else return []

def header : Walk reader (Option Header) := do
  match ← peek with
  | ⟨some (.name name), span⟩ =>
    advance
    if !(← expect .openParen .openParen) then return none
    if !(← expect .closeParen .closeParen) then return none
    if (← peek).symbol ≠ some .arrow then return some ⟨name, span, none⟩
    advance
    match ← peek with
    | ⟨some (.name type), typeSpan⟩ =>
      advance
      return some ⟨name, span, some ⟨type, typeSpan⟩⟩
    | _ =>
      complain .returnType
      return none
  | _ =>
    complain .functionName
    return none

/-- A function from its keyword on. Behind a broken header only the faults of its body are of use. -/
def function : Walk reader (Option Function) := do
  advance
  let head ← reader.header
  reader.passNewlines
  match head with
  | some head => return some ⟨head.name, head.nameSpan, head.returnType, ← reader.block stuck⟩
  | none =>
    reader.passWhile fun symbol => symbol ≠ some .openBrace ∧ symbol ≠ some .function ∧ symbol ≠ none
    if (← peek).symbol ≠ some .openBrace then return none
    let _ ← reader.block stuck
    return none

/-- One turn of the loop over the functions of a file, behind `earlier` ones. -/
def fileTurn (earlier : List Function) : Walk reader (Turn (List Function) File) := do
  reader.passNewlines
  match (← peek).symbol with
  | none => return .leave ⟨earlier⟩
  | some .function => return .again (earlier ++ (← reader.function stuck).toList)
  | some _ =>
    complain .functionKeyword
    reader.passWhile fun symbol => symbol ≠ some .function ∧ symbol ≠ none
    return .again earlier

/-- Reads all marks. Should a statement lead nowhere, `stuck` is done. -/
def parseWith : Option Parse := do
  let (file, cursor) ← (reader.loop (reader.fileTurn stuck) []).run (.start reader)
  return ⟨file, cursor.faults⟩

/-- Reads all marks. A statement that led nowhere would cost the mark that it stands at. -/
def parse : Option Parse := reader.parseWith advance

end

end Reader
end StageZero.Tree
