import StageZero.Proofs.Extents
import StageZero.Proofs.Rows

/-! Line marks. Each statement of a program stands behind a mark with the line on which its first token stands in
the source file, and without the marks the text is what is generated when none are asked for. -/
namespace StageZero

/-! ### Where statements stand -/

namespace Typing
variable {functions : String → Ty → Prop} {context next : Context} {returnType : Ty}

theorem Statement.span_eq {tree : Tree.Statement} {statement : Program.Statement}
    (derived : Statement functions returnType context tree next statement) : statement.span = tree.span := by
  cases derived <;> rfl

theorem Statements.span_eq {trees : List Tree.Statement} {statements : List Program.Statement}
    (derived : Statements functions returnType context trees statements) :
    List.Forall₂ (fun statement tree => statement.span = tree.span) statements trees := by
  induction derived with
  | nil => exact .nil
  | cons first _ ih => exact .cons first.span_eq ih

theorem Function.span_eq {function : Tree.Function} {checked : Program.Function}
    (derived : Function functions function checked) :
    List.Forall₂ (fun statement tree => statement.span = tree.span) checked.body function.body := by
  cases derived with
  | function _ statements => exact statements.span_eq

end Typing

/-! ### Places on a line -/

namespace SourceFile

/-- Between places on one line stands no newline. -/
theorem lineOf_eq (file : SourceFile) {start stop : Nat} (ordered : start ≤ stop)
    (inLine : Text.newline ∉ Text.between file.contents start stop) : file.lineOf start = file.lineOf stop := by
  have parts : ((Text.octets file.contents).take stop) =
      (Text.octets file.contents).take start ++ Text.between file.contents start stop := by
    have split := List.take_append_drop start ((Text.octets file.contents).take stop)
    rw [List.take_take, Nat.min_eq_left ordered] at split
    exact split.symm
  have none : (Text.between file.contents start stop).count 0x0A = 0 := List.count_eq_zero.mpr inLine
  rw [lineOf, lineOf, parts, List.count_append, none, Nat.add_zero]

end SourceFile

theorem Mark.mem_gaps (place : Nat) (front back : List Mark) (mark next : Mark) :
    (mark.span.stop, next.span.start) ∈ gaps place (front ++ mark :: next :: back) := by
  induction front generalizing place with
  | nil => exact List.mem_cons_of_mem _ (List.mem_cons_self ..)
  | cons first front ih => exact List.mem_cons_of_mem _ (ih _)

/-- Tokens next to each other are on one line if the first is not its end. -/
theorem lineOf_next (source : SourceFile) {file : FileId} {token next : Token}
    (adjacent : [token, next] <:+: (scan file source.contents).stream.tokens) (inside : token.symbol ≠ .newline) :
    source.lineOf token.span.start = source.lineOf next.span.start := by
  have covers := scan_covers file source.contents
  have apart := (scan_apart file source.contents).sublist adjacent.sublist
  obtain ⟨sized, before, -⟩ := Token.Apart.cons_iff.mp apart
  obtain ⟨front, back, parts⟩ := adjacent
  have between : (token.mark.span.stop, next.mark.span.start) ∈
      Mark.gaps 0 (scan file source.contents).stream.marks := by
    rw [Stream.marks, ← parts, List.append_assoc, List.map_append, List.append_assoc]
    exact Mark.mem_gaps 0 (front.map Token.mark) (back.map Token.mark ++ [_]) token.mark next.mark
  have member : token ∈ (scan file source.contents).stream.tokens := by simp [← parts]
  have word := covers.lines token.mark (Token.mark_mem member) fun same => inside (Option.some.inj same)
  have gap := (covers.gaps _ between).2
  exact (source.lineOf_eq (Nat.le_of_lt sized) word).trans
    (source.lineOf_eq (before next (List.mem_singleton_self _)) gap)

/-! ### First tokens of statements -/

/-- A statement was checked from some of the tokens of a text, and this one is the first of these. -/
def Program.Statement.Begins (tokens : List Token) (first : Token) (statement : Program.Statement) : Prop :=
  ∃ more tree, first :: more <:+: tokens ∧ Tree.Grammar.Statement (first :: more) tree ∧ statement.span = tree.span

/-- A statement starts on the line of its first token, also where it starts behind that. -/
theorem Program.Statement.Begins.place {source : SourceFile} {file : FileId} {first : Token}
    {statement : Program.Statement} (begins : statement.Begins (scan file source.contents).stream.tokens first) :
    statement.span.file = file ∧ source.lineOf statement.span.start = source.lineOf first.span.start := by
  obtain ⟨more, tree, infix_, derived, spans⟩ := begins
  have apart := (scan_apart file source.contents).sublist infix_.sublist
  obtain ⟨start, last, front, -, runs⟩ := derived.span_over apart
  have member : start ∈ (scan file source.contents).stream.tokens :=
    infix_.mem ((tree.extent_suffix _).mem (List.mem_of_head? front))
  rw [spans, runs]
  refine ⟨(Token.holds_of_scan member).1, ?_⟩
  cases derived with
  -- the span of a binding starts at its name, which is on the line of its keyword
  | @«let» keyword name span equals tokens _ initial =>
      cases front
      have adjacent : [⟨.let, keyword⟩, ⟨.name name, span⟩] <:+: (scan file source.contents).stream.tokens :=
        (List.prefix_append [_, _] _).isInfix.trans infix_
      exact (lineOf_next source adjacent nofun).symm
  | returnNothing | «return» | expression =>
      cases front
      rfl

/-- Every statement of a function begins with a token of the text. -/
theorem exists_begins {file : FileId} {text : String} (accepted : Accepted file text) {function : Program.Function}
    (member : function ∈ (programOf file text).functions) :
    ∃ firsts, List.Forall₂ (Program.Statement.Begins (scan file text).stream.tokens) firsts function.body := by
  obtain ⟨written, there, typed⟩ := Program.exists_right accepted.typed.functions.flip member
  have each : ∀ statement ∈ function.body, ∃ first, statement.Begins (scan file text).stream.tokens first := by
    intro statement inBody
    obtain ⟨tree, inTree, spans⟩ := Program.exists_right typed.span_eq inBody
    obtain ⟨own, infix_, derived, -⟩ := (exact_of_parsed file text accepted.parsed).statements written there tree inTree
    obtain ⟨first, more, rfl, -⟩ := derived.first
    exact ⟨first, more, tree, infix_, derived, spans⟩
  obtain ⟨firsts, begins⟩ := Program.exists_related each
  exact ⟨firsts, begins.flip⟩

namespace Cxx
open Program (Statement Function)
open Text (margin)

/-! ### Marked rows -/

/-- The row that places the next one on a line of a source file. -/
def markRow (source : SourceFile) (first : Token) : String :=
  let line := ((Text.octets source.contents).take first.span.start).count Text.newline + 1
  margin 2 ++ ("#line " ++ toString line ++ " \"" ++ escape source.location.display ++ "\"")

/-- The rows of statements that begin with some tokens, one row for each, and a mark in front of each. -/
def markedBody (source : SourceFile) : List Token → List Statement → List String
  | first :: firsts, statement :: body =>
    markRow source first :: (margin 2 ++ statementLine statement) :: markedBody source firsts body
  | _, _ => []

/-- The rows of a definition with marks in its body. -/
def markedRows (source : SourceFile) (firsts : List Token) (function : Function) : List String :=
  "" :: (margin 1 ++ (signature function ++ " \x7b")) ::
    (markedBody source firsts function.body ++ [margin 1 ++ "\x7d"])

/-- Whether a row is a line mark. -/
def isLineMark (row : String) : Bool := "#line ".toList.isPrefixOf (row.toList.dropWhile (· == ' '))

/-- Items that stay at a depth leave their rows there one by one. -/
theorem rowsAll_flatMap {α : Type} {depth : Nat} {all : List α} {items : α → List Item}
    (same : ∀ a ∈ all, depthAfterAll depth (items a) = depth) :
    depthAfterAll depth (all.flatMap items) = depth ∧
      rowsAll depth (all.flatMap items) = all.flatMap fun a => rowsAll depth (items a) := by
  induction all with
  | nil => exact ⟨rfl, rfl⟩
  | cons a all ih =>
      obtain ⟨first, later⟩ := List.forall_mem_cons.mp same
      obtain ⟨depthLater, rowsLater⟩ := ih later
      rw [List.flatMap_cons, depthAfterAll_append, rowsAll_append, first, depthLater, rowsLater, List.flatMap_cons]
      exact ⟨rfl, rfl⟩

theorem depthAfterAll_statement (sources : Option Sources) (written : Statement) (depth : Nat) :
    depthAfterAll depth (statement sources written) = depth := by
  cases sources with
  | none => rfl
  | some sources =>
      rw [statement, lineMark]
      split <;> rfl

theorem rowsAll_definition (sources : Option Sources) (function : Function) :
    depthAfterAll 1 (definition sources function) = 1 ∧
      rowsAll 1 (definition sources function) = "" :: (margin 1 ++ (signature function ++ " \x7b")) ::
        (function.body.flatMap (fun written => rowsAll 2 (statement sources written)) ++ [margin 1 ++ "\x7d"]) := by
  obtain ⟨depth, rows⟩ := rowsAll_flatMap fun written (_ : written ∈ function.body) =>
    depthAfterAll_statement sources written 2
  constructor
  · simp [definition, depthAfterAll, Item.depthAfter, depth]
  · simp [definition, rowsAll, Item.rows, Item.depthAfter, depth, rows]

theorem rowsAll_items (sources : Option Sources) (program : Program) :
    rowsAll 0 (items sources program) = headingRows ++ (program.functions.map prototype ++
      (program.functions.flatMap (fun function => rowsAll 1 (definition sources function)) ++
        closingRows program)) := by
  obtain ⟨depth, prototypes⟩ := rowsAll_flatMap fun function (_ : function ∈ program.functions) =>
    (rfl : depthAfterAll 1 [.line (signature function ++ ";")] = 1)
  obtain ⟨depthLater, definitions⟩ := rowsAll_flatMap fun function (_ : function ∈ program.functions) =>
    (rowsAll_definition sources function).1
  have listed : rowsAll 1 (program.functions.flatMap fun function => [.line (signature function ++ ";")]) =
      program.functions.map prototype := prototypes.trans List.map_eq_flatMap.symm
  have flat : ∀ row, margin 0 ++ row = row := fun _ => String.empty_append
  rw [items, List.map_eq_flatMap]
  simp [rowsAll_append, rowsAll, Item.rows, Item.depthAfter, depthAfterAll_append, depth, depthLater, listed,
    definitions, flat, headingRows, closingRows]

theorem rowsAll_statement {sources : Sources} {id : FileId} {source : SourceFile}
    (registered : sources.file? id = some source) {first : Token} {written : Statement}
    (begins : written.Begins (scan id source.contents).stream.tokens first) :
    rowsAll 2 (statement (some sources) written) = [markRow source first, margin 2 ++ statementLine written] := by
  obtain ⟨file, line⟩ := begins.place
  have mark : lineMark sources written.span = [.line ("#line " ++ toString (source.lineOf first.span.start) ++ " \"" ++
      escape source.location.display ++ "\"")] := by
    rw [lineMark, file, registered, ← line]
  rw [statement, mark]
  rfl

theorem rowsAll_body {sources : Sources} {id : FileId} {source : SourceFile}
    (registered : sources.file? id = some source) {firsts : List Token} {body : List Statement}
    (begins : List.Forall₂ (Statement.Begins (scan id source.contents).stream.tokens) firsts body) :
    body.flatMap (fun written => rowsAll 2 (statement (some sources) written)) = markedBody source firsts body := by
  induction begins with
  | nil => rfl
  | cons first _ ih =>
      rw [List.flatMap_cons, ih, rowsAll_statement registered first]
      rfl

theorem rowsAll_functions {sources : Sources} {id : FileId} {source : SourceFile}
    (registered : sources.file? id = some source) {starts : List (List Token)} {functions : List Function}
    (begins : List.Forall₂ (fun firsts function =>
      List.Forall₂ (Statement.Begins (scan id source.contents).stream.tokens) firsts function.body) starts functions) :
    functions.flatMap (fun function => rowsAll 1 (definition (some sources) function)) =
      (List.zipWith (markedRows source) starts functions).flatten := by
  induction begins with
  | nil => rfl
  | cons first _ ih =>
      rw [List.flatMap_cons, ih, (rowsAll_definition _ _).2, rowsAll_body registered first]
      rfl

theorem rowsAll_unmarked (program : Program) :
    rowsAll 0 (items none program) = headingRows ++ functionRows program := by
  have definitions : (fun function => rowsAll 1 (definition none function)) = definitionRows := by
    funext function
    rw [(rowsAll_definition none function).2, definitionRows, List.map_eq_flatMap]
    rfl
  rw [rowsAll_items, definitions, functionRows]

/-! ### Rows without marks -/

theorem isLineMark_markRow (source : SourceFile) (first : Token) : isLineMark (markRow source first) = true := by
  rw [isLineMark, markRow, dropWhile_margin, String.append_assoc, String.append_assoc, String.append_assoc,
    String.toList_append]
  rfl

theorem isLineMark_of_isDirective {row : String} (code : isDirective row = false) : isLineMark row = false := by
  unfold isDirective at code
  unfold isLineMark
  cases shape : row.toList.dropWhile (· == ' ') with
  | nil => rfl
  | cons c more =>
      rw [shape] at code
      have other : c ≠ '#' := by simpa using code
      simp [List.isPrefixOf, other.symm]

theorem unmarked_code {rows : List String} (code : ∀ row ∈ rows, isDirective row = false) :
    rows.filter (fun row => !isLineMark row) = rows := by
  refine List.filter_eq_self.mpr fun row member => ?_
  rw [isLineMark_of_isDirective (code row member)]
  rfl

theorem unmarked_body {R : Token → Statement → Prop} (source : SourceFile) {firsts : List Token} {body : List Statement}
    (related : List.Forall₂ R firsts body)
    (code : ∀ written ∈ body, isDirective (margin 2 ++ statementLine written) = false) :
    (markedBody source firsts body).filter (fun row => !isLineMark row) =
      body.map fun written => margin 2 ++ statementLine written := by
  induction related with
  | nil => rfl
  | @cons first written firsts body _ _ ih =>
      obtain ⟨here, later⟩ := List.forall_mem_cons.mp code
      have mark := isLineMark_markRow source first
      have row := isLineMark_of_isDirective here
      simp [markedBody, mark, row, ih later]

theorem unmarked_definition {R : Token → Statement → Prop} (source : SourceFile) {firsts : List Token}
    {function : Function} (related : List.Forall₂ R firsts function.body)
    (code : ∀ row ∈ definitionRows function, isDirective row = false) :
    (markedRows source firsts function).filter (fun row => !isLineMark row) = definitionRows function := by
  rw [definitionRows] at code ⊢
  obtain ⟨-, behind⟩ := List.forall_mem_cons.mp code
  obtain ⟨header, inner⟩ := List.forall_mem_cons.mp behind
  obtain ⟨statements, close⟩ := List.forall_mem_append.mp inner
  have body := unmarked_body source related (List.forall_mem_map.mp statements)
  have opening := isLineMark_of_isDirective header
  have closing := isLineMark_of_isDirective (close _ (List.mem_singleton_self _))
  have blank : isLineMark "" = false := by decide
  simp [markedRows, blank, opening, closing, body]

theorem unmarked_functions {R : Token → Statement → Prop} (source : SourceFile) {starts : List (List Token)}
    {functions : List Function}
    (related : List.Forall₂ (fun firsts function => List.Forall₂ R firsts function.body) starts functions)
    (code : ∀ row ∈ functions.flatMap definitionRows, isDirective row = false) :
    (List.zipWith (markedRows source) starts functions).flatten.filter (fun row => !isLineMark row) =
      functions.flatMap definitionRows := by
  induction related with
  | nil => rfl
  | cons first _ ih =>
      rw [List.flatMap_cons] at code
      obtain ⟨here, later⟩ := List.forall_mem_append.mp code
      rw [List.zipWith_cons_cons, List.flatten_cons, List.filter_append, unmarked_definition source first here,
        ih later, List.flatMap_cons]

/-- What is generated from an accepted text has one row for each statement, and in front of it the mark of the line
of its first token. Without the marks it is what is generated when no marks are asked for. -/
theorem emit_marked {sources : Sources} {id : FileId} {source : SourceFile}
    (registered : sources.file? id = some source) (accepted : Accepted id source.contents) :
    let tokens := (scan id source.contents).stream.tokens
    let program := programOf id source.contents
    ∃ starts, List.Forall₂ (fun firsts function => List.Forall₂ (Statement.Begins tokens) firsts function.body)
        starts program.functions ∧
      let rows := headingRows ++ (program.functions.map prototype ++
        ((List.zipWith (markedRows source) starts program.functions).flatten ++ closingRows program))
      emit (some sources) program = lines rows ∧ (∀ row ∈ rows, Plain row) ∧
        emit none program = lines (rows.filter fun row => !isLineMark row) := by
  intro tokens program
  have legible := legible_of_accepted accepted
  obtain ⟨starts, related⟩ := Program.exists_related fun function member => exists_begins accepted member
  have begins := related.flip
  refine ⟨starts, begins, ?_⟩
  intro rows
  have marked : rowsAll 0 (items (some sources) program) = rows := by
    rw [rowsAll_items, rowsAll_functions registered begins]
  have code : ∀ row ∈ functionRows program, isDirective row = false := by
    intro row member
    have there := List.mem_append_right openingRows member
    rw [← (lays_items none legible).code] at there
    simpa using List.of_mem_filter there
  refine ⟨?_, ?_, ?_⟩
  · rw [emit, layOut_eq, marked]
  · rw [← marked]
    exact (lays_items (some sources) legible).plain
  · obtain ⟨prototypes, behind⟩ := List.forall_mem_append.mp code
    obtain ⟨definitions, closing⟩ := List.forall_mem_append.mp behind
    have heading : headingRows.filter (fun row => !isLineMark row) = headingRows := by decide
    rw [emit, layOut_eq, rowsAll_unmarked, functionRows, List.filter_append, List.filter_append, List.filter_append,
      heading, unmarked_code prototypes, unmarked_functions source begins definitions, unmarked_code closing]

open Tree.Grammar in
theorem emit_marked_binding :
    let text := "function main() \x7b\nlet a = 1\n\x7d"
    let source : SourceFile := ⟨.rooted [], text⟩
    let program := programOf ⟨0⟩ text
    Accepted ⟨0⟩ text ∧ ∃ starts : List (List Token), starts.length = program.functions.length ∧
      emit (some [source]) program = lines (headingRows ++ (program.functions.map prototype ++
        ((List.zipWith (markedRows source) starts program.functions).flatten ++ closingRows program))) := by
  intro text source program
  let place (start stop : Nat) : Span := ⟨⟨0⟩, start, stop⟩
  let tree : Tree.File := ⟨[⟨"main", place 9 13, none, [.let "a" (place 22 23) (.number 1 (place 26 27))]⟩]⟩
  have tokens : (scan ⟨0⟩ text).stream.tokens = [
      ⟨.function, place 0 8⟩, ⟨.name "main", place 9 13⟩, ⟨.openParen, place 13 14⟩, ⟨.closeParen, place 14 15⟩,
      ⟨.openBrace, place 16 17⟩, ⟨.newline, place 17 18⟩, ⟨.let, place 18 21⟩, ⟨.name "a", place 22 23⟩,
      ⟨.equals, place 24 25⟩, ⟨.number 1, place 26 27⟩, ⟨.newline, place 27 28⟩, ⟨.closeBrace, place 28 29⟩] := by
    decide +kernel
  have blank : Newlines [] := List.forall_mem_nil _
  have separated (span : Span) : Separators [⟨.newline, span⟩] := List.forall_mem_singleton.mpr (.inl rfl)
  have derived : File (scan ⟨0⟩ text).stream.tokens tree := by
    rw [tokens]
    exact (.file blank (.more (.plain blank (.full (separated _) (.last (.let .number) (separated _)))) blank .none) :
      File _ _)
  have accepted := (Accepted.of_derived (by decide +kernel) derived rfl).1
  obtain ⟨starts, begins, rows, -⟩ := @emit_marked [source] ⟨0⟩ source rfl accepted
  exact ⟨accepted, starts, begins.length_eq, rows⟩

end Cxx
end StageZero
