import StageZero.Proofs.Layout
import StageZero.Proofs.Shown

/-! The rows of generated text. Some are for the preprocessor, which marks the lines of a source file there,
and the others are the same with and without such marks. -/
namespace StageZero.Cxx
open Program (Statement Function)
open Text (margin)
open Token (IsName)

/-! ### The rows of a program -/

def prototype (function : Function) : String := margin 1 ++ (signature function ++ ";")

def definitionRows (function : Function) : List String :=
  "" :: (margin 1 ++ (signature function ++ " \x7b")) ::
    (function.body.map (fun statement => margin 2 ++ statementLine statement) ++ [margin 1 ++ "\x7d"])

/-- The rows behind the functions: the end of their namespace, and the entry. -/
def closingRows (program : Program) : List String := "\x7d // namespace Jakt" :: rowsAll 0 (entry program)

/-- The rows from the first function on. -/
def functionRows (program : Program) : List String :=
  program.functions.map prototype ++ (program.functions.flatMap definitionRows ++ closingRows program)

def headingRows : List String :=
  ["// Generated by the Jakt compiler. Do not edit.", "#include <cstdint>", "#include <iostream>",
    "#include <string>", "", "namespace Jakt \x7b"]

/-! ### Rows without ends of lines -/

theorem plain_ofList {cs : List Char} (plain : '\n' ∉ cs) : Plain (String.ofList cs) := by
  rwa [Plain, String.toList_ofList]

theorem plain_margin (depth : Nat) : Plain (margin depth) := by
  refine plain_ofList fun member => ?_
  exact absurd (List.eq_of_mem_replicate member) (by decide)

theorem plain_name {name : String} (legible : IsName name) : Plain name := by
  intro member
  exact absurd (legible.all '\n' member) (by decide +kernel)

theorem escaped_plain (c : Char) : '\n' ∉ escaped c := by
  have digit : ∀ n, octal n ≠ '\n' := by
    intro n same
    have octal := isOctalDigit_octal n
    rw [same] at octal
    exact absurd octal (by decide)
  unfold escaped
  split
  case h_6 =>
    split
    case isTrue =>
      simp only [List.mem_cons, List.not_mem_nil, or_false, not_or]
      exact ⟨by decide, (digit _).symm, (digit _).symm, (digit _).symm⟩
    case isFalse unchanged =>
      intro member
      rw [← List.mem_singleton.mp member] at unchanged
      exact unchanged (by decide)
  all_goals decide

theorem plain_escape (text : String) : Plain (escape text) := by
  rw [Plain, toList_escape, List.mem_flatMap]
  rintro ⟨c, -, member⟩
  exact escaped_plain c member

theorem plain_number (value : Int) : Plain (toString value) := by
  intro member
  exact absurd (number_chars value _ member) (by decide)

theorem plain_operand {operand : Operand} (legible : operand.Legible) : Plain operand.text := by
  cases operand with
  | number value => exact plain_number value
  | quotation text => exact .append (.append (by decide) (plain_escape text)) (by decide)
  | «variable» name => exact plain_name legible
  | call callee => exact .append (plain_name legible) (by decide)

theorem plain_pieceText (piece : String) : Plain (pieceText piece) := by
  rw [pieceText]
  split
  case isTrue => decide
  case isFalse => exact .append (.append (by decide) (plain_escape piece)) (by decide)

theorem plain_moreText {more : List (Operand × String)} (legible : ∀ item ∈ more, item.1.Legible) :
    Plain (moreText more) := by
  induction more with
  | nil => decide
  | cons item more ih =>
      obtain ⟨first, later⟩ := List.forall_mem_cons.mp legible
      exact .append (.append (.append (by decide) (plain_operand first)) (plain_pieceText item.2)) (ih later)

theorem plain_value {value : Value} (legible : value.Legible) : Plain value.text := by
  cases value with
  | plain operand => exact plain_operand legible
  | print target first more =>
      have stream : Plain (stream target) := by cases target <;> decide
      exact .append (.append stream (plain_pieceText first)) (plain_moreText legible)

theorem plain_typeName (type : Ty) : Plain (typeName type) := by
  cases type <;> decide

theorem plain_line {line : Line} (legible : line.Legible) : Plain line.text := by
  cases line with
  | declaration type name initial =>
      obtain ⟨-, named, legible⟩ := legible
      exact .append (.append (.append (.append (.append (plain_typeName type) (by decide)) (plain_name named))
        (by decide)) (plain_value legible)) (by decide)
  | «return» value =>
      cases value with
      | none => decide
      | some value => exact .append (.append (by decide) (plain_value legible)) (by decide)
  | expression value => exact .append (plain_value legible) (by decide)

theorem plain_signature {function : Function} (named : IsName function.name) : Plain (signature function) :=
  .append (.append (.append (plain_typeName _) (by decide)) (plain_name named)) (by decide)

/-! ### Rows of code -/

/-- The rows of a text in which every row is ended. -/
def rowsOf (text : String) : List String := ((text.toList.splitOn '\n').map String.ofList).dropLast

/-- Whether a row is for the preprocessor. -/
def isDirective (row : String) : Bool := (row.toList.dropWhile (· == ' ')).head? == some '#'

def codeRows (text : String) : List String := (rowsOf text).filter fun row => !isDirective row

/-- The rows of code in front of the functions. -/
def openingRows : List String := headingRows.filter fun row => !isDirective row

theorem rowsOf_lines {rows : List String} (plain : ∀ row ∈ rows, Plain row) : rowsOf (lines rows) = rows := by
  induction rows with
  | nil => simp [rowsOf, lines]
  | cons row rows ih =>
      obtain ⟨first, later⟩ := List.forall_mem_cons.mp plain
      have alone : row.toList.splitOn '\n' = [row.toList] := List.splitOn_eq_singleton first
      have some : ((lines rows).toList.splitOn '\n').map String.ofList ≠ [] := by simp
      rw [rowsOf, toList_lines, List.splitOn_append_cons_self, alone, List.singleton_append, List.map_cons,
        List.dropLast_cons_of_ne_nil some, String.ofList_toList]
      exact congrArg (row :: ·) (ih later)

/-- A text that starts with neither a blank nor a number sign. -/
def isCode (text : String) : Bool := text.toList.head?.any fun c => c != ' ' && c != '#'

theorem isCode_append {front : String} (code : isCode front = true) (back : String) :
    isCode (front ++ back) = true := by
  rw [isCode, String.toList_append]
  unfold isCode at code
  cases shape : front.toList with
  | nil => simp [shape] at code
  | cons c more =>
      rw [shape] at code
      exact code

/-- Blanks in front of a row do not tell what it is. -/
theorem dropWhile_margin (depth : Nat) (text : String) :
    (margin depth ++ text).toList.dropWhile (· == ' ') = text.toList.dropWhile (· == ' ') := by
  have blank : ∀ c ∈ (margin depth).toList, (c == ' ') = true := by
    intro c member
    rw [margin, String.toList_ofList] at member
    exact beq_iff_eq.mpr (List.eq_of_mem_replicate member)
  rw [String.toList_append, List.dropWhile_append_of_pos blank]

theorem isDirective_margin (depth : Nat) (text : String) : isDirective (margin depth ++ text) = isDirective text := by
  rw [isDirective, isDirective, dropWhile_margin]

theorem isDirective_of_isCode {text : String} (code : isCode text = true) : isDirective text = false := by
  unfold isCode at code
  unfold isDirective
  cases shape : text.toList with
  | nil => simp [shape] at code
  | cons c more =>
      rw [shape] at code
      simp_all

theorem isCode_value {value : Value} (legible : value.Legible) : isCode value.text = true := by
  cases value with
  | plain operand =>
      obtain ⟨c, more, shape, start⟩ := Operand.first legible
      have blank : c ≠ ' ' := by
        rintro rfl
        exact absurd start (by decide +kernel)
      have sign : c ≠ '#' := by
        rintro rfl
        exact absurd start (by decide +kernel)
      simp [isCode, Value.text, shape, blank, sign]
  | print target first more =>
      rw [Value.text, String.append_assoc]
      refine isCode_append ?_ _
      cases target <;> decide

theorem isCode_typeName (type : Ty) : isCode (typeName type) = true := by
  cases type <;> decide

theorem isCode_line {line : Line} (legible : line.Legible) : isCode line.text = true := by
  cases line with
  | declaration type name initial =>
      rw [Line.text, String.append_assoc, String.append_assoc, String.append_assoc, String.append_assoc]
      exact isCode_append (isCode_typeName type) _
  | «return» value =>
      cases value with
      | none => decide
      | some value =>
          rw [Line.text, String.append_assoc]
          exact isCode_append (by decide) _
  | expression value => exact isCode_append (isCode_value legible) _

theorem isCode_signature (function : Function) : isCode (signature function) = true := by
  rw [signature, String.append_assoc, String.append_assoc]
  exact isCode_append (isCode_typeName _) _

/-! ### What items leave -/

/-- Items that stay at their depth, and the rows of code that they leave there. -/
structure Lays (depth : Nat) (items : List Item) (code : List String) : Prop where
  plain : ∀ row ∈ rowsAll depth items, Plain row
  code : (rowsAll depth items).filter (fun row => !isDirective row) = code
  depth : depthAfterAll depth items = depth

namespace Lays
variable {depth : Nat}

theorem nil : Lays depth [] [] := ⟨List.forall_mem_nil _, rfl, rfl⟩

theorem append {items others : List Item} {code more : List String} (first : Lays depth items code)
    (later : Lays depth others more) : Lays depth (items ++ others) (code ++ more) := by
  refine ⟨?_, ?_, ?_⟩
  · rw [rowsAll_append, first.depth]
    exact List.forall_mem_append.mpr ⟨first.plain, later.plain⟩
  · rw [rowsAll_append, first.depth, List.filter_append, first.code, later.code]
  · rw [depthAfterAll_append, first.depth, later.depth]

theorem flatMap {α : Type} {all : List α} {items : α → List Item} {code : α → List String}
    (each : ∀ a ∈ all, Lays depth (items a) (code a)) : Lays depth (all.flatMap items) (all.flatMap code) := by
  induction all with
  | nil => exact nil
  | cons a all ih =>
      obtain ⟨first, later⟩ := List.forall_mem_cons.mp each
      exact first.append (ih later)

theorem line {text : String} (plain : Plain text) (code : isCode text = true) :
    Lays depth [.line text] [margin depth ++ text] := by
  refine ⟨List.forall_mem_singleton.mpr (.append (plain_margin depth) plain), ?_, rfl⟩
  simp [rowsAll, Item.rows, isDirective_margin, isDirective_of_isCode code]

theorem directive {text : String} (plain : Plain text) (directive : isDirective text = true) :
    Lays depth [.line text] [] := by
  refine ⟨List.forall_mem_singleton.mpr (.append (plain_margin depth) plain), ?_, rfl⟩
  simp [rowsAll, Item.rows, isDirective_margin, directive]

theorem blank : Lays depth [.blank] [""] := ⟨List.forall_mem_singleton.mpr (by decide), rfl, rfl⟩

theorem block {header close : String} {body : List Item} {code : List String} (inside : Lays (depth + 1) body code)
    (plain : Plain header ∧ Plain close) (starts : isCode header = true ∧ isCode close = true) :
    Lays depth [.block header close body] ((margin depth ++ header) :: code ++ [margin depth ++ close]) := by
  have rows : rowsAll depth [.block header close body] =
      (margin depth ++ header) :: rowsAll (depth + 1) body ++ [margin depth ++ close] := by
    rw [rowsAll, Item.rows, inside.depth, Nat.add_sub_cancel, rowsAll, List.append_nil]
  have bounds := plain_margin depth
  refine ⟨?_, ?_, ?_⟩
  · rw [rows]
    refine List.forall_mem_append.mpr ⟨List.forall_mem_cons.mpr ⟨bounds.append plain.1, inside.plain⟩, ?_⟩
    exact List.forall_mem_singleton.mpr (bounds.append plain.2)
  · rw [rows, List.filter_append, List.filter_cons]
    simp [isDirective_margin, isDirective_of_isCode starts.1, isDirective_of_isCode starts.2, inside.code]
  · rw [depthAfterAll, Item.depthAfter, inside.depth]
    rfl

end Lays

theorem lays_lineMark (sources : Sources) (span : Span) (depth : Nat) : Lays depth (lineMark sources span) [] := by
  unfold lineMark
  split
  case h_1 => exact .nil
  case h_2 file _ =>
    have number : Plain (toString (file.lineOf span.start)) := plain_number (file.lineOf span.start)
    refine .directive ?_ ?_
    · exact .append (.append (.append (.append (by decide) number) (by decide)) (plain_escape _)) (by decide)
    · rw [isDirective, String.append_assoc, String.append_assoc, String.append_assoc, String.toList_append]
      rfl

theorem lays_statement (sources : Option Sources) {functions context next : Typing.Context} {line : Line}
    {written : Statement} (shows : line.Shows functions context written next) (depth : Nat) :
    Lays depth (statement sources written) [margin depth ++ statementLine written] := by
  have itself : Lays depth [.line (statementLine written)] [margin depth ++ statementLine written] := by
    rw [shows.text_eq]
    exact .line (plain_line shows.legible) (isCode_line shows.legible)
  cases sources with
  | none => exact itself
  | some sources => exact (lays_lineMark sources _ depth).append itself

theorem ShowsBody.lays (sources : Option Sources) {functions context : Typing.Context} {lines : List Line}
    {body : List Statement} (shows : ShowsBody functions context lines body) (depth : Nat) :
    Lays depth (body.flatMap (statement sources)) (body.map fun s => margin depth ++ statementLine s) := by
  induction shows with
  | nil => exact .nil
  | cons first _ ih => exact (lays_statement sources first depth).append ih

theorem lays_definition (sources : Option Sources) {function : Function} (named : IsName function.name)
    {names : Typing.Context} {lines : List Line} (shows : ShowsBody names [] lines function.body) :
    Lays 1 (definition sources function) (definitionRows function) := by
  have plain : Plain (signature function ++ " \x7b") := .append (plain_signature named) (by decide)
  have code := isCode_append (isCode_signature function) " \x7b"
  exact Lays.blank.append (.block (shows.lays sources 2) ⟨plain, by decide⟩ ⟨code, by decide⟩)

theorem lays_prototype {function : Function} (named : IsName function.name) :
    Lays 1 [.line (signature function ++ ";")] [prototype function] :=
  .line (.append (plain_signature named) (by decide)) (isCode_append (isCode_signature function) _)

theorem lays_entry (program : Program) : Lays 0 (entry program) (rowsAll 0 (entry program)) := by
  rw [entry]
  cases program.function? "main" with
  | none => exact .nil
  | some main =>
      dsimp only
      split <;> exact ⟨by decide, by decide, by decide⟩

theorem lays_items (sources : Option Sources) {program : Program} (legible : Legible program) :
    Lays 0 (items sources program) (openingRows ++ functionRows program) := by
  have prototypes := Lays.flatMap fun function member => lays_prototype (legible.named function member)
  have definitions : Lays 1 (program.functions.flatMap (definition sources))
      (program.functions.flatMap definitionRows) := by
    refine .flatMap fun function member => ?_
    obtain ⟨lines, shows⟩ := legible.bodies function member
    exact lays_definition sources (legible.named function member) shows
  have inside := prototypes.append definitions
  rw [← List.map_eq_flatMap, ← List.map_eq_flatMap] at inside
  have heading : Lays 0 [.line "// Generated by the Jakt compiler. Do not edit.", .line "#include <cstdint>",
      .line "#include <iostream>", .line "#include <string>", .blank]
      ["// Generated by the Jakt compiler. Do not edit.", ""] :=
    ⟨by decide, by decide, by decide⟩
  have space : Lays 0 [.block "namespace Jakt \x7b" "\x7d // namespace Jakt" _] _ :=
    .block inside ⟨by decide, by decide⟩ ⟨by decide, by decide⟩
  have whole := (heading.append space).append (lays_entry program)
  have opening : openingRows = ["// Generated by the Jakt compiler. Do not edit.", "", "namespace Jakt \x7b"] := by
    decide
  have flat : ∀ row, margin 0 ++ row = row := fun _ => String.empty_append
  simpa [items, opening, functionRows, closingRows, flat] using whole

/-- The code of a program is the same with and without line marks. -/
theorem codeRows_emit (sources : Option Sources) {program : Program} (legible : Legible program) :
    codeRows (emit sources program) = openingRows ++ functionRows program := by
  have lays := lays_items sources legible
  rw [emit, layOut_eq, codeRows, rowsOf_lines lays.plain, lays.code]

end StageZero.Cxx
