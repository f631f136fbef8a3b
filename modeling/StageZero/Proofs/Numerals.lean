import StageZero.Proofs.Decimals
import StageZero.Proofs.Emission
import StageZero.Proofs.Leaves

/-! Integer literals from a text to the C++ that is generated for it. No literal wraps or loses digits: one that is too
large is garbage and is reported, and each of the others is written as the decimal spelling of its value. -/
namespace StageZero

/-! ### Numbers in a line of C++ -/

namespace Cxx
open Token (IsName isNameStart isNamePart)

/-- What goes on with a number in C++: digits, and also the characters of names, separators and points. -/
def isNumberPart (c : Char) : Bool := isNamePart c || c == '.' || c == '\''

/-- The numbers in a line of C++, outside names and string literals. -/
def numerals : List Char → List (List Char)
  | [] => []
  | c :: cs =>
    if c = '"' then
      match _read : readLiteral cs with
      | none => []
      | some (_, rest) => numerals rest
    else if isNameStart c then numerals (cs.dropWhile isNamePart)
    else if c.isDigit then (c :: cs.takeWhile isNumberPart) :: numerals (cs.dropWhile isNumberPart)
    else numerals cs
termination_by cs => cs.length
decreasing_by
  · exact Nat.lt_succ_of_lt (readLiteral_length _read)
  · exact Nat.lt_succ_of_le (List.dropWhile_suffix _).length_le
  · exact Nat.lt_succ_of_le (List.dropWhile_suffix _).length_le
  · exact Nat.lt_succ_self _

/-- Characters of which the last does not go on in what follows. -/
def Parted (front rest : List Char) : Prop :=
  front.getLast?.any isNumberPart = false ∨ rest.head?.any isNumberPart = false

theorem Parted.of_suffix {front back rest : List Char} (parted : Parted front rest) (suffix : back <:+ front) :
    Parted back rest := by
  obtain ⟨before, rfl⟩ := suffix
  refine parted.imp_left fun ends => ?_
  cases last : back.getLast? with
  | none => rfl
  | some c => rwa [List.getLast?_append, last] at ends

theorem Parted.of_head {c : Char} (other : isNumberPart c = false) (front rest : List Char) :
    Parted front (c :: rest) := .inr other

/-- A run that does not go on in what follows is the same without it. -/
theorem Parted.run {p : Char → Bool} (part : ∀ c, p c = true → isNumberPart c = true) {c : Char}
    {cs rest : List Char} (first : p c = true) (parted : Parted (c :: cs) rest) :
    (cs ++ rest).takeWhile p = cs.takeWhile p ∧ (cs ++ rest).dropWhile p = cs.dropWhile p ++ rest := by
  induction cs generalizing c with
  | nil =>
      have outside : ∀ d ∈ rest.head?, p d = false := by
        intro d next
        rw [Bool.eq_false_iff]
        intro inside
        rcases parted with ends | begins
        · exact absurd (part c first) (Bool.eq_false_iff.mp ends)
        · rw [Option.mem_def.mp next] at begins
          exact absurd (part d inside) (Bool.eq_false_iff.mp begins)
      exact @Token.run_append _ p [] rest (List.forall_mem_nil _) outside
  | cons d cs ih =>
      by_cases inside : p d = true
      · obtain ⟨taken, left⟩ := ih inside (parted.of_suffix (List.suffix_cons c _))
        simp [inside, taken, left]
      · simp [inside]

theorem isNumberPart_of_isNamePart {c : Char} (part : isNamePart c = true) : isNumberPart c = true := by
  rw [isNumberPart, part]
  rfl

theorem isNumberPart_of_isDigit {c : Char} (digit : c.isDigit = true) : isNumberPart c = true := by
  refine isNumberPart_of_isNamePart ?_
  rw [isNamePart, Text.isNumeric_of_isDigit digit, Bool.or_true, Bool.true_or]

/-- Neither a quote nor a digit. -/
def isWording (c : Char) : Bool := c != '"' && !c.isDigit

theorem numerals_wording {cs : List Char} (wording : cs.all isWording = true) : '"' ∉ cs ∧ numerals cs = [] := by
  rw [List.all_eq_true] at wording
  constructor
  · intro quote
    cases wording _ quote
  · fun_induction numerals cs with
    | case1 => rfl
    | case2 | case3 => cases wording _ (List.mem_cons_self ..)
    | case4 c cs quote start ih =>
        exact ih fun d member => wording d (List.mem_cons_of_mem c ((List.dropWhile_suffix _).mem member))
    | case5 c cs quote start digit ih =>
        have plain := wording c (List.mem_cons_self ..)
        rw [isWording, digit, Bool.not_true, Bool.and_false] at plain
        cases plain
    | case6 c cs quote start digit ih => exact ih fun d member => wording d (List.mem_cons_of_mem c member)

/-- Characters without quotes have the same numbers in front of others, if none goes on there. -/
theorem numerals_append {front rest : List Char} (quoteless : '"' ∉ front) (parted : Parted front rest) :
    numerals (front ++ rest) = numerals front ++ numerals rest := by
  fun_induction numerals front with
  | case1 => rfl
  | case2 | case3 => exact absurd (List.mem_cons_self ..) quoteless
  | case4 c cs quote start ih =>
      obtain ⟨-, run⟩ := parted.run (fun _ => isNumberPart_of_isNamePart) (Token.isNamePart_of_isNameStart start)
      have suffix := (List.dropWhile_suffix isNamePart).trans (List.suffix_cons c cs)
      rw [List.cons_append, numerals, if_neg quote, if_pos start, run,
        ih (fun member => quoteless (suffix.mem member)) (parted.of_suffix suffix)]
  | case5 c cs quote start digit ih =>
      obtain ⟨taken, run⟩ := parted.run (fun _ => id) (isNumberPart_of_isDigit digit)
      have suffix := (List.dropWhile_suffix isNumberPart).trans (List.suffix_cons c cs)
      rw [List.cons_append, numerals, if_neg quote, if_neg start, if_pos digit, taken, run,
        ih (fun member => quoteless (suffix.mem member)) (parted.of_suffix suffix), List.cons_append]
  | case6 c cs quote start digit ih =>
      have suffix := List.suffix_cons c cs
      rw [List.cons_append, numerals, if_neg quote, if_neg start, if_neg digit,
        ih (fun member => quoteless (suffix.mem member)) (parted.of_suffix suffix)]

theorem numerals_literal (text rest : List Char) :
    numerals ('"' :: (text.flatMap escaped ++ '"' :: rest)) = numerals rest := by
  have read := readLiteral_escape text rest
  rw [numerals, if_pos rfl]
  split
  case h_1 none => rw [read] at none; cases none
  case h_2 found => rw [read] at found; cases found; rfl

/-- Characters without a number do not count. -/
theorem numerals_skip {front : String} {rest : List Char} (bare : '"' ∉ front.toList ∧ numerals front.toList = [])
    (parted : Parted front.toList rest) : numerals (front.toList ++ rest) = numerals rest := by
  rw [numerals_append bare.1 parted, bare.2, List.nil_append]

/-- The digits of a number, without its sign. -/
def digits (value : Int) : List Char := Nat.toDigits 10 value.natAbs

theorem numerals_toDigits (n : Nat) : numerals (Nat.toDigits 10 n) = [Nat.toDigits 10 n] := by
  obtain ⟨c, more, shape⟩ := List.exists_cons_of_ne_nil (l := Nat.toDigits 10 n) Nat.toDigits_ne_nil
  have all := (Text.numeral_toDigits n).digits
  rw [shape] at all ⊢
  obtain ⟨digit, inside⟩ := List.forall_mem_cons.mp all
  have quote : c ≠ '"' := by
    rintro rfl
    exact absurd digit (by decide)
  have start : ¬ isNameStart c = true := fun start => by
    rw [Token.isDigit_of_isNameStart start] at digit
    cases digit
  have parts : ∀ d ∈ more, isNumberPart d = true := fun d member => isNumberPart_of_isDigit (inside d member)
  rw [numerals, if_neg quote, if_neg start, if_pos digit, List.takeWhile_eq_self_iff.mpr parts,
    List.dropWhile_eq_nil_iff.mpr parts, numerals]

theorem numerals_number (value : Int) : numerals (toString value).toList = [digits value] := by
  cases value with
  | ofNat n =>
      have written : (toString (Int.ofNat n)).toList = Nat.toDigits 10 n := Nat.toList_repr
      rw [written, numerals_toDigits]
      rfl
  | negSucc n =>
      rw [toList_negative, numerals, if_neg (by decide), if_neg (by decide +kernel), if_neg (by decide),
        numerals_toDigits]
      rfl

theorem numerals_name {name : String} (legible : IsName name) : '"' ∉ name.toList ∧ numerals name.toList = [] := by
  constructor
  · intro member
    exact absurd (legible.all _ member) (by decide +kernel)
  · obtain ⟨c, more, shape, start, parts⟩ := legible.shape
    have quote : c ≠ '"' := by
      rintro rfl
      exact absurd start (by decide +kernel)
    rw [shape, numerals, if_neg quote, if_pos start, List.dropWhile_eq_nil_iff.mpr parts, numerals]

theorem Stop.parted {rest : List Char} (stop : Stop rest) (front : List Char) : Parted front rest := by
  obtain ⟨c, later, rfl, rfl | rfl⟩ := stop <;> exact .of_head (by decide +kernel) _ _

end Cxx

/-! ### Numbers of programs -/

def Symbol.number? : Symbol → Option Int
  | .number value => some value
  | _ => none

theorem Symbol.eq_number_of_number? {symbol : Symbol} {value : Int} (picked : symbol.number? = some value) :
    symbol = .number value := by
  cases symbol with
  | number =>
      cases picked
      rfl
  | _ => cases picked

/-- The values of the integer literals among some tokens. -/
def Token.numbers (tokens : List Token) : List Int := tokens.filterMap fun token => token.symbol.number?

namespace Program

mutual

def Expression.numbers : Expression → List Int
  | .number value => [value]
  | .print _ _ arguments => numbersAll arguments
  | .call .. | .variable .. | .quotation _ | .garbage => []

def numbersAll : List Expression → List Int
  | [] => []
  | argument :: later => argument.numbers ++ numbersAll later

end

def Statement.numbers : Statement → List Int
  | .let _ _ initial _ => initial.numbers
  | .return none _ => []
  | .return (some value) _ | .expression value _ => value.numbers

def Function.numbers (function : Function) : List Int := function.body.flatMap Statement.numbers

end Program

def Program.numbers (program : Program) : List Int := program.functions.flatMap Function.numbers

namespace Typing
variable {functions : String → Ty → Prop} {context : Context} {returnType : Ty}

theorem Expression.numbers_eq {tree : Tree.Expression} {type : Ty} {value : Program.Expression}
    (derived : Expression functions context tree type value) :
    tree.leaves.filterMap Symbol.number? = value.numbers := by
  refine @Expression.rec functions context (fun tree _ value _ => tree.leaves.filterMap Symbol.number? = value.numbers)
    (fun items arguments _ => (Tree.leavesAll items).filterMap Symbol.number? = Program.numbersAll arguments)
    ?number ?quotation ?name ?call ?print ?nil ?cons _ _ _ derived
  case number | quotation | name =>
    intros
    rw [Tree.Expression.leaves, Program.Expression.numbers]
    rfl
  case call =>
    intros
    rw [Tree.Expression.leaves, Tree.leavesAll, Program.Expression.numbers]
    rfl
  case print =>
    intro callee target text textSpan items span pieces arguments _ _ _ _ ih
    rw [Tree.Expression.leaves, Tree.leavesAll, Tree.Expression.leaves, Program.Expression.numbers, ← ih]
    rfl
  case nil =>
    rw [Tree.leavesAll, Program.numbersAll]
    rfl
  case cons =>
    intro item type argument items arguments _ _ _ first later
    rw [Tree.leavesAll, Program.numbersAll, List.filterMap_append, first, later]

theorem Statement.numbers_eq {tree : Tree.Statement} {next : Context} {statement : Program.Statement}
    (derived : Statement functions returnType context tree next statement) :
    tree.leaves.filterMap Symbol.number? = statement.numbers := by
  cases derived with
  | «let» value | «return» value | expression value => exact value.numbers_eq
  | returnNothing => rfl

theorem Statements.numbers_eq {trees : List Tree.Statement} {statements : List Program.Statement}
    (derived : Statements functions returnType context trees statements) :
    (trees.flatMap Tree.Statement.leaves).filterMap Symbol.number? = statements.flatMap Program.Statement.numbers := by
  induction derived with
  | nil => rfl
  | cons first _ ih => rw [List.flatMap_cons, List.filterMap_append, first.numbers_eq, ih, List.flatMap_cons]

theorem Function.numbers_eq {tree : Tree.Function} {function : Program.Function}
    (derived : Function functions tree function) : tree.leaves.filterMap Symbol.number? = function.numbers := by
  cases derived with
  | function _ statements => exact statements.numbers_eq

theorem File.numbers_eq {tree : Tree.File} {program : Program} (derived : File tree program) :
    tree.leaves.filterMap Symbol.number? = program.numbers := by
  rw [Tree.File.leaves, List.filterMap_flatMap, Program.numbers, List.flatMap_def, List.flatMap_def]
  have each := Program.map_related (f := fun tree => tree.leaves.filterMap Symbol.number?)
    (g := Program.Function.numbers) derived.functions fun _ _ function => function.numbers_eq.symm
  exact congrArg List.flatten each.symm

end Typing

/-- The numbers of an accepted text are those of its program. -/
theorem Accepted.numbers_eq {file : FileId} {text : String} (accepted : Accepted file text) :
    Token.numbers (scan file text).stream.tokens = (programOf file text).numbers := by
  have leafy : ∀ symbol : Symbol, symbol.isLeaf = false → symbol.number? = none := by
    intro symbol other
    cases symbol with
    | number => cases other
    | _ => rfl
  rw [Token.numbers, ← Token.filterMap_leaves leafy, accepted.derived.leaves_eq, accepted.typed.numbers_eq]

/-! ### Numbers in generated text -/

namespace Cxx
variable {functions context : Typing.Context} {rest : List Char}

theorem Operand.Shows.numerals_eq {operand : Operand} {value : Program.Expression}
    (shows : operand.Shows functions context value) (stop : Stop rest) :
    numerals (operand.text.toList ++ rest) = value.numbers.map digits ++ numerals rest := by
  cases shows with
  | @number value =>
      have quoteless : '"' ∉ (toString value).toList := by
        intro member
        exact absurd (number_chars value _ member) (by decide)
      rw [Operand.text, numerals_append quoteless (stop.parted _), numerals_number, Program.Expression.numbers]
      rfl
  | @quotation text =>
      have whole : (Operand.quotation text).text.toList ++ rest =
          "std::string(".toList ++ '"' :: (text.toList.flatMap escaped ++ '"' :: (")".toList ++ rest)) := by
        rw [toList_quotation]
        simp
      rw [whole, numerals_skip (numerals_wording (by decide +kernel)) (.inl (by decide +kernel)), numerals_literal,
        numerals_skip (numerals_wording (by decide +kernel)) (.inl (by decide +kernel)), Program.Expression.numbers]
      rfl
  | «variable» named =>
      rw [Operand.text, numerals_skip (numerals_name named) (stop.parted _), Program.Expression.numbers]
      rfl
  | @call callee _ named =>
      have whole : (Operand.call callee).text.toList ++ rest = callee.toList ++ ("()".toList ++ rest) := by
        rw [toList_call]
        simp
      have parted : Parted callee.toList ("()".toList ++ rest) :=
        .of_head (c := '(') (by decide +kernel) _ _
      rw [whole, numerals_skip (numerals_name named) parted,
        numerals_skip (numerals_wording (by decide +kernel)) (.inl (by decide +kernel)), Program.Expression.numbers]
      rfl

theorem numerals_pieceText (piece : String) (rest : List Char) :
    numerals ((pieceText piece).toList ++ rest) = numerals rest := by
  rw [pieceText]
  split
  case isTrue => rfl
  case isFalse =>
    have whole : (" << \"" ++ escape piece ++ "\"").toList ++ rest =
        " << ".toList ++ '"' :: (piece.toList.flatMap escaped ++ '"' :: rest) := by
      simp [toList_escape]
    rw [whole, numerals_skip (numerals_wording (by decide +kernel)) (.inl (by decide +kernel)), numerals_literal]

theorem ShowsMore.numerals_eq {more : List (Operand × String)} {arguments : List Program.Expression}
    {pieces : List String} (shows : ShowsMore functions context more arguments pieces) (stop : Stop rest) :
    numerals ((moreText more).toList ++ rest) = (Program.numbersAll arguments).map digits ++ numerals rest := by
  induction shows with
  | nil =>
      rw [moreText, numerals_skip (numerals_wording (by decide +kernel)) (stop.parted _), Program.numbersAll]
      rfl
  | @cons operand piece more argument arguments pieces first _ ih =>
      rw [toList_moreText_cons, numerals_skip (numerals_wording (by decide +kernel)) (.inl (by decide +kernel)),
        first.numerals_eq (stop_pieceText piece (stop_moreText more rest)), numerals_pieceText, ih, Program.numbersAll,
        List.map_append, List.append_assoc]

theorem Value.Shows.numerals_eq {value : Value} {tree : Program.Expression} (shows : value.Shows functions context tree)
    (stop : Stop rest) : numerals (value.text.toList ++ rest) = tree.numbers.map digits ++ numerals rest := by
  cases shows with
  | plain operand => exact operand.numerals_eq stop
  | @print target first more arguments pieces shown =>
      have wording : (stream target).toList.all isWording = true := by cases target <;> decide +kernel
      have behind := stop_pieceText first (stop_moreText more rest)
      rw [toList_print, numerals_skip (numerals_wording wording) (behind.parted _), numerals_pieceText,
        shown.numerals_eq stop, Program.Expression.numbers]

/-- A line has the numbers of the statement that it is written for, each in decimal. -/
theorem Line.Shows.numerals_eq {next : Typing.Context} {line : Line} {statement : Program.Statement}
    (shows : line.Shows functions context statement next) :
    numerals line.text.toList = statement.numbers.map digits := by
  have last {value : Value} {tree : Program.Expression} (shown : value.Shows functions context tree) :
      numerals (value.text.toList ++ ";".toList) = tree.numbers.map digits := by
    have nothing : numerals ";".toList = [] := (numerals_wording (by decide +kernel)).2
    rw [shown.numerals_eq stop_semicolon, nothing, List.append_nil]
  cases shows with
  | @declaration type name initial value span named bindable _ shown =>
      have whole : (Line.declaration type name initial).text.toList = (typeName type ++ " ").toList ++
          (name.toList ++ (" = ".toList ++ (initial.text.toList ++ ";".toList))) := by
        simp [Line.text]
      have known : '"' ∉ (typeName type ++ " ").toList ∧ numerals (typeName type ++ " ").toList = [] ∧
          (typeName type ++ " ").toList.getLast?.any isNumberPart = false := by
        rcases bindable with rfl | rfl <;> decide +kernel
      have parted : Parted name.toList (" = ".toList ++ (initial.text.toList ++ ";".toList)) :=
        .of_head (c := ' ') (by decide +kernel) _ _
      rw [whole, numerals_skip ⟨known.1, known.2.1⟩ (.inl known.2.2), numerals_skip (numerals_name named) parted,
        numerals_skip (numerals_wording (by decide +kernel)) (.inl (by decide +kernel)), last shown]
      rfl
  | returnNothing =>
      have wording : "return;".toList.all isWording = true := by decide +kernel
      exact (numerals_wording wording).2
  | @«return» value tree span shown =>
      have whole : (Line.return (some value)).text.toList =
          "return ".toList ++ (value.text.toList ++ ";".toList) := by
        simp [Line.text]
      rw [whole, numerals_skip (numerals_wording (by decide +kernel)) (.inl (by decide +kernel)), last shown]
      rfl
  | expression shown =>
      rw [Line.text, String.toList_append, last shown]
      rfl

theorem ShowsBody.numerals_eq {lines : List Line} {body : List Program.Statement}
    (shows : ShowsBody functions context lines body) :
    (body.flatMap fun s => numerals (statementLine s).toList) =
      (body.flatMap Program.Statement.numbers).map digits := by
  induction shows with
  | nil => rfl
  | cons first _ ih =>
      rw [List.flatMap_cons, first.text_eq, first.numerals_eq, ih, List.flatMap_cons, List.map_append]

/-- The rows of statements in a generated text: those that stand two levels deep. -/
def statementRows (text : String) : List String := (codeRows text).filter (indented 2)

theorem indented_code {text : String} (code : isCode text = true) : indented 2 (Text.margin 1 ++ text) = false := by
  have deeper : (Text.margin 2).toList = (Text.margin 1).toList ++ "    ".toList := by decide
  rw [Bool.eq_false_iff, indented, ne_eq, List.isPrefixOf_iff_prefix, deeper, String.toList_append,
    List.prefix_append_right_inj]
  rintro ⟨more, shape⟩
  rw [isCode, ← shape] at code
  exact absurd code (by simp)

theorem statementRows_emit (sources : Option Sources) {program : Program} (legible : Legible program) :
    statementRows (emit sources program) =
      program.functions.flatMap fun function => function.body.map fun s => Text.margin 2 ++ statementLine s := by
  have opening : openingRows.filter (indented 2) = [] := by decide
  have prototypes : (program.functions.map prototype).filter (indented 2) = [] := by
    refine List.filter_eq_nil_iff.mpr (List.forall_mem_map.mpr fun function _ => ?_)
    rw [prototype, indented_code (isCode_append (isCode_signature function) _)]
    exact Bool.false_ne_true
  have closing : (closingRows program).filter (indented 2) = [] := by
    rw [closingRows, entry]
    split
    · decide
    · dsimp only
      split <;> decide
  have definition (function : Program.Function) : (definitionRows function).filter (indented 2) =
      function.body.map fun s => Text.margin 2 ++ statementLine s := by
    have inside : ∀ row ∈ function.body.map fun s => Text.margin 2 ++ statementLine s, indented 2 row = true :=
      List.forall_mem_map.mpr fun s _ => indented_margin 2 _
    have blank : indented 2 "" = false := by decide
    have last : indented 2 (Text.margin 1 ++ "\x7d") = false := by decide
    have header := indented_code (isCode_append (isCode_signature function) " \x7b")
    rw [definitionRows, List.filter_cons, blank, List.filter_cons, header, List.filter_append,
      List.filter_eq_self.mpr inside, List.filter_cons, last]
    simp
  rw [statementRows, codeRows_emit sources legible, functionRows, List.filter_append, List.filter_append,
    List.filter_append, opening, prototypes, closing, List.filter_flatMap]
  simp only [definition, List.nil_append, List.append_nil]

theorem numerals_emit (sources : Option Sources) {program : Program} (legible : Legible program) :
    ((statementRows (emit sources program)).flatMap fun row => numerals row.toList) = program.numbers.map digits := by
  have row (s : Program.Statement) :
      numerals (Text.margin 2 ++ statementLine s).toList = numerals (statementLine s).toList := by
    rw [String.toList_append, numerals_skip (numerals_wording (by decide +kernel)) (.inl (by decide +kernel))]
  have each : ∀ function ∈ program.functions,
      (function.body.flatMap fun s => numerals (statementLine s).toList) = function.numbers.map digits := by
    intro function member
    obtain ⟨lines, shows⟩ := legible.bodies function member
    exact shows.numerals_eq
  rw [statementRows_emit sources legible, List.flatMap_assoc, Program.numbers, List.map_flatMap]
  refine List.flatMap_congr fun function member => ?_
  rw [List.flatMap_map]
  simp only [row]
  exact each function member

end Cxx

/-- No integer literal wraps or loses digits. A token that starts with a run of digits is over all of it. It is a
number, which has the value of the digits, as long as that fits into 63 bits. Else it is garbage, and one diagnostic is
over it. There are no other numbers. And in what is generated for an accepted text each of them, in its order, is
spelled in decimal with no leading zero. -/
theorem integers_exact (file : FileId) (text : String) :
    let tokens := (scan file text).stream.tokens
    let diagnostics := (scan file text).faults.map Fault.diagnostic
    (∀ front run, Text.DigitRun text front run → ∀ token ∈ tokens, token.span.start = Token.width front →
      let span : Span := ⟨file, Token.width front, Token.width (front ++ run)⟩
      let reports := diagnostics.filter fun diagnostic => diagnostic.span.meets span
      (Text.decimal run ≤ 2 ^ 63 - 1 → token = ⟨.number (Text.decimal run), span⟩ ∧ reports = []) ∧
        (2 ^ 63 - 1 < Text.decimal run →
          token = ⟨.garbage, span⟩ ∧ reports = [⟨"lex", "integer literal out of range", span, none⟩])) ∧
      (∀ token ∈ tokens, ∀ value, token.symbol = .number value → ∃ front run, Text.DigitRun text front run ∧
        value = Text.decimal run ∧ Text.decimal run ≤ 2 ^ 63 - 1 ∧
          token.span = ⟨file, Token.width front, Token.width (front ++ run)⟩) ∧
      (Accepted file text → ∀ sources, List.Forall₂ Text.Numeral
        ((Cxx.statementRows (Cxx.emit sources (programOf file text))).flatMap fun row => Cxx.numerals row.toList)
        (Token.numbers tokens)) := by
  intro tokens diagnostics
  refine ⟨?_, fun token member value number => Token.exists_digitRun member number, ?_⟩
  · intro front run digits token member starts span reports
    obtain ⟨same, told⟩ := digits.token_eq member starts
    have place : token.span = span := by
      rw [same]
      split <;> rfl
    have worded : reports =
        ((scan file text).faults.filter fun fault => fault.span.meets token.span).map Fault.diagnostic := by
      rw [place]
      exact List.filter_map
    rw [worded, told]
    constructor
    · intro fits
      have fits : Text.decimal run ≤ Token.maxNumber := fits
      rw [if_pos fits] at same ⊢
      exact ⟨same, rfl⟩
    · intro large
      have large : ¬ Text.decimal run ≤ Token.maxNumber := Nat.not_le_of_lt large
      rw [if_neg large] at same ⊢
      exact ⟨same, rfl⟩
  · intro accepted sources
    rw [Cxx.numerals_emit sources (Cxx.legible_of_accepted accepted), ← accepted.numbers_eq,
      List.forall₂_map_left_iff, List.forall₂_same]
    intro value among
    obtain ⟨token, member, number⟩ := List.mem_filterMap.mp among
    have symbol : token.symbol = .number value := Symbol.eq_number_of_number? number
    obtain ⟨front, run, -, rfl, -⟩ := Token.exists_digitRun member symbol
    exact Text.numeral_toDigits (Text.decimal run)

/-- Zeros in front do not make a number too large. -/
example : (scan ⟨0⟩ "0009223372036854775807").stream.tokens.map Token.symbol = [.number 9223372036854775807] := by
  decide +kernel

end StageZero
