import Mathlib.Data.List.Basic
import StageZero.Cxx.Emit
import StageZero.Proofs.Literals
import StageZero.Proofs.Spelling

/-! The statements of generated C++: what they are made of, how they are written, and how a line of
text is read back. Reading undoes writing, so no two statements are written alike. -/
namespace StageZero.Cxx
open Program (Target)
open Token (IsName isNamePart)

/-- An expression that is no print. -/
inductive Operand where
  | number (value : Int)
  | quotation (text : String)
  | variable (name : String)
  | call (callee : String)

inductive Value where
  | plain (operand : Operand)
  /-- The piece in front, and each operand with the piece behind it. -/
  | print (target : Target) (first : String) (more : List (Operand × String))

/-- A statement on its line. -/
inductive Line where
  | declaration (type : Ty) (name : String) (initial : Value)
  | return (value : Option Value)
  | expression (value : Value)

/-! ### Writing -/

def Operand.text : Operand → String
  | .number value => toString value
  | .quotation text => "std::string(\"" ++ escape text ++ "\")"
  | .variable name => name
  | .call callee => callee ++ "()"

/-- An empty piece is left out. -/
def pieceText (piece : String) : String := if piece = "" then "" else " << \"" ++ escape piece ++ "\""

def moreText : List (Operand × String) → String
  | [] => " << std::endl"
  | item :: more => " << " ++ item.1.text ++ pieceText item.2 ++ moreText more

def Value.text : Value → String
  | .plain operand => operand.text
  | .print target first more => stream target ++ pieceText first ++ moreText more

def Line.text : Line → String
  | .declaration type name initial => typeName type ++ " " ++ name ++ " = " ++ initial.text ++ ";"
  | .return none => "return;"
  | .return (some value) => "return " ++ value.text ++ ";"
  | .expression value => value.text ++ ";"

/-! ### Reading -/

/-- What stands behind a word, if the word stands in front. -/
def after? (word : String) (cs : List Char) : Option (List Char) := cs.dropPrefix? word.toList

/-- Reads a number from behind its first character, which is a digit or a sign. -/
def readNumber (first : Char) (cs : List Char) : Operand × List Char :=
  let digits := cs.takeWhile Char.isDigit
  let value : Int :=
    if first = '-' then -(Nat.ofDigitChars 10 digits 0 : Int) else Nat.ofDigitChars 10 (first :: digits) 0
  (.number value, cs.dropWhile Char.isDigit)

/-- Reads a variable, or a call if parentheses follow the name. -/
def readName (cs : List Char) : Operand × List Char :=
  let name := String.ofList (cs.takeWhile isNamePart)
  match cs.dropWhile isNamePart with
  | '(' :: ')' :: rest => (.call name, rest)
  | rest => (.variable name, rest)

/-- Reads the rest of a constructed string. -/
def readQuotation (cs : List Char) : Option (Operand × List Char) :=
  match readLiteral cs with
  | some (text, ')' :: rest) => some (.quotation (String.ofList text), rest)
  | _ => none

def readWord : List Char → Option (Operand × List Char)
  | [] => none
  | c :: rest => some (if c.isDigit || c == '-' then readNumber c rest else readName (c :: rest))

def readOperand (cs : List Char) : Option (Operand × List Char) :=
  match after? "std::string(\"" cs with
  | some rest => readQuotation rest
  | none => readWord cs

/-- Reads an inserted literal, or the empty piece if there is none. -/
def readPiece (cs : List Char) : Option (String × List Char) :=
  match after? " << \"" cs with
  | some cs => (readLiteral cs).map fun read => (String.ofList read.1, read.2)
  | none => some ("", cs)

/-- Reads operands with the pieces behind them, up to the end of the line that a print writes. -/
def readMore (cs : List Char) : Option (List (Operand × String) × List Char) :=
  match after? " << std::endl" cs with
  | some rest => some ([], rest)
  | none =>
    match after? " << " cs with
    | none => none
    | some inserted =>
      match readOperand inserted with
      | none => none
      | some (operand, behind) =>
        match readPiece behind with
        | none => none
        | some (piece, rest) =>
          if _shorter : rest.length < cs.length then
            (readMore rest).map fun read => ((operand, piece) :: read.1, read.2)
          else none
termination_by cs.length

def readPrint (target : Target) (cs : List Char) : Option (Value × List Char) :=
  match readPiece cs with
  | none => none
  | some (first, rest) => (readMore rest).map fun read => (.print target first read.1, read.2)

def readValue (cs : List Char) : Option (Value × List Char) :=
  match after? "std::cout" cs with
  | some rest => readPrint .output rest
  | none =>
    match after? "std::cerr" cs with
    | some rest => readPrint .errors rest
    | none => (readOperand cs).map fun read => (.plain read.1, read.2)

/-- Reads a value that ends its line. -/
def readLast (cs : List Char) : Option Value :=
  match readValue cs with
  | some (value, [';']) => some value
  | _ => none

def readDeclaration (type : Ty) (cs : List Char) : Option Line :=
  match after? " = " (cs.dropWhile isNamePart) with
  | some rest => (readLast rest).map (.declaration type (String.ofList (cs.takeWhile isNamePart)))
  | none => none

def readLine (cs : List Char) : Option Line :=
  if cs = "return;".toList then some (.return none)
  else
    match after? "return " cs with
    | some rest => (readLast rest).map fun value => .return (some value)
    | none =>
      match after? "std::int64_t " cs with
      | some rest => readDeclaration .i64 rest
      | none =>
        match after? "std::string " cs with
        | some rest => readDeclaration .string rest
        | none => (readLast cs).map .expression

/-! ### What can be read back -/

def Operand.Legible : Operand → Prop
  | .number _ | .quotation _ => True
  | .variable name | .call name => IsName name

def Value.Legible : Value → Prop
  | .plain operand => operand.Legible
  | .print _ _ more => ∀ item ∈ more, item.1.Legible

def Line.Legible : Line → Prop
  | .declaration type name initial => (type = .i64 ∨ type = .string) ∧ IsName name ∧ initial.Legible
  | .return none => True
  | .return (some value) => value.Legible
  | .expression value => value.Legible

theorem after?_eq_some_iff {word : String} {cs rest : List Char} :
    after? word cs = some rest ↔ cs = word.toList ++ rest := by
  rw [after?, List.dropPrefix?_eq_some_iff]
  constructor
  · rintro ⟨front, rfl, same⟩
    rw [eq_of_beq same]
  · rintro rfl
    exact ⟨word.toList, rfl, beq_self_eq_true _⟩

theorem after?_append (word : String) (rest : List Char) : after? word (word.toList ++ rest) = some rest :=
  after?_eq_some_iff.mpr rfl

/-! ### Names and numbers -/

/-- What stands behind an operand: an insertion or the end of its line. -/
def Stop (rest : List Char) : Prop := ∃ c later, rest = c :: later ∧ (c = ' ' ∨ c = ';')

theorem Stop.outside {rest : List Char} (stop : Stop rest) : ∀ c ∈ rest.head?, isNamePart c = false := by
  obtain ⟨c, later, rfl, rfl | rfl⟩ := stop <;> rintro _ ⟨rfl⟩ <;> decide +kernel

theorem Stop.not_digit {rest : List Char} (stop : Stop rest) : ∀ c ∈ rest.head?, c.isDigit = false := by
  obtain ⟨c, later, rfl, rfl | rfl⟩ := stop <;> rintro _ ⟨rfl⟩ <;> rfl

theorem Stop.not_colon {rest : List Char} (stop : Stop rest) : ':' ∉ rest.head? := by
  obtain ⟨c, later, rfl, rfl | rfl⟩ := stop <;> exact nofun

/-- A text that does not start with a name of the standard library. -/
def Unqualified (cs : List Char) : Prop := ∀ later, cs ≠ 's' :: 't' :: 'd' :: ':' :: ':' :: later

/-- A name of the standard library, or a text that starts with one. -/
def Standard (word : String) : Prop := ∃ more, word.toList = 's' :: 't' :: 'd' :: ':' :: ':' :: more

theorem Unqualified.after? {cs : List Char} (unqualified : Unqualified cs) {word : String}
    (standard : Standard word) : Cxx.after? word cs = none := by
  obtain ⟨more, shape⟩ := standard
  rw [Option.eq_none_iff_forall_ne_some]
  intro later found
  rw [after?_eq_some_iff, shape] at found
  exact unqualified _ found

/-- A name with something else behind it than a colon. -/
theorem unqualified_name {name : String} {rest : List Char} (legible : IsName name)
    (outside : ∀ c ∈ rest.head?, isNamePart c = false) (colon : ':' ∉ rest.head?) :
    Unqualified (name.toList ++ rest) := by
  intro later same
  have standard : ∀ c ∈ ['s', 't', 'd'], isNamePart c = true := List.all_eq_true.mp (by decide +kernel)
  have behind : ∀ c ∈ (':' :: ':' :: later).head?, isNamePart c = false := by
    rintro _ ⟨rfl⟩
    decide +kernel
  obtain ⟨-, left⟩ := Token.run_inj legible.all outside standard behind same
  exact colon (left ▸ rfl)

/-- No name is a keyword, also with more behind it. -/
theorem name_ne_return {name : String} {rest later : List Char} (legible : IsName name)
    (outside : ∀ c ∈ rest.head?, isNamePart c = false) (behind : ∀ c ∈ later.head?, isNamePart c = false) :
    name.toList ++ rest ≠ "return".toList ++ later := by
  intro same
  have keyword : ∀ c ∈ "return".toList, isNamePart c = true := List.all_eq_true.mp (by decide +kernel)
  obtain ⟨word, -⟩ := Token.run_inj legible.all outside keyword behind same
  exact legible.free.2.2 (String.toList_injective word)

theorem toList_negative (n : Nat) : (toString (Int.negSucc n)).toList = '-' :: Nat.toDigits 10 (n + 1) := by
  rw [← Nat.toList_repr]
  exact String.toList_append

theorem isDigit_of_mem_toDigits {n : Nat} {d : Char} (member : d ∈ Nat.toDigits 10 n) : d.isDigit = true :=
  Nat.isDigit_of_mem_toDigits (by decide) (by decide) member

theorem number_chars (value : Int) : ∀ c ∈ (toString value).toList, c = '-' ∨ c.isDigit = true := by
  intro c member
  cases value with
  | ofNat n => exact .inr (isDigit_of_mem_toDigits (Nat.toList_repr ▸ member : c ∈ Nat.toDigits 10 n))
  | negSucc n =>
      rw [toList_negative] at member
      exact (List.mem_cons.mp member).imp_right isDigit_of_mem_toDigits

/-- A number starts with a digit or a sign, and reading it gives its value. -/
theorem number_text (value : Int) :
    ∃ first more, (toString value).toList = first :: more ∧ (first.isDigit || first == '-') = true ∧
      ∀ rest, (∀ c ∈ rest.head?, c.isDigit = false) →
        readNumber first (more ++ rest) = (.number value, rest) := by
  have digits : ∀ n : Nat, ∀ d ∈ Nat.toDigits 10 n, d.isDigit = true := fun _ _ => isDigit_of_mem_toDigits
  cases value with
  | ofNat n =>
      obtain ⟨first, more, shape⟩ := List.exists_cons_of_ne_nil (l := Nat.toDigits 10 n) Nat.toDigits_ne_nil
      have all := digits n
      have back : Nat.ofDigitChars 10 (Nat.toDigits 10 n) 0 = n := Nat.ofDigitChars_ten_toDigits
      rw [shape] at all back
      obtain ⟨digit, others⟩ := List.forall_mem_cons.mp all
      refine ⟨first, more, Nat.toList_repr.trans shape, Bool.or_eq_true_iff.mpr (.inl digit), ?_⟩
      intro rest stop
      obtain ⟨run, behind⟩ := Token.run_append others stop
      have unsigned : first ≠ '-' := by
        rintro rfl
        exact absurd digit (by decide)
      rw [readNumber, run, behind, if_neg unsigned, back]
      rfl
  | negSucc n =>
      refine ⟨'-', _, toList_negative n, rfl, fun rest stop => ?_⟩
      obtain ⟨run, behind⟩ := Token.run_append (digits (n + 1)) stop
      rw [readNumber, run, behind, if_pos rfl, Nat.ofDigitChars_ten_toDigits]
      rfl

/-! ### Operands -/

theorem toList_quotation (text : String) :
    (Operand.quotation text).text.toList = "std::string(\"".toList ++ (text.toList.flatMap escaped ++ ['"', ')']) := by
  rw [Operand.text, String.toList_append, String.toList_append, toList_escape, List.append_assoc]
  simp

theorem toList_call (callee : String) : (Operand.call callee).text.toList = callee.toList ++ ['(', ')'] := by
  simp [Operand.text]

theorem unqualified_number {first : Char} (start : (first.isDigit || first == '-') = true) (cs : List Char) :
    Unqualified (first :: cs) := by
  intro later same
  obtain ⟨rfl, -⟩ := List.cons_eq_cons.mp same
  exact absurd start (by decide)

theorem outside_parenthesis (rest : List Char) : ∀ c ∈ ('(' :: rest).head?, isNamePart c = false := by
  rintro _ ⟨rfl⟩
  decide +kernel

/-- An operand does not look like the front of a print or of a declaration. -/
theorem Operand.after?_text {operand : Operand} (legible : operand.Legible) {rest : List Char} (stop : Stop rest)
    {word : String} (standard : Standard word)
    (other : ∀ later, after? word ("std::string(\"".toList ++ later) = none) :
    after? word (operand.text.toList ++ rest) = none := by
  cases operand with
  | number value =>
      obtain ⟨first, digits, shape, start, -⟩ := number_text value
      have whole : (Operand.number value).text.toList = first :: digits := shape
      rw [whole]
      exact (unqualified_number start _).after? standard
  | quotation text =>
      rw [toList_quotation, List.append_assoc]
      exact other _
  | «variable» name => exact (unqualified_name legible stop.outside stop.not_colon).after? standard
  | call callee =>
      rw [toList_call, List.append_assoc]
      exact (unqualified_name legible (outside_parenthesis _) nofun).after? standard

theorem readName_variable {name : String} (legible : IsName name) {rest : List Char} (stop : Stop rest) :
    readName (name.toList ++ rest) = (.variable name, rest) := by
  obtain ⟨run, behind⟩ := Token.run_append legible.all stop.outside
  rw [readName, run, behind, String.ofList_toList]
  obtain ⟨c, later, rfl, rfl | rfl⟩ := stop <;> rfl

theorem readName_call {name : String} (legible : IsName name) (rest : List Char) :
    readName (name.toList ++ '(' :: ')' :: rest) = (.call name, rest) := by
  obtain ⟨run, behind⟩ := Token.run_append legible.all (outside_parenthesis (')' :: rest))
  rw [readName, run, behind, String.ofList_toList]
  rfl

theorem standard_string : Standard "std::string(\"" := ⟨"string(\"".toList, by simp⟩

theorem readOperand_name {name : String} (legible : IsName name) {rest : List Char}
    (outside : ∀ c ∈ rest.head?, isNamePart c = false) (colon : ':' ∉ rest.head?) :
    readOperand (name.toList ++ rest) = some (readName (name.toList ++ rest)) := by
  obtain ⟨c, more, shape, start, -⟩ := legible.shape
  have first : (c.isDigit || c == '-') = false := by
    rw [Token.isDigit_of_isNameStart start, Bool.false_or, beq_eq_false_iff_ne]
    rintro rfl
    exact absurd start (by decide +kernel)
  rw [readOperand, (unqualified_name legible outside colon).after? standard_string, shape]
  dsimp only [List.cons_append]
  rw [readWord, first]
  rfl

theorem readOperand_text {operand : Operand} (legible : operand.Legible) {rest : List Char} (stop : Stop rest) :
    readOperand (operand.text.toList ++ rest) = some (operand, rest) := by
  cases operand with
  | number value =>
      obtain ⟨first, digits, shape, start, read⟩ := number_text value
      have whole : (Operand.number value).text.toList = first :: digits := shape
      rw [whole, List.cons_append, readOperand, (unqualified_number start _).after? standard_string]
      dsimp only
      rw [readWord, start, if_pos rfl, read rest stop.not_digit]
  | quotation text =>
      rw [toList_quotation, List.append_assoc, readOperand, after?_append]
      dsimp only
      rw [readQuotation, List.append_assoc, List.cons_append, List.cons_append, List.nil_append, readLiteral_escape]
      change some (Operand.quotation (String.ofList text.toList), rest) = _
      rw [String.ofList_toList]
  | «variable» name =>
      have text : (Operand.variable name).text = name := rfl
      rw [text, readOperand_name legible stop.outside stop.not_colon, readName_variable legible stop]
  | call callee =>
      rw [toList_call, List.append_assoc]
      dsimp only [List.cons_append, List.nil_append]
      rw [readOperand_name legible (outside_parenthesis _) nofun, readName_call legible]

theorem Operand.first {operand : Operand} (legible : operand.Legible) :
    ∃ c more, operand.text.toList = c :: more ∧ (c.isDigit || c == '-' || Token.isNameStart c) = true := by
  cases operand with
  | number value =>
      obtain ⟨first, digits, shape, start, -⟩ := number_text value
      exact ⟨first, digits, shape, Bool.or_eq_true_iff.mpr (.inl start)⟩
  | quotation text => exact ⟨'s', _, toList_quotation text, by decide +kernel⟩
  | «variable» name =>
      obtain ⟨c, more, shape, start, -⟩ := legible.shape
      exact ⟨c, more, shape, Bool.or_eq_true_iff.mpr (.inr start)⟩
  | call callee =>
      obtain ⟨c, more, shape, start, -⟩ := legible.shape
      exact ⟨c, more ++ ['(', ')'], by rw [toList_call, shape, List.cons_append], Bool.or_eq_true_iff.mpr (.inr start)⟩

/-! ### Prints -/

theorem readPiece_text (piece : String) {rest : List Char} (other : after? " << \"" rest = none) :
    readPiece ((pieceText piece).toList ++ rest) = some (piece, rest) := by
  rw [pieceText]
  split
  case isTrue empty =>
    rw [String.toList_empty, List.nil_append, readPiece, other, empty]
  case isFalse =>
    have quote : "\"".toList = ['"'] := by simp
    rw [String.toList_append, String.toList_append, toList_escape, quote, List.append_assoc, List.append_assoc]
    rw [readPiece, after?_append]
    dsimp only [List.singleton_append]
    rw [readLiteral_escape, Option.map_some, String.ofList_toList]

theorem after?_of_append (front back : String) (cs : List Char) :
    after? (front ++ back) (front.toList ++ cs) = after? back cs := by
  ext rest
  rw [after?_eq_some_iff, after?_eq_some_iff, String.toList_append, List.append_assoc, List.append_cancel_left_eq]

/-- An operand is no literal. -/
theorem Operand.after?_quote {operand : Operand} (legible : operand.Legible) (rest : List Char) :
    after? "\"" (operand.text.toList ++ rest) = none := by
  obtain ⟨c, more, shape, start⟩ := Operand.first legible
  rw [Option.eq_none_iff_forall_ne_some]
  intro later found
  rw [after?_eq_some_iff, shape] at found
  obtain ⟨rfl, -⟩ := List.cons_eq_cons.mp found
  exact absurd start (by decide +kernel)

theorem toList_moreText_cons (operand : Operand) (piece : String) (more : List (Operand × String)) (rest : List Char) :
    (moreText ((operand, piece) :: more)).toList ++ rest =
      " << ".toList ++ (operand.text.toList ++ ((pieceText piece).toList ++ ((moreText more).toList ++ rest))) := by
  rw [moreText, String.toList_append, String.toList_append, String.toList_append]
  simp only [List.append_assoc]

theorem stop_moreText (more : List (Operand × String)) (rest : List Char) : Stop ((moreText more).toList ++ rest) := by
  cases more with
  | nil => exact ⟨' ', _, rfl, .inl rfl⟩
  | cons item more => exact ⟨' ', _, toList_moreText_cons item.1 item.2 more rest, .inl rfl⟩

theorem stop_pieceText (piece : String) {rest : List Char} (stop : Stop rest) :
    Stop ((pieceText piece).toList ++ rest) := by
  rw [pieceText]
  split
  case isTrue => exact stop
  case isFalse =>
    rw [String.toList_append, String.toList_append, List.append_assoc, List.append_assoc]
    exact ⟨' ', _, rfl, .inl rfl⟩

/-- Behind a piece comes no other piece. -/
theorem after?_moreText {more : List (Operand × String)} (legible : ∀ item ∈ more, item.1.Legible) (rest : List Char) :
    after? " << \"" ((moreText more).toList ++ rest) = none := by
  have insertion : " << \"" = " << " ++ "\"" := by decide
  cases more with
  | nil =>
      have last : moreText [] = " << " ++ "std::endl" := by decide
      rw [last, String.toList_append, List.append_assoc, insertion, after?_of_append]
      rfl
  | cons item more =>
      rw [toList_moreText_cons, insertion, after?_of_append]
      exact Operand.after?_quote (legible item (List.mem_cons_self ..)) _

theorem readMore_text {more : List (Operand × String)} (legible : ∀ item ∈ more, item.1.Legible) (rest : List Char) :
    readMore ((moreText more).toList ++ rest) = some (more, rest) := by
  induction more with
  | nil => rw [readMore, moreText, after?_append]
  | cons item more ih =>
      obtain ⟨operand, piece⟩ := item
      obtain ⟨first, later⟩ := List.forall_mem_cons.mp legible
      have stop := stop_pieceText piece (stop_moreText more rest)
      have notLast : after? " << std::endl" ((moreText ((operand, piece) :: more)).toList ++ rest) = none := by
        have last : " << std::endl" = " << " ++ "std::endl" := by decide
        rw [toList_moreText_cons, last, after?_of_append]
        exact Operand.after?_text first stop ⟨"endl".toList, by simp⟩ fun _ => rfl
      have shorter : ((moreText more).toList ++ rest).length <
          ((moreText ((operand, piece) :: more)).toList ++ rest).length := by
        rw [toList_moreText_cons]
        simp only [List.length_append]
        have : " << ".toList.length = 4 := by simp
        omega
      rw [readMore, notLast]
      dsimp only
      rw [toList_moreText_cons] at shorter ⊢
      rw [after?_append]
      dsimp only
      rw [readOperand_text first stop]
      dsimp only
      rw [readPiece_text piece (after?_moreText later rest)]
      dsimp only
      rw [dif_pos shorter, ih later]
      rfl

theorem readPrint_text (target : Target) (first : String) {more : List (Operand × String)}
    (legible : ∀ item ∈ more, item.1.Legible) (rest : List Char) :
    readPrint target ((pieceText first).toList ++ ((moreText more).toList ++ rest)) =
      some (.print target first more, rest) := by
  rw [readPrint, readPiece_text first (after?_moreText legible rest)]
  dsimp only
  rw [readMore_text legible]
  rfl

/-! ### Lines -/

theorem toList_print (target : Target) (first : String) (more : List (Operand × String)) (rest : List Char) :
    (Value.print target first more).text.toList ++ rest =
      (stream target).toList ++ ((pieceText first).toList ++ ((moreText more).toList ++ rest)) := by
  rw [Value.text, String.toList_append, String.toList_append, List.append_assoc, List.append_assoc]

theorem readValue_text {value : Value} (legible : value.Legible) {rest : List Char} (stop : Stop rest) :
    readValue (value.text.toList ++ rest) = some (value, rest) := by
  cases value with
  | plain operand =>
      have output : Standard "std::cout" := ⟨"cout".toList, by simp⟩
      have errors : Standard "std::cerr" := ⟨"cerr".toList, by simp⟩
      rw [Value.text, readValue, Operand.after?_text legible stop output fun _ => rfl]
      dsimp only
      rw [Operand.after?_text legible stop errors fun _ => rfl]
      dsimp only
      rw [readOperand_text legible stop]
      rfl
  | print target first more =>
      rw [toList_print]
      cases target with
      | output =>
          rw [readValue, stream, after?_append]
          exact readPrint_text .output first legible rest
      | errors =>
          have other : ∀ later, after? "std::cout" ("std::cerr".toList ++ later) = none := fun _ => rfl
          rw [readValue, stream, other]
          dsimp only
          rw [after?_append]
          exact readPrint_text .errors first legible rest

theorem stop_semicolon : Stop ";".toList := ⟨';', [], by simp, .inr rfl⟩

theorem readLast_text {value : Value} (legible : value.Legible) :
    readLast (value.text ++ ";").toList = some value := by
  have ending : ";".toList = [';'] := by simp
  rw [String.toList_append, readLast, readValue_text legible stop_semicolon, ending]
  rfl

theorem readDeclaration_text {type : Ty} {name : String} {initial : Value} (named : IsName name)
    (legible : initial.Legible) :
    readDeclaration type (name ++ " = " ++ initial.text ++ ";").toList = some (.declaration type name initial) := by
  have whole : (name ++ " = " ++ initial.text ++ ";").toList =
      name.toList ++ (" = ".toList ++ (initial.text ++ ";").toList) := by
    simp only [String.toList_append, List.append_assoc]
  have outside : ∀ c ∈ (" = ".toList ++ (initial.text ++ ";").toList).head?, isNamePart c = false := by
    rintro _ ⟨rfl⟩
    decide +kernel
  obtain ⟨run, behind⟩ := Token.run_append named.all outside
  rw [whole, readDeclaration, run, behind, after?_append]
  dsimp only
  rw [readLast_text legible, String.ofList_toList]
  rfl

/-- A value is no return. -/
theorem Value.ne_return {value : Value} (legible : value.Legible) {later : List Char}
    (behind : ∀ c ∈ later.head?, isNamePart c = false) :
    value.text.toList ++ ";".toList ≠ "return".toList ++ later := by
  have word : "return".toList = 'r' :: "eturn".toList := by simp
  cases value with
  | plain operand =>
      cases operand with
      | number n =>
          obtain ⟨first, digits, shape, start, -⟩ := number_text n
          have whole : (Value.plain (.number n)).text.toList = first :: digits := shape
          rw [whole, word]
          intro same
          obtain ⟨rfl, -⟩ := List.cons_eq_cons.mp same
          exact absurd start (by decide)
      | quotation text =>
          rw [Value.text, toList_quotation, word]
          exact fun same => absurd (List.cons_eq_cons.mp same).1 (by decide)
      | «variable» name => exact name_ne_return legible stop_semicolon.outside behind
      | call callee =>
          rw [Value.text, toList_call, List.append_assoc]
          exact name_ne_return legible (outside_parenthesis _) behind
  | print target first more =>
      rw [toList_print, word]
      cases target <;> exact fun same => absurd (List.cons_eq_cons.mp same).1 (by decide)

/-- A value is no declaration. -/
theorem Value.after?_type {value : Value} (legible : value.Legible) {word : String} (standard : Standard word)
    (string : ∀ later, after? word ("std::string(\"".toList ++ later) = none)
    (stream : ∀ target later, after? word ((stream target).toList ++ later) = none) :
    after? word (value.text.toList ++ ";".toList) = none := by
  cases value with
  | plain operand => exact Operand.after?_text legible stop_semicolon standard string
  | print target first more =>
      rw [toList_print]
      exact stream target _

theorem readLine_declaration {type : Ty} (typed : type = .i64 ∨ type = .string) (cs : List Char) :
    readLine ((typeName type ++ " ").toList ++ cs) = readDeclaration type cs := by
  have front : (typeName type ++ " ").toList ++ cs ≠ "return;".toList := by
    rcases typed with rfl | rfl <;> simp [typeName]
  rw [readLine, if_neg front]
  rcases typed with rfl | rfl
  · have other : after? "return " ((typeName .i64 ++ " ").toList ++ cs) = none := rfl
    have type : typeName .i64 ++ " " = "std::int64_t " := by decide
    rw [other, type, after?_append]
  · have other : after? "return " ((typeName .string ++ " ").toList ++ cs) = none := rfl
    have integer : after? "std::int64_t " ((typeName .string ++ " ").toList ++ cs) = none := rfl
    have type : typeName .string ++ " " = "std::string " := by decide
    rw [other]
    dsimp only
    rw [integer, type, after?_append]

/-- Reading a line undoes writing it. -/
theorem readLine_text {line : Line} (legible : line.Legible) : readLine line.text.toList = some line := by
  cases line with
  | declaration type name initial =>
      obtain ⟨typed, named, legible⟩ := legible
      have whole : (Line.declaration type name initial).text.toList =
          (typeName type ++ " ").toList ++ (name ++ " = " ++ initial.text ++ ";").toList := by
        simp only [Line.text, String.toList_append, List.append_assoc]
      rw [whole, readLine_declaration typed, readDeclaration_text named legible]
  | «return» value =>
      cases value with
      | none => exact if_pos rfl
      | some value =>
          have whole : (Line.return (some value)).text.toList = "return ".toList ++ (value.text ++ ";").toList := by
            simp only [Line.text, String.toList_append, List.append_assoc]
          have more : "return ".toList ++ (value.text ++ ";").toList ≠ "return;".toList := by simp
          rw [whole, readLine, if_neg more, after?_append]
          dsimp only
          rw [readLast_text legible]
          rfl
  | expression value =>
      have whole : (Line.expression value).text.toList = value.text.toList ++ ";".toList := String.toList_append
      have alone : value.text.toList ++ ";".toList ≠ "return;".toList := by
        have keyword : "return;".toList = "return".toList ++ [';'] := by simp
        rw [keyword]
        refine Value.ne_return legible ?_
        rintro _ ⟨rfl⟩
        decide +kernel
      have followed : after? "return " (value.text.toList ++ ";".toList) = none := by
        have keyword : "return ".toList = "return".toList ++ [' '] := by simp
        rw [Option.eq_none_iff_forall_ne_some]
        intro later found
        rw [after?_eq_some_iff, keyword, List.append_assoc] at found
        refine Value.ne_return legible ?_ found
        rintro _ ⟨rfl⟩
        decide +kernel
      have integer : after? "std::int64_t " (value.text.toList ++ ";".toList) = none :=
        Value.after?_type legible ⟨"int64_t ".toList, by simp⟩ (fun _ => rfl) fun target _ => by cases target <;> rfl
      have string : after? "std::string " (value.text.toList ++ ";".toList) = none :=
        Value.after?_type legible ⟨"string ".toList, by simp⟩ (fun _ => rfl) fun target _ => by cases target <;> rfl
      rw [whole, readLine, if_neg alone, followed]
      dsimp only
      rw [integer]
      dsimp only
      rw [string]
      dsimp only
      rw [← String.toList_append, readLast_text legible]
      rfl

/-- No two statements are written alike. -/
theorem Line.eq_of_text {line other : Line} (legible : line.Legible) (otherLegible : other.Legible)
    (same : line.text = other.text) : line = other := by
  have read := readLine_text otherLegible
  rw [← same, readLine_text legible] at read
  exact Option.some.inj read

end StageZero.Cxx
