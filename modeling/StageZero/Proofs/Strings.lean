import Mathlib.Data.List.TakeWhile
import StageZero.Proofs.Leaves
import StageZero.Proofs.Readback

/-! String literals in the running program. Each literal of an accepted text has one place in what is
generated, where its text is written as a narrow literal of C++ or, for a format, as one for each piece.
C++ takes such a literal by a pointer and so up to its first NUL. -/
namespace StageZero

/-! ### The literals of a text -/

def Symbol.quoted? : Symbol → Option String
  | .quotation text => some text
  | _ => none

/-- The texts of the string literals among some tokens. -/
def Token.literals (tokens : List Token) : List String := tokens.filterMap fun token => token.symbol.quoted?

namespace Tree

mutual

def Expression.literals : Expression → List String
  | .quotation text _ => [text]
  | .call _ arguments _ => literalsAll arguments
  | .variable .. | .number .. | .garbage _ => []

def literalsAll : List Expression → List String
  | [] => []
  | argument :: later => argument.literals ++ literalsAll later

end

def Statement.literals : Statement → List String
  | .let _ _ initial => initial.literals
  | .return none _ => []
  | .return (some value) _ | .expression value => value.literals

def Function.literals (function : Function) : List String := function.body.flatMap Statement.literals

def File.literals (file : File) : List String := file.functions.flatMap Function.literals

end Tree

/-! ### Where literals are used -/

/-- What C++ takes a literal for: a string that is constructed, or pieces of what is printed. -/
inductive Use where
  | built (text : String)
  | streamed (pieces : List String)

/-- What a pointer to the characters of a narrow literal denotes. -/
def pointed (text : String) : String := String.ofList (text.toList.takeWhile (· != '\x00'))

/-- What comes of a use when the program runs. -/
def Use.meant : Use → Use
  | .built text => .built (pointed text)
  | .streamed pieces => .streamed (pieces.map pointed)

/-- A string that is constructed is the literal, and pieces are the text around the placeholders in it. -/
def Use.Keeps (literal : String) : Use → Prop
  | .built text => text = literal
  | .streamed pieces => Program.Splits literal.toList (pieces.map String.toList)

namespace Program

mutual

def Expression.uses : Expression → List Use
  | .quotation text => [.built text]
  | .print _ pieces arguments => .streamed pieces :: usesAll arguments
  | .call .. | .variable .. | .number _ | .garbage => []

def usesAll : List Expression → List Use
  | [] => []
  | argument :: later => argument.uses ++ usesAll later

end

def Statement.uses : Statement → List Use
  | .let _ _ initial _ => initial.uses
  | .return none _ => []
  | .return (some value) _ | .expression value _ => value.uses

def Function.uses (function : Function) : List Use := function.body.flatMap Statement.uses

end Program

def Program.uses (program : Program) : List Use := program.functions.flatMap Function.uses

namespace Cxx

def Operand.uses : Operand → List Use
  | .quotation text => [.built text]
  | .number _ | .variable _ | .call _ => []

def Value.uses : Value → List Use
  | .plain operand => operand.uses
  | .print _ first more => .streamed (first :: more.map Prod.snd) :: more.flatMap fun item => item.1.uses

def Line.uses : Line → List Use
  | .declaration _ _ initial => initial.uses
  | .return none => []
  | .return (some value) | .expression value => value.uses

def Routine.uses (routine : Routine) : List Use := routine.body.flatMap Line.uses

def Listing.uses (listing : Listing) : List Use := listing.routines.flatMap Routine.uses

end Cxx

/-! ### From tokens to trees -/

theorem Token.literals_eq (tokens : List Token) : literals tokens = (leaves tokens).filterMap Symbol.quoted? := by
  refine (filterMap_leaves (fun symbol other => ?_) tokens).symm
  cases symbol with
  | quotation => cases other
  | _ => rfl

namespace Tree

mutual

theorem Expression.literals_eq : (tree : Expression) → tree.literals = tree.leaves.filterMap Symbol.quoted?
  | .call _ arguments _ => by rw [Expression.literals, Expression.leaves, literalsAll_eq arguments]
  | .number .. | .quotation .. | .variable .. | .garbage _ => by rw [Expression.literals, Expression.leaves]; rfl

theorem literalsAll_eq : (arguments : List Expression) →
    literalsAll arguments = (leavesAll arguments).filterMap Symbol.quoted?
  | [] => by rw [literalsAll, leavesAll]; rfl
  | argument :: later => by
    rw [literalsAll, leavesAll, List.filterMap_append, argument.literals_eq, literalsAll_eq later]

end

theorem Statement.literals_eq (statement : Statement) :
    statement.literals = statement.leaves.filterMap Symbol.quoted? := by
  cases statement with
  | «let» _ _ value | expression value => exact value.literals_eq
  | «return» value =>
      cases value with
      | none => rfl
      | some value => exact value.literals_eq

theorem File.literals_eq (file : File) : file.literals = file.leaves.filterMap Symbol.quoted? := by
  rw [literals, leaves, List.filterMap_flatMap]
  refine List.flatMap_congr fun function _ => ?_
  rw [Function.literals, Function.leaves, List.filterMap_flatMap]
  exact List.flatMap_congr fun statement _ => statement.literals_eq

end Tree

/-- The literals of a tree are those of its tokens, in their order. -/
theorem Tree.Grammar.File.literals_eq {tokens : List Token} {file : Tree.File} (derived : File tokens file) :
    Token.literals tokens = file.literals := by
  rw [Token.literals_eq, derived.leaves_eq, Tree.File.literals_eq]

/-! ### From trees to programs -/

/-- Uses that keep some literals, each its own. -/
abbrev Kept (literals : List String) (uses : List Use) : Prop := List.Forall₂ Use.Keeps literals uses

namespace Typing
variable {functions : String → Ty → Prop} {context : Context} {returnType : Ty}

theorem Expression.kept {tree : Tree.Expression} {type : Ty} {value : Program.Expression}
    (derived : Expression functions context tree type value) : Kept tree.literals value.uses := by
  refine @Expression.rec functions context (fun tree _ value _ => Kept tree.literals value.uses)
    (fun items arguments _ => Kept (Tree.literalsAll items) (Program.usesAll arguments))
    ?number ?quotation ?name ?call ?print ?nil ?cons _ _ _ derived
  case number | name =>
    intros
    rw [Tree.Expression.literals, Program.Expression.uses]
    exact .nil
  case quotation =>
    intros
    rw [Tree.Expression.literals, Program.Expression.uses]
    exact .cons rfl .nil
  case call =>
    intros
    rw [Tree.Expression.literals, Tree.literalsAll, Program.Expression.uses]
    exact .nil
  case print =>
    intro callee target text textSpan items span pieces arguments _ _ _ splits ih
    rw [Tree.Expression.literals, Tree.literalsAll, Tree.Expression.literals, Program.Expression.uses]
    exact .cons splits ih
  case nil =>
    rw [Tree.literalsAll, Program.usesAll]
    exact .nil
  case cons =>
    intro item type argument items arguments _ _ _ first later
    rw [Tree.literalsAll, Program.usesAll]
    exact List.rel_append first later

theorem Statement.kept {tree : Tree.Statement} {next : Context} {statement : Program.Statement}
    (derived : Statement functions returnType context tree next statement) :
    Kept tree.literals statement.uses := by
  cases derived with
  | «let» value | «return» value | expression value => exact value.kept
  | returnNothing => exact .nil

theorem Statements.kept {trees : List Tree.Statement} {statements : List Program.Statement}
    (derived : Statements functions returnType context trees statements) :
    Kept (trees.flatMap Tree.Statement.literals) (statements.flatMap Program.Statement.uses) := by
  induction derived with
  | nil => exact .nil
  | cons first _ ih => exact List.rel_append first.kept ih

theorem Function.kept {tree : Tree.Function} {function : Program.Function} (derived : Function functions tree function) :
    Kept tree.literals function.uses := by
  cases derived with
  | function _ statements => exact statements.kept

theorem File.kept {tree : Tree.File} {program : Program} (derived : File tree program) :
    Kept tree.literals program.uses :=
  List.rel_flatMap derived.functions fun _ _ function => function.kept

end Typing

/-! ### From programs to generated text -/

namespace Cxx
variable {functions context : Typing.Context}

theorem Operand.Shows.uses_eq {operand : Operand} {value : Program.Expression}
    (shows : operand.Shows functions context value) : operand.uses = value.uses := by
  cases shows <;> rw [Operand.uses, Program.Expression.uses]

theorem ShowsMore.uses_eq {more : List (Operand × String)} {arguments : List Program.Expression} {pieces : List String}
    (shows : ShowsMore functions context more arguments pieces) :
    more.map Prod.snd = pieces ∧ (more.flatMap fun item => item.1.uses) = Program.usesAll arguments := by
  induction shows with
  | nil => rw [Program.usesAll]; exact ⟨rfl, rfl⟩
  | cons operand _ ih =>
      obtain ⟨pieces, later⟩ := ih
      rw [List.map_cons, List.flatMap_cons, Program.usesAll, operand.uses_eq, pieces, later]
      exact ⟨rfl, rfl⟩

theorem Value.Shows.uses_eq {value : Value} {tree : Program.Expression} (shows : value.Shows functions context tree) :
    value.uses = tree.uses := by
  cases shows with
  | plain operand => exact operand.uses_eq
  | print more =>
      obtain ⟨pieces, later⟩ := more.uses_eq
      rw [Value.uses, Program.Expression.uses, pieces, later]

theorem Line.Shows.uses_eq {next : Typing.Context} {line : Line} {statement : Program.Statement}
    (shows : line.Shows functions context statement next) : line.uses = statement.uses := by
  cases shows with
  | returnNothing => rfl
  | declaration _ _ _ value | «return» value | expression value => exact value.uses_eq

theorem ShowsBody.uses_eq {lines : List Line} {body : List Program.Statement}
    (shows : ShowsBody functions context lines body) :
    lines.flatMap Line.uses = body.flatMap Program.Statement.uses := by
  induction shows with
  | nil => rfl
  | cons first _ ih => rw [List.flatMap_cons, List.flatMap_cons, first.uses_eq, ih]

theorem Listing.Shows.uses_eq {listing : Listing} {program : Program} (shows : listing.Shows program) :
    listing.uses = program.uses := by
  have each := Program.map_related (f := Routine.uses) (g := Program.Function.uses) shows.routines
    fun _ _ routine => routine.body.uses_eq.symm
  rw [Listing.uses, Program.uses, List.flatMap_def, List.flatMap_def, each]

end Cxx

/-- What is generated for a text has one use for each literal, which is written as it is. -/
theorem exists_uses {file : FileId} {text : String} (accepted : Accepted file text) (sources : Option Sources) :
    ∃ listing, Cxx.readListing (Cxx.emit sources (programOf file text)) = some listing ∧
      Kept (Token.literals (scan file text).stream.tokens) listing.uses := by
  obtain ⟨listing, read, shows⟩ :=
    Cxx.readListing_emit sources (Cxx.legible_of_accepted accepted) accepted.typed.sound
  refine ⟨listing, read, ?_⟩
  rw [shows.uses_eq, accepted.derived.literals_eq]
  exact accepted.typed.kept

/-! ### Up to the first NUL -/

theorem pointed_eq_iff {text : String} : pointed text = text ↔ '\x00' ∉ text.toList := by
  have whole : pointed text = text ↔ text.toList.takeWhile (· != '\x00') = text.toList := by
    rw [← String.toList_inj, pointed, String.toList_ofList]
  rw [whole, List.takeWhile_eq_self_iff]
  constructor
  · intro each nul
    exact absurd (each _ nul) (by decide)
  · intro free c member
    rw [bne_iff_ne]
    rintro rfl
    exact free member

theorem pointed_pieces_eq_iff {pieces : List String} :
    pieces.map pointed = pieces ↔ ∀ piece ∈ pieces, '\x00' ∉ piece.toList := by
  rw [← List.map_id pieces, List.map_map, List.map_inj_left]
  simp only [Function.comp_apply, id_eq, pointed_eq_iff, List.map_id]

theorem Program.mem_joined {c : Char} (brace : c ≠ '{' ∧ c ≠ '}') {pieces : List (List Char)} :
    c ∈ joined pieces ↔ ∃ piece ∈ pieces, c ∈ piece := by
  fun_induction joined pieces with
  | case1 => simp
  | case2 piece => simp
  | case3 piece next later ih => simp [brace, ih]

/-- What is taken for a literal comes out as the literal unless there is a NUL in it. -/
theorem Use.Keeps.meant_iff {literal : String} {use : Use} (keeps : use.Keeps literal) :
    use.meant.Keeps literal ↔ '\x00' ∉ literal.toList := by
  cases use with
  | built text =>
      obtain rfl : text = literal := keeps
      exact pointed_eq_iff
  | streamed pieces =>
      have splits : Program.Splits literal.toList (pieces.map String.toList) := keeps
      have same : (Use.streamed pieces).meant.Keeps literal ↔ pieces.map pointed = pieces := by
        constructor
        · intro cut
          have cutSplits : Program.Splits literal.toList ((pieces.map pointed).map String.toList) := cut
          rw [← cutSplits.pieces_eq, splits.pieces_eq]
        · intro whole
          rw [Use.meant, whole]
          exact keeps
      rw [same, pointed_pieces_eq_iff, ← splits.whole, Program.mem_joined (by decide)]
      simp

/-- Of each literal of an accepted text, the running program has the same text as the lexer unless there is a NUL
in it. -/
theorem literals_survive_iff {file : FileId} {text : String} (accepted : Accepted file text)
    (sources : Option Sources) :
    ∃ listing, Cxx.readListing (Cxx.emit sources (programOf file text)) = some listing ∧
      List.Forall₂ (fun literal use => use.meant.Keeps literal ↔ '\x00' ∉ literal.toList)
        (Token.literals (scan file text).stream.tokens) listing.uses := by
  obtain ⟨listing, read, kept⟩ := exists_uses accepted sources
  exact ⟨listing, read, kept.imp fun _ _ keeps => keeps.meant_iff⟩

/-- A `main` that binds a variable to a string. -/
def bindsText (text : String) : Tree.File :=
  let place (start stop : Nat) : Span := ⟨⟨0⟩, start, stop⟩
  ⟨[⟨"main", place 9 13, none, [.let "s" (place 22 23) (.quotation text (place 26 32))]⟩]⟩

theorem accepted_bindsText {text quoted : String} (scanned : (scan ⟨0⟩ text).faults = [])
    (tokens : (scan ⟨0⟩ text).stream.tokens = [
      ⟨.function, ⟨⟨0⟩, 0, 8⟩⟩, ⟨.name "main", ⟨⟨0⟩, 9, 13⟩⟩, ⟨.openParen, ⟨⟨0⟩, 13, 14⟩⟩,
      ⟨.closeParen, ⟨⟨0⟩, 14, 15⟩⟩, ⟨.openBrace, ⟨⟨0⟩, 16, 17⟩⟩, ⟨.let, ⟨⟨0⟩, 18, 21⟩⟩,
      ⟨.name "s", ⟨⟨0⟩, 22, 23⟩⟩, ⟨.equals, ⟨⟨0⟩, 24, 25⟩⟩, ⟨.quotation quoted, ⟨⟨0⟩, 26, 32⟩⟩,
      ⟨.closeBrace, ⟨⟨0⟩, 33, 34⟩⟩]) :
    Accepted ⟨0⟩ text ∧ Token.literals (scan ⟨0⟩ text).stream.tokens = [quoted] := by
  have blank : Tree.Grammar.Newlines [] := List.forall_mem_nil _
  have separated : Tree.Grammar.Separators [] := List.forall_mem_nil _
  have derived : Tree.Grammar.File (scan ⟨0⟩ text).stream.tokens (bindsText quoted) := by
    rw [tokens]
    exact (.file blank (.more (.plain blank (.full separated (.last (.let .quotation) separated))) blank .none) :
      Tree.Grammar.File _ _)
  refine ⟨(Accepted.of_derived scanned derived rfl).1, ?_⟩
  rw [tokens]
  rfl

theorem literals_survive_newline :
    let text := "function main() \x7b let s = \"a\\nb\" \x7d"
    Accepted ⟨0⟩ text ∧ Token.literals (scan ⟨0⟩ text).stream.tokens = ["a\nb"] ∧
      ∃ listing, Cxx.readListing (Cxx.emit none (programOf ⟨0⟩ text)) = some listing ∧
        List.Forall₂ (fun literal use => use.meant.Keeps literal) ["a\nb"] listing.uses := by
  intro text
  obtain ⟨accepted, literals⟩ := @accepted_bindsText text "a\nb" (by decide +kernel) (by decide +kernel)
  obtain ⟨listing, read, survive⟩ := literals_survive_iff accepted none
  rw [literals] at survive
  refine ⟨accepted, literals, listing, read, ?_⟩
  generalize listing.uses = uses at survive ⊢
  cases survive with
  | cons first later =>
      cases later
      exact .cons (first.mpr (by decide)) .nil

/-- An accepted text with a literal that is cut off at a NUL. -/
theorem literals_cut_nul :
    let text := "function main() \x7b let s = \"a\\0b\" \x7d"
    Accepted ⟨0⟩ text ∧ Token.literals (scan ⟨0⟩ text).stream.tokens = ["a\x00b"] ∧
      ∃ listing, Cxx.readListing (Cxx.emit none (programOf ⟨0⟩ text)) = some listing ∧
        ¬ List.Forall₂ (fun literal use => use.meant.Keeps literal) ["a\x00b"] listing.uses := by
  intro text
  obtain ⟨accepted, literals⟩ := @accepted_bindsText text "a\x00b" (by decide +kernel) (by decide +kernel)
  obtain ⟨listing, read, kept⟩ := exists_uses accepted none
  rw [literals] at kept
  refine ⟨accepted, literals, listing, read, fun survive => ?_⟩
  generalize listing.uses = uses at kept survive
  cases kept with
  | cons keeps _ =>
      cases survive with
      | cons first _ => exact absurd (keeps.meant_iff.mp first) (by decide)

end StageZero
