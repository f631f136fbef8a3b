import StageZero.Token.Basic
import StageZero.Tree.Basic

/-! The grammar of source files over tokens, with the tree that each derivation builds. What derives
depends on the symbols alone: spans are only copied into trees. -/
namespace StageZero.Tree.Grammar

/-- Any number of ends of lines. -/
def Newlines (tokens : List Token) : Prop := ∀ token ∈ tokens, token.symbol = .newline

/-- Any number of ends of lines and semicolons. -/
def Separators (tokens : List Token) : Prop :=
  ∀ token ∈ tokens, token.symbol = .newline ∨ token.symbol = .semicolon

mutual

inductive Expression : List Token → Tree.Expression → Prop
  | number {value span} : Expression [⟨.number value, span⟩] (.number value span)
  | quotation {text span} : Expression [⟨.quotation text, span⟩] (.quotation text span)
  | garbage {span} : Expression [⟨.garbage, span⟩] (.garbage span)
  | variable {name span} : Expression [⟨.name name, span⟩] (.variable name span)
  | call {name span opening gap tokens items closing} : Newlines gap → Arguments tokens items →
      Expression (⟨.name name, span⟩ :: ⟨.openParen, opening⟩ :: (gap ++ tokens ++ [⟨.closeParen, closing⟩]))
        (.call name items (span.cover closing))

inductive Arguments : List Token → List Tree.Expression → Prop
  | none : Arguments [] []
  | some {tokens items} : Items tokens items → Arguments tokens items

/-- Expressions with commas between them. Lines may end behind an expression and behind a comma. -/
inductive Items : List Token → List Tree.Expression → Prop
  | last {tokens item gap} : Expression tokens item → Newlines gap → Items (tokens ++ gap) [item]
  | more {tokens item gap comma next rest items} : Expression tokens item → Newlines gap → Newlines next →
      Items rest items → Items (tokens ++ gap ++ ⟨.comma, comma⟩ :: (next ++ rest)) (item :: items)

end

inductive Statement : List Token → Tree.Statement → Prop
  | let {start name span equals tokens initial} : Expression tokens initial →
      Statement (⟨.let, start⟩ :: ⟨.name name, span⟩ :: ⟨.equals, equals⟩ :: tokens) (.let name span initial)
  | returnNothing {span} : Statement [⟨.return, span⟩] (.return none span)
  | return {span tokens value} : Expression tokens value →
      Statement (⟨.return, span⟩ :: tokens) (.return (some value) (span.cover value.span))
  | expression {tokens value} : Expression tokens value → Statement tokens (.expression value)

/-- Statements with separators between them, and perhaps behind the last. -/
inductive Statements : List Token → List Tree.Statement → Prop
  | last {tokens statement gap} : Statement tokens statement → Separators gap →
      Statements (tokens ++ gap) [statement]
  | more {tokens statement gap rest statements} : Statement tokens statement → Separators gap → gap ≠ [] →
      Statements rest statements → Statements (tokens ++ gap ++ rest) (statement :: statements)

inductive Block : List Token → List Tree.Statement → Prop
  | empty {opening gap closing} : Separators gap →
      Block (⟨.openBrace, opening⟩ :: (gap ++ [⟨.closeBrace, closing⟩])) []
  | full {opening gap tokens statements closing} : Separators gap → Statements tokens statements →
      Block (⟨.openBrace, opening⟩ :: (gap ++ tokens ++ [⟨.closeBrace, closing⟩])) statements

inductive Function : List Token → Tree.Function → Prop
  | plain {start name span opening closing gap tokens body} : Newlines gap → Block tokens body →
      Function (⟨.function, start⟩ :: ⟨.name name, span⟩ :: ⟨.openParen, opening⟩ ::
        ⟨.closeParen, closing⟩ :: (gap ++ tokens)) ⟨name, span, none, body⟩
  | typed {start name span opening closing arrow type typeSpan gap tokens body} : Newlines gap →
      Block tokens body →
      Function (⟨.function, start⟩ :: ⟨.name name, span⟩ :: ⟨.openParen, opening⟩ ::
        ⟨.closeParen, closing⟩ :: ⟨.arrow, arrow⟩ :: ⟨.name type, typeSpan⟩ :: (gap ++ tokens))
        ⟨name, span, some ⟨type, typeSpan⟩, body⟩

inductive Functions : List Token → List Tree.Function → Prop
  | none : Functions [] []
  | more {tokens function gap rest functions} : Function tokens function → Newlines gap →
      Functions rest functions → Functions (tokens ++ gap ++ rest) (function :: functions)

/-- The tokens of a file in front of its end, with the tree of the file. -/
inductive File : List Token → Tree.File → Prop
  | file {gap tokens functions} : Newlines gap → Functions tokens functions →
      File (gap ++ tokens) ⟨functions⟩

/-- The symbols of a file derive, whatever their spans are. -/
def Accepts (symbols : List Symbol) : Prop :=
  ∃ tokens file, tokens.map Token.symbol = symbols ∧ File tokens file

/-! ### First tokens -/

theorem Expression.first {tokens : List Token} {tree : Tree.Expression} (derived : Expression tokens tree) :
    ∃ token rest, tokens = token :: rest ∧ token.symbol.isTerminator = false ∧
      token.symbol ≠ .closeParen ∧ token.symbol ≠ .let ∧ token.symbol ≠ .return := by
  cases derived <;> exact ⟨_, _, rfl, rfl, nofun, nofun, nofun⟩

theorem Items.first {tokens : List Token} {items : List Tree.Expression} (derived : Items tokens items) :
    ∃ token rest, tokens = token :: rest ∧ token.symbol.isTerminator = false ∧
      token.symbol ≠ .closeParen := by
  cases derived with
  | last item | more item =>
      obtain ⟨token, rest, rfl, inside, open_, -, -⟩ := item.first
      exact ⟨token, _, rfl, inside, open_⟩

theorem Statement.first {tokens : List Token} {statement : Tree.Statement}
    (derived : Statement tokens statement) :
    ∃ token rest, tokens = token :: rest ∧ token.symbol.isTerminator = false := by
  cases derived with
  | «let» | returnNothing | «return» => exact ⟨_, _, rfl, rfl⟩
  | expression value =>
      obtain ⟨token, rest, same, inside, -⟩ := value.first
      exact ⟨token, rest, same, inside⟩

theorem Statements.first {tokens : List Token} {statements : List Tree.Statement}
    (derived : Statements tokens statements) :
    ∃ token rest, tokens = token :: rest ∧ token.symbol.isTerminator = false := by
  cases derived with
  | last statement | more statement =>
      obtain ⟨token, rest, rfl, inside⟩ := statement.first
      exact ⟨token, _, rfl, inside⟩

theorem Block.first {tokens : List Token} {body : List Tree.Statement} (derived : Block tokens body) :
    ∃ opening rest, tokens = ⟨.openBrace, opening⟩ :: rest := by
  cases derived with
  | empty | full => exact ⟨_, _, rfl⟩

theorem Function.first {tokens : List Token} {function : Tree.Function} (derived : Function tokens function) :
    ∃ start rest, tokens = ⟨.function, start⟩ :: rest := by
  cases derived with
  | plain | typed => exact ⟨_, _, rfl⟩

theorem File.functions {tokens : List Token} {file : Tree.File} (derived : File tokens file) :
    ∃ gap inner, tokens = gap ++ inner ∧ Newlines gap ∧ Functions inner file.functions := by
  cases derived with
  | file newlines functions => exact ⟨_, _, rfl, newlines, functions⟩

/-! ### Other spans -/

/-- The same symbols with other spans. -/
def Alike (others tokens : List Token) : Prop := others.map Token.symbol = tokens.map Token.symbol

theorem Alike.nil {others : List Token} (alike : Alike others []) : others = [] :=
  List.map_eq_nil_iff.mp alike

theorem Alike.cons {others rest : List Token} {symbol : Symbol} {span : Span}
    (alike : Alike others (⟨symbol, span⟩ :: rest)) :
    ∃ other more, others = ⟨symbol, other⟩ :: more ∧ Alike more rest := by
  obtain ⟨token, more, rfl, rfl, behind⟩ := List.map_eq_cons_iff.mp alike
  exact ⟨token.span, more, rfl, behind⟩

theorem Alike.append {others front back : List Token} (alike : Alike others (front ++ back)) :
    ∃ first later, others = first ++ later ∧ Alike first front ∧ Alike later back := by
  rw [Alike, List.map_append] at alike
  exact List.map_eq_append_iff.mp alike

theorem Alike.mem {others tokens : List Token} (alike : Alike others tokens) {token : Token}
    (member : token ∈ others) : ∃ original ∈ tokens, original.symbol = token.symbol := by
  have there : token.symbol ∈ tokens.map Token.symbol := alike ▸ List.mem_map_of_mem member
  exact List.mem_map.mp there

theorem Newlines.alike {gap others : List Token} (newlines : Newlines gap) (alike : Alike others gap) :
    Newlines others := by
  intro token member
  obtain ⟨original, member, same⟩ := alike.mem member
  exact same ▸ newlines original member

theorem Separators.alike {gap others : List Token} (separators : Separators gap)
    (alike : Alike others gap) : Separators others := by
  intro token member
  obtain ⟨original, member, same⟩ := alike.mem member
  exact same ▸ separators original member

mutual

theorem Expression.alike {tokens others : List Token} {tree : Tree.Expression}
    (derived : Expression tokens tree) (alike : Alike others tokens) : ∃ other, Expression others other := by
  cases derived with
  | number =>
      obtain ⟨_, _, rfl, none⟩ := alike.cons
      exact none.nil ▸ ⟨_, .number⟩
  | quotation =>
      obtain ⟨_, _, rfl, none⟩ := alike.cons
      exact none.nil ▸ ⟨_, .quotation⟩
  | garbage =>
      obtain ⟨_, _, rfl, none⟩ := alike.cons
      exact none.nil ▸ ⟨_, .garbage⟩
  | «variable» =>
      obtain ⟨_, _, rfl, none⟩ := alike.cons
      exact none.nil ▸ ⟨_, .variable⟩
  | call newlines arguments =>
      obtain ⟨_, _, rfl, behindName⟩ := alike.cons
      obtain ⟨_, _, rfl, inside⟩ := behindName.cons
      obtain ⟨_, _, rfl, inner, closing⟩ := inside.append
      obtain ⟨_, _, rfl, gap, listed⟩ := inner.append
      obtain ⟨_, _, rfl, none⟩ := closing.cons
      obtain ⟨_, derived⟩ := arguments.alike listed
      exact none.nil ▸ ⟨_, .call (newlines.alike gap) derived⟩

theorem Arguments.alike {tokens others : List Token} {items : List Tree.Expression}
    (derived : Arguments tokens items) (alike : Alike others tokens) : ∃ other, Arguments others other := by
  cases derived with
  | none => exact alike.nil ▸ ⟨_, .none⟩
  | some listed =>
      obtain ⟨_, derived⟩ := listed.alike alike
      exact ⟨_, .some derived⟩

theorem Items.alike {tokens others : List Token} {items : List Tree.Expression}
    (derived : Items tokens items) (alike : Alike others tokens) : ∃ other, Items others other := by
  cases derived with
  | last item newlines =>
      obtain ⟨_, _, rfl, front, gap⟩ := alike.append
      obtain ⟨_, derived⟩ := item.alike front
      exact ⟨_, .last derived (newlines.alike gap)⟩
  | more item newlines behind rest =>
      obtain ⟨_, _, rfl, beforeComma, comma⟩ := alike.append
      obtain ⟨_, _, rfl, front, gap⟩ := beforeComma.append
      obtain ⟨_, _, rfl, afterComma⟩ := comma.cons
      obtain ⟨_, _, rfl, next, later⟩ := afterComma.append
      obtain ⟨_, first⟩ := item.alike front
      obtain ⟨_, others⟩ := rest.alike later
      exact ⟨_, .more first (newlines.alike gap) (behind.alike next) others⟩

end

theorem Statement.alike {tokens others : List Token} {statement : Tree.Statement}
    (derived : Statement tokens statement) (alike : Alike others tokens) :
    ∃ other, Statement others other := by
  cases derived with
  | «let» initial =>
      obtain ⟨_, _, rfl, behindLet⟩ := alike.cons
      obtain ⟨_, _, rfl, behindName⟩ := behindLet.cons
      obtain ⟨_, _, rfl, value⟩ := behindName.cons
      obtain ⟨_, derived⟩ := initial.alike value
      exact ⟨_, .let derived⟩
  | returnNothing =>
      obtain ⟨_, _, rfl, none⟩ := alike.cons
      exact none.nil ▸ ⟨_, .returnNothing⟩
  | «return» returned =>
      obtain ⟨_, _, rfl, value⟩ := alike.cons
      obtain ⟨_, derived⟩ := returned.alike value
      exact ⟨_, .return derived⟩
  | expression value =>
      obtain ⟨_, derived⟩ := value.alike alike
      exact ⟨_, .expression derived⟩

theorem Statements.alike {tokens others : List Token} {statements : List Tree.Statement}
    (derived : Statements tokens statements) (alike : Alike others tokens) :
    ∃ other, Statements others other := by
  induction derived generalizing others with
  | last statement separators =>
      obtain ⟨_, _, rfl, front, gap⟩ := alike.append
      obtain ⟨_, derived⟩ := statement.alike front
      exact ⟨_, .last derived (separators.alike gap)⟩
  | more statement separators some _ ih =>
      obtain ⟨_, _, rfl, before, later⟩ := alike.append
      obtain ⟨_, between, rfl, front, gap⟩ := before.append
      obtain ⟨_, first⟩ := statement.alike front
      obtain ⟨_, others⟩ := ih later
      refine ⟨_, .more first (separators.alike gap) (fun none => some ?_) others⟩
      subst none
      exact List.map_eq_nil_iff.mp gap.symm

theorem Block.alike {tokens others : List Token} {body : List Tree.Statement}
    (derived : Block tokens body) (alike : Alike others tokens) : ∃ other, Block others other := by
  cases derived with
  | empty separators =>
      obtain ⟨_, _, rfl, inside⟩ := alike.cons
      obtain ⟨_, _, rfl, gap, closing⟩ := inside.append
      obtain ⟨_, _, rfl, none⟩ := closing.cons
      exact none.nil ▸ ⟨_, .empty (separators.alike gap)⟩
  | full separators statements =>
      obtain ⟨_, _, rfl, inside⟩ := alike.cons
      obtain ⟨_, _, rfl, inner, closing⟩ := inside.append
      obtain ⟨_, _, rfl, gap, listed⟩ := inner.append
      obtain ⟨_, _, rfl, none⟩ := closing.cons
      obtain ⟨_, derived⟩ := statements.alike listed
      exact none.nil ▸ ⟨_, .full (separators.alike gap) derived⟩

theorem Function.alike {tokens others : List Token} {function : Tree.Function}
    (derived : Function tokens function) (alike : Alike others tokens) : ∃ other, Function others other := by
  cases derived with
  | plain newlines block =>
      obtain ⟨_, _, rfl, behindKeyword⟩ := alike.cons
      obtain ⟨_, _, rfl, behindName⟩ := behindKeyword.cons
      obtain ⟨_, _, rfl, behindOpening⟩ := behindName.cons
      obtain ⟨_, _, rfl, behindClosing⟩ := behindOpening.cons
      obtain ⟨_, _, rfl, gap, body⟩ := behindClosing.append
      obtain ⟨_, derived⟩ := block.alike body
      exact ⟨_, .plain (newlines.alike gap) derived⟩
  | typed newlines block =>
      obtain ⟨_, _, rfl, behindKeyword⟩ := alike.cons
      obtain ⟨_, _, rfl, behindName⟩ := behindKeyword.cons
      obtain ⟨_, _, rfl, behindOpening⟩ := behindName.cons
      obtain ⟨_, _, rfl, behindClosing⟩ := behindOpening.cons
      obtain ⟨_, _, rfl, behindArrow⟩ := behindClosing.cons
      obtain ⟨_, _, rfl, behindType⟩ := behindArrow.cons
      obtain ⟨_, _, rfl, gap, body⟩ := behindType.append
      obtain ⟨_, derived⟩ := block.alike body
      exact ⟨_, .typed (newlines.alike gap) derived⟩

theorem Functions.alike {tokens others : List Token} {functions : List Tree.Function}
    (derived : Functions tokens functions) (alike : Alike others tokens) :
    ∃ other, Functions others other := by
  induction derived generalizing others with
  | none => exact alike.nil ▸ ⟨_, .none⟩
  | more function newlines _ ih =>
      obtain ⟨_, _, rfl, before, later⟩ := alike.append
      obtain ⟨_, _, rfl, front, gap⟩ := before.append
      obtain ⟨_, first⟩ := function.alike front
      obtain ⟨_, others⟩ := ih later
      exact ⟨_, .more first (newlines.alike gap) others⟩

theorem File.alike {tokens others : List Token} {file : Tree.File} (derived : File tokens file)
    (alike : Alike others tokens) : ∃ other, File others other := by
  obtain ⟨newlines, functions⟩ := derived
  obtain ⟨_, _, rfl, gap, rest⟩ := alike.append
  obtain ⟨_, derived⟩ := functions.alike rest
  exact ⟨_, .file (newlines.alike gap) derived⟩

theorem accepts_iff (tokens : List Token) :
    Accepts (tokens.map Token.symbol) ↔ ∃ file, File tokens file := by
  constructor
  · rintro ⟨others, file, same, derived⟩
    exact derived.alike same.symm
  · rintro ⟨file, derived⟩
    exact ⟨tokens, file, rfl, derived⟩

end StageZero.Tree.Grammar
