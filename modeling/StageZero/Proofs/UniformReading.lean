import StageZero.Proofs.Alike
import StageZero.Proofs.Reading

/-! Reading is uniform in places. No reader looks at a span but to put it into a tree or a fault, or to cover it, so
from tokens that are alike come trees and faults that are alike. -/
namespace StageZero
namespace Tree

variable {R : Span → Span → Prop} {stop finish : Span} {input other : List Token}

/-! ### Tokens that are alike -/

theorem alike_cons {symbol : Symbol} {span : Span} {rest other : List Token}
    (alike : List.Forall₂ (Token.Alike R) (⟨symbol, span⟩ :: rest) other) :
    ∃ place behind, other = ⟨symbol, place⟩ :: behind ∧ R span place ∧
      List.Forall₂ (Token.Alike R) rest behind := by
  obtain ⟨⟨_, place⟩, behind, ⟨rfl, near⟩, later, rfl⟩ := List.forall₂_cons_left_iff.mp alike
  exact ⟨place, behind, rfl, near, later⟩

/-- A symbol that does not stand in front of some tokens does not stand in front of those that are like them. -/
theorem not_first_of_alike (alike : List.Forall₂ (Token.Alike R) input other) {symbol : Symbol}
    (avoids : ∀ span rest, input = ⟨symbol, span⟩ :: rest → False) :
    ∀ span rest, other = ⟨symbol, span⟩ :: rest → False := by
  rintro place behind rfl
  obtain ⟨⟨_, span⟩, rest, ⟨rfl, -⟩, -, rfl⟩ := List.forall₂_cons_right_iff.mp alike
  exact avoids span rest rfl

theorem dropWhile_alike (p : Symbol → Bool) (alike : List.Forall₂ (Token.Alike R) input other) :
    List.Forall₂ (Token.Alike R) (input.dropWhile fun token => p token.symbol)
      (other.dropWhile fun token => p token.symbol) := by
  induction alike with
  | nil => exact .nil
  | cons first later ih =>
      rw [List.dropWhile_cons, List.dropWhile_cons, first.symbol]
      split
      case isTrue => exact ih
      case isFalse => exact .cons first later

theorem skipNewlines_alike (alike : List.Forall₂ (Token.Alike R) input other) :
    List.Forall₂ (Token.Alike R) (skipNewlines input) (skipNewlines other) :=
  dropWhile_alike (fun symbol => symbol = .newline) alike

theorem skipNewlines_cons_alike {symbol : Symbol} {span : Span} {rest : List Token}
    (alike : List.Forall₂ (Token.Alike R) input other) (shape : skipNewlines input = ⟨symbol, span⟩ :: rest) :
    ∃ place behind, skipNewlines other = ⟨symbol, place⟩ :: behind ∧ R span place ∧
      List.Forall₂ (Token.Alike R) rest behind := by
  have skipped := skipNewlines_alike alike
  rw [shape] at skipped
  exact alike_cons skipped

theorem skipSeparators_alike (alike : List.Forall₂ (Token.Alike R) input other) :
    List.Forall₂ (Token.Alike R) (skipSeparators input) (skipSeparators other) :=
  dropWhile_alike (fun symbol => symbol = .newline ∨ symbol = .semicolon) alike

theorem here_symbol (alike : List.Forall₂ (Token.Alike R) input other) :
    (here stop input).symbol = (here finish other).symbol := by
  cases alike with
  | nil => rfl
  | cons first _ => exact congrArg some first.symbol

theorem here_span (ends : R stop finish) (alike : List.Forall₂ (Token.Alike R) input other) :
    R (here stop input).span (here finish other).span := by
  cases alike with
  | nil => exact ends
  | cons first _ => exact first.span

theorem here_isTerminator (alike : List.Forall₂ (Token.Alike R) input other) :
    (here stop input).isTerminator = (here finish other).isTerminator :=
  congrArg (Option.all Symbol.isTerminator) (here_symbol alike)

theorem complaint_alike (expected : Expected) (ends : R stop finish)
    (alike : List.Forall₂ (Token.Alike R) input other) :
    (complaint expected stop input).Alike R (complaint expected finish other) where
  phase := rfl
  message := congrArg (fun found => SyntaxCause.message ⟨expected, found⟩) (here_symbol alike)
  span := here_span ends alike
  hint := .none

theorem complaints_alike (expected : Expected) (ends : R stop finish)
    (alike : List.Forall₂ (Token.Alike R) input other) :
    List.Forall₂ (Fault.Alike R) [complaint expected stop input] [complaint expected finish other] :=
  .cons (complaint_alike expected ends alike) .nil

/-! ### Readings that are alike -/

/-- What was read off the front of two inputs is alike, and so are the faults and what is left. -/
structure Read.Alike {α : Type} (R : Span → Span → Prop) (V : α → α → Prop) (read other : Read α) : Prop where
  value : V read.value other.value
  faults : List.Forall₂ (Fault.Alike R) read.faults other.faults
  rest : List.Forall₂ (Token.Alike R) read.rest other.rest

def Reading.Alike {α : Type} (R : Span → Span → Prop) (V : α → α → Prop) {input other : List Token}
    (reading : Reading α input) (like : Reading α other) : Prop := reading.read.Alike R V like.read

structure Arguments.Alike (R : Span → Span → Prop) (arguments other : Arguments) : Prop where
  items : List.Forall₂ (Expression.Alike R) arguments.items other.items
  close : R arguments.close other.close

/-- Reads alike from what is like the input. -/
def Uniform {α : Type} (R : Span → Span → Prop) (V : α → α → Prop) (finish : Span)
    (reader : Span → (input : List Token) → Reading α input) (stop : Span) (input : List Token) : Prop :=
  ∀ other, List.Forall₂ (Token.Alike R) input other → (reader stop input).Alike R V (reader finish other)

theorem expression_alike_of_other {token : Token} {rest : List Token} (ends : R stop finish)
    (nothing : begins token.symbol = false) : Uniform R (Expression.Alike R) finish expression stop (token :: rest) := by
  intro other alike
  obtain ⟨like, behind, first, later, rfl⟩ := List.forall₂_cons_left_iff.mp alike
  rw [Reading.Alike, expression_read_of_other nothing, expression_read_of_other (first.symbol ▸ nothing), first.symbol]
  refine ⟨.garbage first.span, complaints_alike _ ends alike, ?_⟩
  dsimp only
  split
  case isTrue => exact alike
  case isFalse => exact later

-- As for the grammar, the readers call each other, so the three are proved at once.
theorem uniform_all (covers : Span.Covers R) (ends : R stop finish) :
    (∀ input, Uniform R (Expression.Alike R) finish expression stop input) ∧
    (∀ input, Uniform R (Arguments.Alike R) finish arguments stop input) ∧
    ∀ input, Uniform R (Arguments.Alike R) finish items stop input := by
  refine expression.mutual_induct stop _ _ _ ?number ?quotation ?call ?name ?garbage ?nothing
    ?closed ?other ?none ?some ?more ?last ?broken
  case number =>
    intro value span rest other alike
    obtain ⟨place, behind, rfl, near, later⟩ := alike_cons alike
    rw [expression, expression]
    exact ⟨.number near, .nil, later⟩
  case quotation =>
    intro text span rest other alike
    obtain ⟨place, behind, rfl, near, later⟩ := alike_cons alike
    rw [expression, expression]
    exact ⟨.quotation near, .nil, later⟩
  case call =>
    intro name span opening rest ih other alike
    obtain ⟨place, behind, rfl, near, later⟩ := alike_cons alike
    obtain ⟨_, behind, rfl, -, later⟩ := alike_cons later
    obtain ⟨called, faults, left⟩ := ih behind later
    rw [expression, expression]
    exact ⟨.call called.items (covers near called.close), faults, left⟩
  case name =>
    intro name span rest notCall other alike
    obtain ⟨place, behind, rfl, near, later⟩ := alike_cons alike
    rw [expression, expression]
    · exact ⟨.variable near, .nil, later⟩
    · exact not_first_of_alike later notCall
    · exact notCall
  case garbage =>
    intro span rest other alike
    obtain ⟨place, behind, rfl, near, later⟩ := alike_cons alike
    rw [expression, expression]
    exact ⟨.garbage near, .nil, later⟩
  case nothing =>
    intro other alike
    obtain rfl := List.forall₂_nil_left_iff.mp alike
    rw [expression, expression]
    exact ⟨.garbage ends, complaints_alike _ ends .nil, .nil⟩
  case closed =>
    intro token rest notNumber notQuotation _ notName notGarbage _
    exact expression_alike_of_other ends (begins_eq_false notNumber notQuotation notName notGarbage)
  case other =>
    intro token rest notNumber notQuotation _ notName notGarbage _
    exact expression_alike_of_other ends (begins_eq_false notNumber notQuotation notName notGarbage)
  case none =>
    intro input span rest shape other alike
    obtain ⟨place, behind, likeShape, near, later⟩ := skipNewlines_cons_alike alike shape
    rw [Reading.Alike, arguments_read, arguments_read, shape, likeShape]
    exact ⟨⟨.nil, near⟩, .nil, later⟩
  case some =>
    intro input notClose ih other alike
    have skipped := skipNewlines_alike alike
    rw [Reading.Alike, arguments_read_of_items notClose,
      arguments_read_of_items (not_first_of_alike skipped notClose)]
    exact ih _ skipped
  case more =>
    intro input first comma rest shape ihFirst ihMore other alike
    obtain ⟨item, faults, left⟩ := ihFirst other alike
    obtain ⟨place, behind, likeShape, -, later⟩ := skipNewlines_cons_alike left shape
    obtain ⟨listed, faultsMore, leftMore⟩ := ihMore _ (skipNewlines_alike later)
    rw [Reading.Alike, items_read, items_read]
    simp only [first] at shape
    simp only [shape, show skipNewlines (expression finish other).rest = _ from likeShape]
    exact ⟨⟨.cons item listed.items, listed.close⟩, List.rel_append faults faultsMore, leftMore⟩
  case last =>
    intro input first closing rest shape ih other alike
    obtain ⟨item, faults, left⟩ := ih other alike
    obtain ⟨place, behind, likeShape, near, later⟩ := skipNewlines_cons_alike left shape
    rw [Reading.Alike, items_read, items_read]
    simp only [first] at shape
    simp only [shape, show skipNewlines (expression finish other).rest = _ from likeShape]
    exact ⟨⟨.cons item .nil, near⟩, faults, later⟩
  case broken =>
    intro input first notComma notClose ih other alike
    obtain ⟨item, faults, left⟩ := ih other alike
    have skipped := skipNewlines_alike left
    rw [Reading.Alike, items_read_of_broken notComma notClose,
      items_read_of_broken (not_first_of_alike skipped notComma) (not_first_of_alike skipped notClose)]
    exact ⟨⟨.cons item .nil, here_span ends skipped⟩,
      List.rel_append faults (complaints_alike _ ends skipped), skipped⟩

theorem expression_uniform (covers : Span.Covers R) (ends : R stop finish) (input : List Token) :
    Uniform R (Expression.Alike R) finish expression stop input := (uniform_all covers ends).1 input

theorem statement_uniform (covers : Span.Covers R) (ends : R stop finish) (input : List Token) :
    Uniform R (Statement.Alike R) finish statement stop input := by
  intro other alike
  fun_cases statement stop input with
  | case1 start name span equals rest initial =>
      obtain ⟨_, _, rfl, -, behindLet⟩ := alike_cons alike
      obtain ⟨place, _, rfl, near, behindName⟩ := alike_cons behindLet
      obtain ⟨_, behind, rfl, -, later⟩ := alike_cons behindName
      obtain ⟨value, faults, left⟩ := expression_uniform covers ends rest behind later
      exact ⟨.let near value, faults, left⟩
  | case2 start name span rest notEquals =>
      obtain ⟨_, _, rfl, -, behindLet⟩ := alike_cons alike
      obtain ⟨place, behind, rfl, near, later⟩ := alike_cons behindLet
      rw [statement, statement]
      · exact ⟨.let near (.garbage (here_span ends later)), complaints_alike _ ends later, later⟩
      · exact not_first_of_alike later notEquals
      · exact notEquals
  | case3 start rest _ notName =>
      obtain ⟨_, behind, rfl, -, later⟩ := alike_cons alike
      have likeNotName := fun name => not_first_of_alike later (notName name)
      rw [statement, statement]
      · exact ⟨.expression (.garbage (here_span ends later)), complaints_alike _ ends later, later⟩
      · exact fun name span _ _ => likeNotName name span _
      · exact likeNotName
      · exact fun name span _ _ => notName name span _
      · exact notName
  | case4 span rest nothing =>
      obtain ⟨place, behind, rfl, near, later⟩ := alike_cons alike
      rw [statement, statement, if_pos nothing, if_pos (here_isTerminator later ▸ nothing)]
      exact ⟨.returnNothing near, .nil, later⟩
  | case5 span rest something value =>
      obtain ⟨place, behind, rfl, near, later⟩ := alike_cons alike
      obtain ⟨returned, faults, left⟩ := expression_uniform covers ends rest behind later
      rw [statement, statement, if_neg something, if_neg (here_isTerminator later ▸ something)]
      exact ⟨.return returned (covers near returned.span), faults, left⟩
  | case6 input _ _ notLet notReturn =>
      obtain ⟨value, faults, left⟩ := expression_uniform covers ends input other alike
      rw [Reading.Alike, statement_read notLet notReturn,
        statement_read (not_first_of_alike alike notLet) (not_first_of_alike alike notReturn)]
      exact ⟨.expression value, faults, left⟩

theorem settle_uniform (ends : R stop finish) (input : List Token) :
    Uniform R (fun _ _ => True) finish settle stop input := by
  intro other alike
  have same : (here stop input).isTerminator = (here finish other).isTerminator := here_isTerminator alike
  unfold settle
  rw [← same]
  split
  case isTrue => exact ⟨trivial, .nil, alike⟩
  case isFalse =>
    exact ⟨trivial, complaints_alike _ ends alike, dropWhile_alike (fun symbol => !symbol.isTerminator) alike⟩

theorem statements_uniform (covers : Span.Covers R) (ends : R stop finish) (input : List Token) :
    Uniform R (List.Forall₂ (Statement.Alike R)) finish statements stop input := by
  induction input using statements.induct stop with
  | case1 input shape =>
      intro other alike
      have skipped := skipSeparators_alike alike
      rw [shape] at skipped
      rw [Reading.Alike, statements_read, statements_read, shape, List.forall₂_nil_left_iff.mp skipped]
      exact ⟨.nil, complaints_alike _ ends .nil, .nil⟩
  | case2 input token rest shape closes =>
      intro other alike
      have skipped := skipSeparators_alike alike
      rw [shape] at skipped
      obtain ⟨like, behind, first, later, likeShape⟩ := List.forall₂_cons_left_iff.mp skipped
      rw [Reading.Alike, statements_read, statements_read, shape, likeShape]
      dsimp only
      rw [if_pos closes, if_pos (first.symbol ▸ closes)]
      exact ⟨.nil, .nil, later⟩
  | case3 input token rest shape notClose first settled ih =>
      intro other alike
      have skipped := skipSeparators_alike alike
      rw [shape] at skipped
      obtain ⟨like, behind, same, -, likeShape⟩ := List.forall₂_cons_left_iff.mp skipped
      rw [likeShape] at skipped
      obtain ⟨value, faults, left⟩ := statement_uniform covers ends _ _ skipped
      obtain ⟨-, faultsSettled, leftSettled⟩ := settle_uniform ends _ _ left
      obtain ⟨values, faultsLater, leftLater⟩ := ih _ leftSettled
      rw [Reading.Alike, statements_read, statements_read, shape, likeShape]
      dsimp only
      rw [if_neg notClose, if_neg (same.symbol ▸ notClose)]
      exact ⟨.cons value values, List.rel_append (List.rel_append faults faultsSettled) faultsLater, leftLater⟩

theorem block_uniform (covers : Span.Covers R) (ends : R stop finish) (input : List Token) :
    Uniform R (List.Forall₂ (Statement.Alike R)) finish block stop input := by
  intro other alike
  fun_cases block stop input with
  | case1 opening rest =>
      obtain ⟨_, behind, rfl, -, later⟩ := alike_cons alike
      exact statements_uniform covers ends rest behind later
  | case2 input notOpen =>
      rw [block, block]
      · exact ⟨.nil, complaints_alike _ ends alike, alike⟩
      · exact not_first_of_alike alike notOpen
      · exact notOpen

structure Header.Alike (R : Span → Span → Prop) (header other : Header) : Prop where
  name : header.name = other.name
  nameSpan : R header.nameSpan other.nameSpan
  returnType : Option.Rel (Named.Alike R) header.returnType other.returnType

theorem header_uniform (ends : R stop finish) (input : List Token) :
    Uniform R (Option.Rel (Header.Alike R)) finish header stop input := by
  intro other alike
  fun_cases header stop input with
  | case1 name span _ _ _ type typeSpan rest =>
      obtain ⟨place, _, rfl, near, behindName⟩ := alike_cons alike
      obtain ⟨_, _, rfl, -, behindOpening⟩ := alike_cons behindName
      obtain ⟨_, _, rfl, -, behindClosing⟩ := alike_cons behindOpening
      obtain ⟨_, _, rfl, -, behindArrow⟩ := alike_cons behindClosing
      obtain ⟨typePlace, behind, rfl, typeNear, later⟩ := alike_cons behindArrow
      exact ⟨.some ⟨rfl, near, .some ⟨rfl, typeNear⟩⟩, .nil, later⟩
  | case2 name span _ _ _ rest notType =>
      obtain ⟨_, _, rfl, -, behindName⟩ := alike_cons alike
      obtain ⟨_, _, rfl, -, behindOpening⟩ := alike_cons behindName
      obtain ⟨_, _, rfl, -, behindClosing⟩ := alike_cons behindOpening
      obtain ⟨_, behind, rfl, -, later⟩ := alike_cons behindClosing
      rw [header, header]
      · exact ⟨.none, complaints_alike _ ends later, later⟩
      · exact fun type => not_first_of_alike later (notType type)
      · exact notType
  | case3 name span _ _ rest notArrow =>
      obtain ⟨place, _, rfl, near, behindName⟩ := alike_cons alike
      obtain ⟨_, _, rfl, -, behindOpening⟩ := alike_cons behindName
      obtain ⟨_, behind, rfl, -, later⟩ := alike_cons behindOpening
      rw [header, header]
      · exact ⟨.some ⟨rfl, near, .none⟩, .nil, later⟩
      · exact not_first_of_alike later notArrow
      · exact notArrow
  | case4 name span _ rest notClose =>
      obtain ⟨_, _, rfl, -, behindName⟩ := alike_cons alike
      obtain ⟨_, behind, rfl, -, later⟩ := alike_cons behindName
      rw [header, header]
      · exact ⟨.none, complaints_alike _ ends later, later⟩
      · exact not_first_of_alike later notClose
      · exact notClose
  | case5 name span rest notOpen =>
      obtain ⟨_, behind, rfl, -, later⟩ := alike_cons alike
      rw [header, header]
      · exact ⟨.none, complaints_alike _ ends later, later⟩
      · exact not_first_of_alike later notOpen
      · exact notOpen
  | case6 input notName =>
      rw [header, header]
      · exact ⟨.none, complaints_alike _ ends alike, alike⟩
      · exact fun name => not_first_of_alike alike (notName name)
      · exact notName

theorem toEntry_alike (alike : List.Forall₂ (Token.Alike R) input other) :
    List.Forall₂ (Token.Alike R) (toEntry input) (toEntry other) :=
  dropWhile_alike (fun symbol => !decide (symbol = .openBrace ∨ symbol = .function)) (skipNewlines_alike alike)

theorem function_uniform (covers : Span.Covers R) (ends : R stop finish) (input : List Token) :
    Uniform R (Option.Rel (Function.Alike R)) finish function stop input := by
  intro other alike
  obtain ⟨value, faults, left⟩ := header_uniform ends input other alike
  change Option.Rel (Header.Alike R) (header stop input).value (header finish other).value at value
  rw [Reading.Alike]
  generalize head : (header stop input).value = front at value
  generalize likeHead : (header finish other).value = like at value
  cases value with
  | some same =>
      obtain ⟨body, faultsBody, leftBody⟩ := block_uniform covers ends _ _ (skipNewlines_alike left)
      rw [function_of_some head, function_of_some likeHead]
      exact ⟨.some ⟨same.name, same.nameSpan, same.returnType, body⟩, List.rel_append faults faultsBody, leftBody⟩
  | none =>
      have entry := toEntry_alike left
      by_cases isBlock : ∃ span rest, toEntry (header stop input).rest = ⟨.openBrace, span⟩ :: rest
      · obtain ⟨span, rest, shape⟩ := isBlock
        change List.Forall₂ _ (toEntry (header stop input).rest) _ at entry
        rw [shape] at entry
        obtain ⟨place, behind, likeShape, -, later⟩ := alike_cons entry
        obtain ⟨-, faultsBody, leftBody⟩ := statements_uniform covers ends rest behind later
        rw [function_read_of_block head shape, function_read_of_block likeHead likeShape]
        exact ⟨.none, List.rel_append faults faultsBody, leftBody⟩
      · have notOpen : ∀ span rest, toEntry (header stop input).rest = ⟨.openBrace, span⟩ :: rest → False :=
          fun span rest shape => isBlock ⟨span, rest, shape⟩
        rw [function_read_of_no_block head notOpen,
          function_read_of_no_block likeHead (not_first_of_alike entry notOpen)]
        exact ⟨.none, faults, entry⟩

structure Parse.Alike (R : Span → Span → Prop) (parse other : Parse) : Prop where
  file : parse.file.Alike R other.file
  faults : List.Forall₂ (Fault.Alike R) parse.faults other.faults

theorem toList_alike {α : Type} {V : α → α → Prop} {value other : Option α} (alike : Option.Rel V value other) :
    List.Forall₂ V value.toList other.toList := by
  cases alike with
  | some same => exact .cons same .nil
  | none => exact .nil

theorem functions_alike (covers : Span.Covers R) (ends : R stop finish) (input : List Token) :
    ∀ other, List.Forall₂ (Token.Alike R) input other → (functions stop input).Alike R (functions finish other) := by
  induction input using functions.induct stop with
  | case1 input shape =>
      intro other alike
      have skipped := skipNewlines_alike alike
      rw [shape] at skipped
      rw [functions_eq, functions_eq, shape, List.forall₂_nil_left_iff.mp skipped]
      exact ⟨.nil, .nil⟩
  | case2 input token rest shape isKeyword first ih =>
      intro other alike
      have skipped := skipNewlines_alike alike
      rw [shape] at skipped
      obtain ⟨like, behind, same, later, likeShape⟩ := List.forall₂_cons_left_iff.mp skipped
      obtain ⟨value, faults, left⟩ := function_uniform covers ends rest behind later
      obtain ⟨file, faultsLater⟩ := ih _ left
      rw [functions_eq, functions_eq, shape, likeShape]
      dsimp only
      rw [if_pos isKeyword, if_pos (same.symbol ▸ isKeyword)]
      exact ⟨List.rel_append (toList_alike value) file, List.rel_append faults faultsLater⟩
  | case3 input token rest shape notKeyword ih =>
      intro other alike
      have skipped := skipNewlines_alike alike
      rw [shape] at skipped
      obtain ⟨like, behind, same, later, likeShape⟩ := List.forall₂_cons_left_iff.mp skipped
      obtain ⟨file, faultsLater⟩ := ih _ (dropWhile_alike (fun symbol => symbol ≠ .function) later)
      rw [functions_eq, functions_eq, shape, likeShape]
      dsimp only
      rw [if_neg notKeyword, if_neg (same.symbol ▸ notKeyword)]
      rw [likeShape] at skipped
      exact ⟨file, .cons (complaint_alike _ ends skipped) faultsLater⟩

end Tree

/-- Streams that are alike are read into trees that are alike, with faults that are alike. -/
theorem parse_alike {R : Span → Span → Prop} (covers : Span.Covers R) {stream other : Stream}
    (alike : stream.Alike R other) : (parse stream).Alike R (parse other) :=
  Tree.functions_alike covers alike.stop _ _ alike.tokens

end StageZero
