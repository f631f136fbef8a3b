import StageZero.Proofs.Grammar
import StageZero.Tree.Read

/-! Reading against the grammar. What is read without faults derives from what was consumed, and
what derives is read without faults, up to where it ends. -/
namespace StageZero.Tree

/-! ### What readers give -/

/-- A reading without the proof about what it leaves. -/
structure Read (α : Type) where
  value : α
  faults : List (Fault SyntaxCause)
  rest : List Token

def Reading.read {α : Type} {input : List Token} (reading : Reading α input) : Read α :=
  ⟨reading.value, reading.faults, reading.rest⟩

theorem arguments_read (stop : Span) (input : List Token) :
    (arguments stop input).read = match skipNewlines input with
      | ⟨.closeParen, span⟩ :: rest => ⟨⟨[], span⟩, [], rest⟩
      | first => (items stop first).read := by
  rw [arguments]
  split
  case h_1 shape => simp only [Reading.read, shape]
  case h_2 notClose => 
    split
    case h_1 shape => exact absurd shape (notClose _ _)
    case h_2 => rfl

theorem items_read (stop : Span) (input : List Token) :
    (items stop input).read =
      let first := expression stop input
      match skipNewlines first.rest with
      | ⟨.comma, _⟩ :: rest =>
        let more := items stop (skipNewlines rest)
        ⟨⟨first.value :: more.value.items, more.value.close⟩, first.faults ++ more.faults, more.rest⟩
      | ⟨.closeParen, span⟩ :: rest => ⟨⟨[first.value], span⟩, first.faults, rest⟩
      | after => ⟨⟨[first.value], (here stop after).span⟩,
          first.faults ++ [complaint .commaOrCloseParen stop after], after⟩ := by
  rw [items]
  dsimp only
  split
  case h_1 shape => simp only [Reading.read, shape]
  case h_2 shape => simp only [Reading.read, shape]
  case h_3 notComma notClose =>
    split
    case h_1 shape => exact absurd shape (notComma _ _)
    case h_2 shape => exact absurd shape (notClose _ _)
    case h_3 => rfl

theorem statements_read (stop : Span) (input : List Token) :
    (statements stop input).read = match skipSeparators input with
      | [] => ⟨[], [complaint .closeBrace stop []], []⟩
      | token :: rest =>
        if token.symbol = .closeBrace then ⟨[], [], rest⟩
        else
          let first := statement stop (token :: rest)
          let settled := settle stop first.rest
          let later := statements stop settled.rest
          ⟨first.value :: later.value, first.faults ++ settled.faults ++ later.faults, later.rest⟩ := by
  rw [statements]
  split
  case h_1 shape => simp only [Reading.read, shape]
  case h_2 token rest shape =>
    simp only [shape]
    split <;> rfl

theorem functions_eq (stop : Span) (input : List Token) :
    functions stop input = match skipNewlines input with
      | [] => ⟨⟨[]⟩, []⟩
      | token :: rest =>
        if token.symbol = .function then
          let first := function stop rest
          let later := functions stop first.rest
          ⟨⟨first.value.toList ++ later.file.functions⟩, first.faults ++ later.faults⟩
        else
          let later := functions stop (rest.dropWhile fun token => token.symbol ≠ .function)
          ⟨later.file, complaint .functionKeyword stop (token :: rest) :: later.faults⟩ := by
  rw [functions]
  split
  case h_1 shape => rw [shape]
  case h_2 token rest shape => rw [shape]

/-! ### What readers give where nothing fits -/

/-- Whether an expression begins with this symbol. -/
def begins : Symbol → Bool
  | .number _ | .quotation _ | .name _ | .garbage => true
  | _ => false

theorem begins_eq_false {token : Token} (notNumber : ∀ value span, token = ⟨.number value, span⟩ → False)
    (notQuotation : ∀ text span, token = ⟨.quotation text, span⟩ → False)
    (notName : ∀ name span, token = ⟨.name name, span⟩ → False)
    (notGarbage : ∀ span, token = ⟨.garbage, span⟩ → False) : begins token.symbol = false := by
  obtain ⟨symbol, span⟩ := token
  cases symbol with
  | number value => exact (notNumber value span rfl).elim
  | quotation text => exact (notQuotation text span rfl).elim
  | name name => exact (notName name span rfl).elim
  | garbage => exact (notGarbage span rfl).elim
  | _ => rfl

/-- What begins no expression is passed, unless it ends a statement or closes a call. -/
theorem expression_read_of_other {token : Token} (other : begins token.symbol = false) (stop : Span)
    (rest : List Token) :
    (expression stop (token :: rest)).read =
      ⟨.garbage token.span, [complaint .expression stop (token :: rest)],
        if token.symbol.isTerminator ∨ token.symbol = .closeParen then token :: rest else rest⟩ := by
  rw [expression]
  · split <;> rfl
  · rintro value span rfl
    exact Bool.noConfusion other
  · rintro text span rfl
    exact Bool.noConfusion other
  · rintro name span opening later rfl
    exact Bool.noConfusion other
  · rintro name span rfl
    exact Bool.noConfusion other
  · rintro span rfl
    exact Bool.noConfusion other

theorem arguments_read_of_items {stop : Span} {input : List Token}
    (notClose : ∀ span rest, skipNewlines input = ⟨.closeParen, span⟩ :: rest → False) :
    (arguments stop input).read = (items stop (skipNewlines input)).read := by
  rw [arguments_read]
  split
  case h_1 shape => exact (notClose _ _ shape).elim
  case h_2 => rfl

theorem items_read_of_broken {stop : Span} {input : List Token}
    (notComma : ∀ span rest, skipNewlines (expression stop input).rest = ⟨.comma, span⟩ :: rest → False)
    (notClose : ∀ span rest, skipNewlines (expression stop input).rest = ⟨.closeParen, span⟩ :: rest → False) :
    (items stop input).read =
      let first := expression stop input
      let after := skipNewlines first.rest
      ⟨⟨[first.value], (here stop after).span⟩, first.faults ++ [complaint .commaOrCloseParen stop after], after⟩ := by
  rw [items_read]
  dsimp only
  split
  case h_1 shape => exact (notComma _ _ shape).elim
  case h_2 shape => exact (notClose _ _ shape).elim
  case h_3 => rfl

/-- What is gone on with behind a broken header: the next block or the next function. -/
def toEntry (input : List Token) : List Token :=
  (skipNewlines input).dropWhile fun token => !decide (token.symbol = .openBrace ∨ token.symbol = .function)

theorem function_read_of_block {stop : Span} {input rest : List Token} {span : Span} (none : (header stop input).value = .none)
    (shape : toEntry (header stop input).rest = ⟨.openBrace, span⟩ :: rest) :
    (function stop input).read =
      let body := statements stop rest
      ⟨.none, (header stop input).faults ++ body.faults, body.rest⟩ := by
  unfold function
  dsimp only
  split
  case h_1 found => exact absurd (none.symm.trans found) nofun
  case h_2 =>
    split
    case h_1 found =>
      cases found.symm.trans shape
      rfl
    case h_2 notOpen => exact (notOpen span rest shape).elim

theorem function_read_of_no_block {stop : Span} {input : List Token} (none : (header stop input).value = .none)
    (notOpen : ∀ span rest, toEntry (header stop input).rest = ⟨.openBrace, span⟩ :: rest → False) :
    (function stop input).read = ⟨.none, (header stop input).faults, toEntry (header stop input).rest⟩ := by
  unfold function
  dsimp only
  split
  case h_1 found => exact absurd (none.symm.trans found) nofun
  case h_2 =>
    split
    case h_1 found => exact (notOpen _ _ found).elim
    case h_2 => rfl

/-! ### What is skipped -/

theorem exists_newlines (input : List Token) :
    ∃ gap, Grammar.Newlines gap ∧ gap ++ skipNewlines input = input := by
  refine ⟨input.takeWhile fun token => token.symbol = .newline, ?_, List.takeWhile_append_dropWhile⟩
  intro token member
  simpa using List.all_eq_true.mp List.all_takeWhile token member

theorem exists_separators (input : List Token) :
    ∃ gap, Grammar.Separators gap ∧ gap ++ skipSeparators input = input := by
  refine ⟨input.takeWhile fun token => token.symbol = .newline ∨ token.symbol = .semicolon, ?_,
    List.takeWhile_append_dropWhile⟩
  intro token member
  simpa using List.all_eq_true.mp List.all_takeWhile token member

theorem symbol_eq_of_cons {token other : Token} {more rest : List Token}
    (same : token :: more = other :: rest) : token.symbol = other.symbol := congrArg Token.symbol (List.cons_eq_cons.mp same).1

theorem skipNewlines_append {gap : List Token} (newlines : Grammar.Newlines gap) (rest : List Token) :
    skipNewlines (gap ++ rest) = skipNewlines rest :=
  List.dropWhile_append_of_pos fun token member => decide_eq_true (newlines token member)

theorem skipSeparators_append {gap : List Token} (separators : Grammar.Separators gap)
    (rest : List Token) : skipSeparators (gap ++ rest) = skipSeparators rest :=
  List.dropWhile_append_of_pos fun token member => decide_eq_true (separators token member)

theorem skipNewlines_cons {symbol : Symbol} (stays : symbol ≠ .newline) (span : Span) (rest : List Token) :
    skipNewlines (⟨symbol, span⟩ :: rest) = ⟨symbol, span⟩ :: rest :=
  List.dropWhile_cons_of_neg (by simpa using stays)

theorem skipSeparators_cons {token : Token}
    (stays : ¬ (token.symbol = .newline ∨ token.symbol = .semicolon)) (rest : List Token) :
    skipSeparators (token :: rest) = token :: rest :=
  List.dropWhile_cons_of_neg (by simpa using stays)

theorem ne_of_inside {symbol other : Symbol} (inside : symbol.isTerminator = false)
    (ends : other.isTerminator = true) : symbol ≠ other := by
  rintro rfl
  exact absurd (inside.symm.trans ends) Bool.false_ne_true

theorem skipNewlines_items {tokens : List Token} {listed : List Expression}
    (derived : Grammar.Items tokens listed) (rest : List Token) :
    skipNewlines (tokens ++ rest) = tokens ++ rest := by
  obtain ⟨token, more, rfl, inside, -⟩ := derived.first
  exact skipNewlines_cons (ne_of_inside inside rfl) _ _

theorem skipSeparators_statement {tokens : List Token} {value : Statement}
    (derived : Grammar.Statement tokens value) (rest : List Token) :
    skipSeparators (tokens ++ rest) = tokens ++ rest := by
  obtain ⟨token, more, rfl, inside⟩ := derived.first
  refine skipSeparators_cons (fun separator => ?_) _
  rcases separator with newline | semicolon
  · exact ne_of_inside inside rfl newline
  · exact ne_of_inside inside rfl semicolon

/-! ### What is read derives -/

/-- If nothing is wrong, the tokens consumed derive the value. -/
def Reading.Derives {α : Type} {input : List Token} (reading : Reading α input)
    (grammar : List Token → α → Prop) : Prop :=
  reading.faults = [] → ∃ tokens, tokens ++ reading.rest = input ∧ grammar tokens reading.value

theorem Reading.Derives.of_read {α : Type} {input rest : List Token} {reading : Reading α input}
    {grammar : List Token → α → Prop} {value : α} {faults : List (Fault SyntaxCause)}
    (read : reading.read = ⟨value, faults, rest⟩)
    (derives : faults = [] → ∃ tokens, tokens ++ rest = input ∧ grammar tokens value) :
    reading.Derives grammar := by
  obtain ⟨_, _, _, _⟩ := reading
  cases read
  exact derives

/-- Arguments up to and with the closing parenthesis, from behind the opening one. -/
def Called (tokens : List Token) (called : Arguments) : Prop :=
  ∃ gap inner, Grammar.Newlines gap ∧ Grammar.Arguments inner called.items ∧
    tokens = gap ++ inner ++ [⟨.closeParen, called.close⟩]

def Listed (tokens : List Token) (called : Arguments) : Prop :=
  ∃ inner, Grammar.Items inner called.items ∧ tokens = inner ++ [⟨.closeParen, called.close⟩]

-- The readers call each other, so the three are proved at once, one case for each branch of theirs.
theorem derives_all (stop : Span) :
    (∀ input, (expression stop input).Derives Grammar.Expression) ∧
    (∀ input, (arguments stop input).Derives Called) ∧
    ∀ input, (items stop input).Derives Listed := by
  refine expression.mutual_induct stop _ _ _ ?number ?quotation ?call ?name ?garbage ?nothing
    ?closed ?other ?none ?some ?more ?last ?broken
  case number =>
    intro value span rest _
    rw [expression]
    exact ⟨[_], rfl, .number⟩
  case quotation =>
    intro text span rest _
    rw [expression]
    exact ⟨[_], rfl, .quotation⟩
  case call =>
    intro name span opening rest ih clean
    rw [expression] at clean ⊢
    obtain ⟨tokens, whole, gap, inner, newlines, listed, rfl⟩ := ih clean
    exact ⟨_, congrArg (fun rest => ⟨.name name, span⟩ :: ⟨.openParen, opening⟩ :: rest) whole,
      .call newlines listed⟩
  case name =>
    intro name span rest notCall _
    rw [expression]
    · exact ⟨[_], rfl, .variable⟩
    · exact notCall
  case garbage =>
    intro span rest _
    rw [expression]
    exact ⟨[_], rfl, .garbage⟩
  case nothing =>
    intro clean
    rw [expression] at clean
    exact absurd clean (List.cons_ne_nil _ _)
  case closed =>
    intro token rest notNumber notQuotation notCall notName notGarbage ends clean
    rw [expression, if_pos ends] at clean
    · exact absurd clean (List.cons_ne_nil _ _)
    all_goals assumption
  case other =>
    intro token rest notNumber notQuotation notCall notName notGarbage inside clean
    rw [expression, if_neg inside] at clean
    · exact absurd clean (List.cons_ne_nil _ _)
    all_goals assumption
  case none =>
    intro input span rest shape
    have read := arguments_read stop input
    obtain ⟨gap, newlines, whole⟩ := exists_newlines input
    rw [shape] at read whole
    refine .of_read read fun _ => ⟨gap ++ [⟨.closeParen, span⟩], ?_, gap, [], newlines, .none, ?_⟩
    · rw [List.append_assoc]
      exact whole
    · rw [List.append_nil]
  case some =>
    intro input notClose ih
    have read := arguments_read stop input
    obtain ⟨gap, newlines, whole⟩ := exists_newlines input
    split at read
    case h_1 shape => exact absurd shape (notClose _ _)
    case h_2 =>
    refine .of_read read fun clean => ?_
    obtain ⟨tokens, front, inner, listed, rfl⟩ := ih clean
    refine ⟨gap ++ (inner ++ [_]), ?_, gap, inner, newlines, .some listed, List.append_assoc .. |>.symm⟩
    rw [List.append_assoc, front, whole]
  case more =>
    intro input first comma rest shape ihFirst ihMore
    have read := items_read stop input
    obtain ⟨gap, newlines, whole⟩ := exists_newlines (expression stop input).rest
    obtain ⟨next, behind, later⟩ := exists_newlines rest
    rw [shape] at whole
    simp only [first, shape] at read
    refine .of_read read fun clean => ?_
    obtain ⟨cleanFirst, cleanMore⟩ := List.append_eq_nil_iff.mp clean
    obtain ⟨tokens, front, item⟩ := ihFirst cleanFirst
    obtain ⟨_, back, inner, listed, rfl⟩ := ihMore cleanMore
    have derived : Grammar.Items (tokens ++ gap ++ ⟨.comma, comma⟩ :: (next ++ inner)) _ :=
      .more item newlines behind listed
    refine ⟨_, ?_, _, derived, rfl⟩
    rw [← later, ← back] at whole
    rw [← whole] at front
    simpa only [List.append_assoc, List.cons_append] using front
  case last =>
    intro input first closing rest shape ih
    have read := items_read stop input
    obtain ⟨gap, newlines, whole⟩ := exists_newlines first.rest
    rw [shape] at whole
    simp only [first, shape] at read
    refine .of_read read fun clean => ?_
    obtain ⟨tokens, front, item⟩ := ih clean
    refine ⟨_, ?_, _, .last item newlines, rfl⟩
    rw [List.append_assoc, List.append_assoc, List.singleton_append, whole, front]
  case broken =>
    intro input first notComma notClose _
    have read := items_read stop input
    dsimp only at read
    split at read
    case h_1 shape => exact absurd shape (notComma _ _)
    case h_2 shape => exact absurd shape (notClose _ _)
    case h_3 =>
      refine .of_read read fun clean => ?_
      exact absurd (List.append_eq_nil_iff.mp clean).2 (List.cons_ne_nil _ _)

theorem expression_derives (stop : Span) (input : List Token) :
    (expression stop input).Derives Grammar.Expression := (derives_all stop).1 input

theorem statement_derives (stop : Span) (input : List Token) :
    (statement stop input).Derives Grammar.Statement := by
  unfold statement
  split
  case h_1 start name span equals rest =>
    intro clean
    obtain ⟨tokens, whole, derived⟩ := expression_derives stop rest clean
    exact ⟨_, congrArg (fun rest => ⟨.let, start⟩ :: ⟨.name name, span⟩ :: ⟨.equals, equals⟩ :: rest) whole,
      .let derived⟩
  case h_2 | h_3 => exact fun clean => absurd clean (List.cons_ne_nil _ _)
  case h_4 span rest =>
    split
    case isTrue => exact fun _ => ⟨[_], rfl, .returnNothing⟩
    case isFalse =>
      intro clean
      obtain ⟨tokens, whole, derived⟩ := expression_derives stop rest clean
      exact ⟨_, congrArg (fun rest => ⟨.return, span⟩ :: rest) whole, .return derived⟩
  case h_5 =>
    intro clean
    obtain ⟨tokens, whole, derived⟩ := expression_derives stop input clean
    exact ⟨_, whole, .expression derived⟩

/-- Behind a statement that is settled without a fault stands what ends it. -/
theorem settle_clean {stop : Span} {input : List Token} (clean : (settle stop input).faults = []) :
    (here stop input).isTerminator = true ∧ (settle stop input).rest = input := by
  unfold settle at clean ⊢
  split
  case isTrue ends => exact ⟨ends, rfl⟩
  case isFalse inside =>
    rw [if_neg inside] at clean
    exact absurd clean (List.cons_ne_nil _ _)

/-- Statements up to and with the closing brace. -/
def Enclosed (tokens : List Token) (body : List Statement) : Prop :=
  ∃ gap inner closing, Grammar.Separators gap ∧ (inner = [] ∧ body = [] ∨ Grammar.Statements inner body) ∧
    tokens = gap ++ inner ++ [⟨.closeBrace, closing⟩]

theorem statements_derives (stop : Span) (input : List Token) :
    (statements stop input).Derives Enclosed := by
  induction input using statements.induct stop with
  | case1 input shape =>
      have read := statements_read stop input
      rw [shape] at read
      exact .of_read read fun clean => absurd clean (List.cons_ne_nil _ _)
  | case2 input token rest shape closes =>
      have read := statements_read stop input
      obtain ⟨gap, separators, whole⟩ := exists_separators input
      rw [shape] at read whole
      simp only [closes, if_true] at read
      obtain ⟨symbol, span⟩ := token
      obtain rfl : symbol = .closeBrace := closes
      refine .of_read read fun _ => ⟨_, ?_, gap, [], span, separators, .inl ⟨rfl, rfl⟩, rfl⟩
      rw [List.append_nil, List.append_assoc]
      exact whole
  | case3 input token rest shape notClose first settled ih _ =>
      have read := statements_read stop input
      obtain ⟨gap, separators, whole⟩ := exists_separators input
      rw [shape] at read whole
      simp only [notClose, if_false] at read
      refine .of_read read fun clean => ?_
      obtain ⟨clean, cleanLater⟩ := List.append_eq_nil_iff.mp clean
      obtain ⟨cleanFirst, cleanSettled⟩ := List.append_eq_nil_iff.mp clean
      obtain ⟨tokens, front, statement⟩ := statement_derives stop _ cleanFirst
      obtain ⟨ends, unmoved⟩ := settle_clean cleanSettled
      obtain ⟨_, back, between, inner, closing, separatorsLater, later, rfl⟩ := ih cleanLater
      simp only [settled, first, unmoved] at back
      rw [← back] at front ends
      rw [← front] at whole
      rcases later with ⟨rfl, none⟩ | later
      · refine ⟨_, ?_, gap, tokens ++ between, closing, separators, .inr ?_, rfl⟩
        · simpa only [List.append_assoc, List.append_nil] using whole
        · rw [none]
          exact .last statement separatorsLater
      -- Another statement follows, and what settled the one before it is not part of it.
      · have some : between ≠ [] := by
          rintro rfl
          obtain ⟨token, more, rfl, inside⟩ := later.first
          exact absurd ends (by simp [here, Mark.isTerminator, Token.mark, inside])
        refine ⟨_, ?_, gap, tokens ++ between ++ inner, closing, separators,
          .inr (.more statement separatorsLater some later), rfl⟩
        simpa only [List.append_assoc] using whole

theorem block_derives (stop : Span) (input : List Token) :
    (block stop input).Derives Grammar.Block := by
  unfold block
  split
  case h_1 opening rest =>
    intro clean
    obtain ⟨_, whole, gap, inner, closing, separators, body, rfl⟩ := statements_derives stop rest clean
    refine ⟨⟨.openBrace, opening⟩ :: (gap ++ inner ++ [⟨.closeBrace, closing⟩]), ?_, ?_⟩
    · exact congrArg (fun rest => ⟨.openBrace, opening⟩ :: rest) whole
    · change Grammar.Block _ (statements stop rest).value
      rcases body with ⟨rfl, none⟩ | body
      · rw [none, List.append_nil]
        exact .empty separators
      · exact .full separators body
  case h_2 => exact fun clean => absurd clean (List.cons_ne_nil _ _)

/-- The tokens of a header. Between its keyword and a block they make a function. -/
def Headed (tokens : List Token) (head : Option Header) : Prop :=
  ∃ header, head = some header ∧ ∀ start gap inner body, Grammar.Newlines gap → Grammar.Block inner body →
    Grammar.Function (⟨.function, start⟩ :: (tokens ++ (gap ++ inner)))
      ⟨header.name, header.nameSpan, header.returnType, body⟩

theorem header_derives (stop : Span) (input : List Token) : (header stop input).Derives Headed := by
  unfold header
  split
  case h_1 name span rest₁ =>
    split
    case h_1 opening rest₂ =>
      split
      case h_1 closing rest₃ =>
        split
        case h_1 arrow rest₄ =>
          split
          case h_1 type typeSpan rest =>
            intro _
            refine ⟨[⟨.name name, span⟩, ⟨.openParen, opening⟩, ⟨.closeParen, closing⟩, ⟨.arrow, arrow⟩,
              ⟨.name type, typeSpan⟩], rfl, ⟨name, span, some ⟨type, typeSpan⟩⟩, rfl, ?_⟩
            exact fun _ _ _ _ newlines block => (Grammar.Function.typed newlines block :)
          case h_2 => exact fun clean => absurd clean (List.cons_ne_nil _ _)
        case h_2 =>
          intro _
          refine ⟨[⟨.name name, span⟩, ⟨.openParen, opening⟩, ⟨.closeParen, closing⟩], rfl,
            ⟨name, span, none⟩, rfl, ?_⟩
          exact fun _ _ _ _ newlines block => (Grammar.Function.plain newlines block :)
      case h_2 => exact fun clean => absurd clean (List.cons_ne_nil _ _)
    case h_2 => exact fun clean => absurd clean (List.cons_ne_nil _ _)
  case h_2 => exact fun clean => absurd clean (List.cons_ne_nil _ _)

theorem function_of_some {stop : Span} {input : List Token} {head : Header}
    (some : (header stop input).value = .some head) :
    (function stop input).read =
      let body := block stop (skipNewlines (header stop input).rest)
      ⟨.some ⟨head.name, head.nameSpan, head.returnType, body.value⟩,
        (header stop input).faults ++ body.faults, body.rest⟩ := by
  unfold function
  dsimp only
  split
  case h_1 found =>
    cases some.symm.trans found
    rfl
  case h_2 none => exact absurd (some.symm.trans none) nofun

theorem function_of_none {stop : Span} {input : List Token} (none : (header stop input).value = .none) :
    ∃ faults, (function stop input).faults = (header stop input).faults ++ faults := by
  unfold function
  dsimp only
  split
  case h_1 found => exact absurd (none.symm.trans found) nofun
  case h_2 =>
    split
    case h_1 => exact ⟨_, rfl⟩
    case h_2 => exact ⟨[], (List.append_nil _).symm⟩

/-- A function from behind its keyword. -/
def Defined (tokens : List Token) (defined : Option Function) : Prop :=
  ∃ function, defined = some function ∧ ∀ start, Grammar.Function (⟨.function, start⟩ :: tokens) function

theorem function_derives (stop : Span) (input : List Token) :
    (function stop input).Derives Defined := by
  cases value : (header stop input).value with
  | none =>
      intro clean
      obtain ⟨faults, both⟩ := function_of_none value
      obtain ⟨cleanHead, -⟩ := List.append_eq_nil_iff.mp (both.symm.trans clean)
      obtain ⟨_, _, _, some, _⟩ := header_derives stop input cleanHead
      exact absurd (value.symm.trans some) nofun
  | some head =>
      refine .of_read (function_of_some value) fun clean => ?_
      obtain ⟨cleanHead, cleanBody⟩ := List.append_eq_nil_iff.mp clean
      obtain ⟨front, whole, _, same, derives⟩ := header_derives stop input cleanHead
      cases value.symm.trans same
      obtain ⟨gap, newlines, skipped⟩ := exists_newlines (header stop input).rest
      obtain ⟨inner, body, derived⟩ := block_derives stop _ cleanBody
      refine ⟨front ++ (gap ++ inner), ?_, _, rfl, fun start => derives start gap inner _ newlines derived⟩
      rw [List.append_assoc, List.append_assoc, body, skipped, whole]

theorem functions_derives (stop : Span) (input : List Token) (clean : (functions stop input).faults = []) :
    Grammar.File input (functions stop input).file := by
  induction input using functions.induct stop with
  | case1 input shape =>
      obtain ⟨gap, newlines, whole⟩ := exists_newlines input
      rw [shape] at whole
      rw [functions_eq, shape, ← whole]
      exact .file newlines .none
  | case2 input token rest shape isKeyword first ih =>
      obtain ⟨gap, newlines, whole⟩ := exists_newlines input
      obtain ⟨symbol, span⟩ := token
      obtain rfl : symbol = .function := isKeyword
      rw [functions_eq, shape] at clean ⊢
      dsimp only at clean ⊢
      rw [if_pos rfl] at clean ⊢
      obtain ⟨cleanFirst, cleanLater⟩ := List.append_eq_nil_iff.mp clean
      obtain ⟨tokens, front, defined, value, derived⟩ := function_derives stop rest cleanFirst
      obtain ⟨between, later, behind, newlinesLater, functions⟩ := (ih cleanLater).functions
      have all := Grammar.File.file newlines (.more (derived span) newlinesLater functions)
      have same : gap ++ (⟨.function, span⟩ :: tokens ++ between ++ later) = input := by
        rw [List.append_assoc, ← behind, List.cons_append, front, ← shape, whole]
      rw [same] at all
      rw [value]
      exact all
  | case3 input token rest shape notKeyword _ =>
      rw [functions_eq, shape] at clean
      dsimp only at clean
      rw [if_neg notKeyword] at clean
      exact absurd clean (List.cons_ne_nil _ _)

/-! ### What derives is read -/

/-- A name in front of these tokens is not called. -/
def Clear (tokens : List Token) : Prop := ∀ span rest, tokens = ⟨.openParen, span⟩ :: rest → False

theorem Clear.cons {symbol : Symbol} (other : symbol ≠ .openParen) (span : Span) (rest : List Token) :
    Clear (⟨symbol, span⟩ :: rest) :=
  fun _ _ same => other (symbol_eq_of_cons same)

theorem Clear.of_newlines {gap rest : List Token} (newlines : Grammar.Newlines gap) (clear : Clear rest) :
    Clear (gap ++ rest) := by
  cases gap with
  | nil => exact clear
  | cons token gap =>
      obtain ⟨symbol, span⟩ := token
      obtain rfl : symbol = .newline := newlines _ (List.mem_cons_self ..)
      exact .cons (by decide) span _

theorem Clear.of_isTerminator {stop : Span} {rest : List Token}
    (ends : (here stop rest).isTerminator = true) : Clear rest := by
  rintro span more rfl
  exact absurd ends nofun

theorem Reading.read_eq_iff {α : Type} {input rest : List Token} {reading : Reading α input} {value : α}
    {faults : List (Fault SyntaxCause)} :
    reading.read = ⟨value, faults, rest⟩ ↔
      reading.value = value ∧ reading.faults = faults ∧ reading.rest = rest :=
  Read.mk.injEq .. ▸ Iff.rfl

/-- Expressions are read back in front of what does not call them. -/
def ReadsExpression (stop : Span) (tokens : List Token) (tree : Expression) : Prop :=
  ∀ rest, Clear rest → (expression stop (tokens ++ rest)).read = ⟨tree, [], rest⟩

def ReadsArguments (stop : Span) (tokens : List Token) (listed : List Expression) : Prop :=
  ∀ gap closing rest, Grammar.Newlines gap →
    (arguments stop (gap ++ (tokens ++ ⟨.closeParen, closing⟩ :: rest))).read = ⟨⟨listed, closing⟩, [], rest⟩

def ReadsItems (stop : Span) (tokens : List Token) (listed : List Expression) : Prop :=
  ∀ closing rest,
    (items stop (tokens ++ ⟨.closeParen, closing⟩ :: rest)).read = ⟨⟨listed, closing⟩, [], rest⟩

theorem readsExpression {tokens : List Token} {tree : Expression} (stop : Span)
    (derived : Grammar.Expression tokens tree) : ReadsExpression stop tokens tree := by
  refine @Grammar.Expression.rec (fun tokens tree _ => ReadsExpression stop tokens tree)
    (fun tokens listed _ => ReadsArguments stop tokens listed)
    (fun tokens listed _ => ReadsItems stop tokens listed)
    ?number ?quotation ?garbage ?name ?call ?none ?some ?last ?more _ _ derived
  case number | quotation | garbage =>
    intros
    intro rest _
    rw [List.singleton_append, expression]
    rfl
  case name =>
    intro name span rest clear
    rw [List.singleton_append, expression]
    · rfl
    · exact clear
  case call =>
    intro name span opening gap inner listed closing newlines _ ih rest _
    obtain ⟨value, clean, left⟩ := Reading.read_eq_iff.mp (ih gap closing rest newlines)
    rw [List.cons_append, List.cons_append, List.append_assoc, List.append_assoc, List.singleton_append,
      expression, Reading.read_eq_iff]
    exact ⟨by rw [value], clean, left⟩
  case none =>
    intro gap closing rest newlines
    rw [arguments_read, skipNewlines_append newlines, List.nil_append,
      skipNewlines_cons (by decide : Symbol.closeParen ≠ .newline)]
  case some =>
    intro tokens listed derived ih gap closing rest newlines
    have read := ih closing rest
    rw [arguments_read, skipNewlines_append newlines, skipNewlines_items derived]
    obtain ⟨token, more, rfl, -, notClose⟩ := derived.first
    split
    case h_1 shape => exact absurd (symbol_eq_of_cons shape) notClose
    case h_2 => exact read
  case last =>
    intro tokens item gap _ newlines ih closing rest
    have clear := Clear.of_newlines newlines (.cons (by decide : Symbol.closeParen ≠ .openParen) closing rest)
    obtain ⟨value, clean, left⟩ := Reading.read_eq_iff.mp (ih _ clear)
    rw [List.append_assoc, items_read]
    dsimp only
    rw [left, skipNewlines_append newlines, skipNewlines_cons (by decide : Symbol.closeParen ≠ .newline)]
    rw [value, clean]
  case more =>
    intro tokens item gap comma next later listed _ newlines behind derived ih ihLater closing rest
    let ending := ⟨.closeParen, closing⟩ :: rest
    have clear := Clear.of_newlines newlines
      (.cons (by decide : Symbol.comma ≠ .openParen) comma (next ++ (later ++ ending)))
    obtain ⟨value, clean, left⟩ := Reading.read_eq_iff.mp (ih _ clear)
    obtain ⟨values, cleanLater, leftLater⟩ := Reading.read_eq_iff.mp (ihLater closing rest)
    rw [List.append_assoc, List.append_assoc, List.cons_append, List.append_assoc, items_read]
    dsimp only
    rw [left, skipNewlines_append newlines, skipNewlines_cons (by decide : Symbol.comma ≠ .newline)]
    dsimp only
    rw [skipNewlines_append behind, skipNewlines_items derived]
    rw [value, clean, values, cleanLater, leftLater, List.append_nil]

theorem statement_read {stop : Span} {input : List Token} (notLet : ∀ span rest, input ≠ ⟨.let, span⟩ :: rest)
    (notReturn : ∀ span rest, input ≠ ⟨.return, span⟩ :: rest) :
    (statement stop input).read =
      let alone := expression stop input
      ⟨.expression alone.value, alone.faults, alone.rest⟩ := by
  unfold statement
  split
  case h_1 | h_2 | h_3 => exact absurd rfl (notLet _ _)
  case h_4 => exact absurd rfl (notReturn _ _)
  case h_5 => rfl

theorem reads_statement {stop : Span} {tokens rest : List Token} {value : Statement}
    (derived : Grammar.Statement tokens value) (ends : (here stop rest).isTerminator = true) :
    (statement stop (tokens ++ rest)).read = ⟨value, [], rest⟩ := by
  have clear := Clear.of_isTerminator ends
  cases derived with
  | «let» initial =>
      obtain ⟨value, clean, left⟩ := Reading.read_eq_iff.mp (readsExpression stop initial rest clear)
      exact Reading.read_eq_iff.mpr ⟨congrArg (Statement.let _ _) value, clean, left⟩
  | returnNothing =>
      rw [List.singleton_append, statement, if_pos ends]
      rfl
  | @«return» span _ value returned =>
      obtain ⟨value, clean, left⟩ := Reading.read_eq_iff.mp (readsExpression stop returned rest clear)
      obtain ⟨token, more, rfl, inside, -⟩ := returned.first
      rw [List.cons_append, statement, if_neg, Reading.read_eq_iff]
      · have same := congrArg (fun value => Statement.return (some value) (span.cover value.span)) value
        exact ⟨same, clean, left⟩
      · exact Bool.eq_false_iff.mp inside
  | expression alone =>
      obtain ⟨value, clean, left⟩ := Reading.read_eq_iff.mp (readsExpression stop alone rest clear)
      obtain ⟨token, more, rfl, -, -, notLet, notReturn⟩ := alone.first
      rw [statement_read]
      · dsimp only
        rw [value, clean, left]
      · exact fun _ _ same => notLet (symbol_eq_of_cons same)
      · exact fun _ _ same => notReturn (symbol_eq_of_cons same)

/-- A statement is read, and what stands behind it goes on as the rest of the body. -/
theorem reads_first {stop : Span} {gap tokens rest : List Token} {value : Statement}
    (separators : Grammar.Separators gap) (derived : Grammar.Statement tokens value)
    (ends : (here stop rest).isTerminator = true) :
    (statements stop (gap ++ (tokens ++ rest))).read =
      let later := statements stop rest
      ⟨value :: later.value, later.faults, later.rest⟩ := by
  have first := reads_statement derived ends
  rw [statements_read, skipSeparators_append separators, skipSeparators_statement derived]
  obtain ⟨token, more, rfl, inside⟩ := derived.first
  rw [List.cons_append] at first ⊢
  obtain ⟨value, clean, left⟩ := Reading.read_eq_iff.mp first
  have settled : settle stop rest = ⟨(), [], rest, List.suffix_rfl⟩ := if_pos ends
  have notClose : token.symbol ≠ .closeBrace := ne_of_inside inside rfl
  dsimp only
  rw [if_neg notClose, left, settled, value, clean, List.nil_append, List.nil_append]

theorem reads_nothing {stop : Span} {gap rest : List Token} {closing : Span}
    (separators : Grammar.Separators gap) :
    (statements stop (gap ++ ⟨.closeBrace, closing⟩ :: rest)).read = ⟨[], [], rest⟩ := by
  rw [statements_read, skipSeparators_append separators, skipSeparators_cons]
  · rfl
  · exact nofun

theorem here_separators {stop : Span} {gap rest : List Token} (separators : Grammar.Separators gap)
    (ends : gap = [] → (here stop rest).isTerminator = true) :
    (here stop (gap ++ rest)).isTerminator = true := by
  cases gap with
  | nil => exact ends rfl
  | cons token gap =>
      rcases separators token (List.mem_cons_self ..) with newline | semicolon
      · simp only [List.cons_append, here, Token.mark, newline]
        rfl
      · simp only [List.cons_append, here, Token.mark, semicolon]
        rfl

theorem reads_statements {stop : Span} {tokens : List Token} {body : List Statement}
    (derived : Grammar.Statements tokens body) (gap : List Token) (separators : Grammar.Separators gap)
    (closing : Span) (rest : List Token) :
    (statements stop (gap ++ (tokens ++ ⟨.closeBrace, closing⟩ :: rest))).read = ⟨body, [], rest⟩ := by
  induction derived generalizing gap with
  | last derived between =>
      have ends := here_separators between fun _ =>
        (rfl : (here stop (⟨.closeBrace, closing⟩ :: rest)).isTerminator = true)
      obtain ⟨value, clean, left⟩ := Reading.read_eq_iff.mp (reads_nothing between)
      rw [List.append_assoc, reads_first separators derived ends]
      dsimp only
      rw [value, clean, left]
  | @more tokens _ between later _ derived separatorsLater some _ ih =>
      have ends : (here stop (between ++ (later ++ ⟨.closeBrace, closing⟩ :: rest))).isTerminator = true :=
        here_separators separatorsLater fun none => absurd none some
      obtain ⟨value, clean, left⟩ := Reading.read_eq_iff.mp (ih between separatorsLater)
      rw [List.append_assoc, List.append_assoc, reads_first separators derived ends]
      dsimp only
      rw [value, clean, left]

theorem reads_block {stop : Span} {tokens : List Token} {body : List Statement}
    (derived : Grammar.Block tokens body) (rest : List Token) :
    (block stop (tokens ++ rest)).read = ⟨body, [], rest⟩ := by
  cases derived with
  | empty separators =>
      rw [List.cons_append, List.append_assoc, List.singleton_append]
      exact reads_nothing separators
  | full separators statements =>
      rw [List.cons_append, List.append_assoc, List.append_assoc, List.singleton_append]
      exact reads_statements statements _ separators _ rest

theorem header_plain {stop span opening closing : Span} {name : String} {rest : List Token}
    (notArrow : ∀ span more, rest ≠ ⟨.arrow, span⟩ :: more) :
    (header stop (⟨.name name, span⟩ :: ⟨.openParen, opening⟩ :: ⟨.closeParen, closing⟩ :: rest)).read =
      ⟨some ⟨name, span, none⟩, [], rest⟩ := by
  dsimp only [header]
  split
  case h_1 => exact absurd rfl (notArrow _ _)
  case h_2 => rfl

/-- Behind the keyword of a function stands a header, and behind ends of lines the block. -/
theorem exists_header {tokens : List Token} {value : Function} (derived : Grammar.Function tokens value) :
    ∃ start head gap inner, tokens = ⟨.function, start⟩ :: (head ++ (gap ++ inner)) ∧ Grammar.Newlines gap ∧
      Grammar.Block inner value.body ∧ ∀ stop opening rest,
        (header stop (head ++ (gap ++ ⟨.openBrace, opening⟩ :: rest))).read =
          ⟨some ⟨value.name, value.nameSpan, value.returnType⟩, [], gap ++ ⟨.openBrace, opening⟩ :: rest⟩ := by
  cases derived with
  | @plain start name span opening closing gap inner body newlines block =>
      refine ⟨start, [⟨.name name, span⟩, ⟨.openParen, opening⟩, ⟨.closeParen, closing⟩], gap, inner, rfl, newlines,
        block, fun stop brace rest => header_plain fun arrow more same => ?_⟩
      -- Behind the parentheses stands a brace or the end of a line, but no arrow.
      cases gap with
      | nil => exact absurd same nofun
      | cons token gap =>
          have newline := newlines token (List.mem_cons_self ..)
          rw [(List.cons_eq_cons.mp same).1] at newline
          exact absurd newline nofun
  | @typed start name span opening closing arrow type typeSpan gap inner body newlines block =>
      exact ⟨start, [⟨.name name, span⟩, ⟨.openParen, opening⟩, ⟨.closeParen, closing⟩, ⟨.arrow, arrow⟩,
        ⟨.name type, typeSpan⟩], gap, inner, rfl, newlines, block, fun _ _ _ => rfl⟩

/-- With its header read, a function is as the block behind it. -/
theorem reads_headed {stop opening : Span} {input gap rest : List Token} {head : Header}
    (headed : (header stop input).read = ⟨some head, [], gap ++ ⟨.openBrace, opening⟩ :: rest⟩)
    (newlines : Grammar.Newlines gap) :
    (function stop input).read =
      let body := statements stop rest
      ⟨some ⟨head.name, head.nameSpan, head.returnType, body.value⟩, body.faults, body.rest⟩ := by
  obtain ⟨some, clean, left⟩ := Reading.read_eq_iff.mp headed
  rw [function_of_some some, left, skipNewlines_append newlines,
    skipNewlines_cons (by decide : Symbol.openBrace ≠ .newline)]
  dsimp only
  rw [clean, List.nil_append]
  rfl

theorem reads_function {stop start : Span} {tokens : List Token} {value : Function}
    (derived : Grammar.Function (⟨.function, start⟩ :: tokens) value) (rest : List Token) :
    (function stop (tokens ++ rest)).read = ⟨some value, [], rest⟩ := by
  obtain ⟨_, head, gap, inner, same, newlines, block, headed⟩ := exists_header derived
  obtain ⟨-, rfl⟩ := List.cons_eq_cons.mp same
  obtain ⟨opening, more, rfl⟩ := block.first
  have read : (statements stop (more ++ rest)).read = ⟨value.body, [], rest⟩ := reads_block block rest
  obtain ⟨body, clean, left⟩ := Reading.read_eq_iff.mp read
  rw [List.append_assoc, List.append_assoc, List.cons_append, reads_headed (headed ..) newlines]
  dsimp only
  rw [body, clean, left]

/-- Functions that derive are read, and what stands behind them is read as it is on its own. -/
theorem reads_functions {tokens : List Token} {listed : List Function}
    (derived : Grammar.Functions tokens listed) (stop : Span) (gap : List Token)
    (newlines : Grammar.Newlines gap) (rest : List Token) :
    functions stop (gap ++ (tokens ++ rest)) =
      let behind := functions stop rest
      ⟨⟨listed ++ behind.file.functions⟩, behind.faults⟩ := by
  induction derived generalizing gap with
  | none =>
      rw [functions_eq stop (gap ++ _), skipNewlines_append newlines]
      exact (functions_eq stop rest).symm
  | @more tokens value between later listed derived newlinesLater _ ih =>
      rw [functions_eq, skipNewlines_append newlines]
      obtain ⟨start, inner, rfl⟩ := derived.first
      obtain ⟨value, clean, left⟩ := Reading.read_eq_iff.mp (reads_function derived (between ++ (later ++ rest)))
      rw [List.append_assoc, List.append_assoc, List.cons_append,
        skipNewlines_cons (by decide : Symbol.function ≠ .newline)]
      dsimp only
      rw [if_pos rfl, left, ih between newlinesLater, value, clean]
      rfl

theorem functions_nil (stop : Span) : functions stop [] = ⟨⟨[]⟩, []⟩ := functions_eq stop []

theorem functions_iff (stop : Span) (tokens : List Token) (file : File) :
    Grammar.File tokens file ↔
      (functions stop tokens).faults = [] ∧ (functions stop tokens).file = file := by
  constructor
  · rintro ⟨newlines, derived⟩
    have whole := reads_functions derived stop _ newlines []
    rw [List.append_nil, functions_nil] at whole
    rw [whole]
    exact ⟨rfl, congrArg File.mk (List.append_nil _)⟩
  · rintro ⟨clean, rfl⟩
    exact functions_derives stop tokens clean

/-- What is read without a fault is what the grammar derives from the symbols, with the tree of the
derivation. -/
theorem parse_iff_grammar (tokens : List Token) (stop : Span) :
    let parsed := parse (.ofMarks (tokens.map Token.mark ++ [⟨none, stop⟩]))
    (parsed.faults = [] ↔ Grammar.Accepts (tokens.map Token.symbol)) ∧
      ∀ file, Grammar.File tokens file ↔ parsed.faults = [] ∧ parsed.file = file := by
  intro parsed
  have whole : parsed = functions stop tokens := congrArg parse (Stream.ofMarks_marks ⟨tokens, stop⟩)
  rw [whole, Grammar.accepts_iff]
  refine ⟨⟨fun clean => ⟨_, (functions_iff stop tokens _).mpr ⟨clean, rfl⟩⟩, ?_⟩, functions_iff stop tokens⟩
  rintro ⟨file, derived⟩
  exact ((functions_iff stop tokens file).mp derived).1

end StageZero.Tree
