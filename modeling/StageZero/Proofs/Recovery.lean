import StageZero.Proofs.Reading

/-! Statements that do not derive. What stands where a statement should, between the separators or braces around
it, is read as one statement with few faults, and reading is back in step with the text at what ends it. -/
namespace StageZero.Tree

/-! ### Where a statement stands -/

namespace Grammar

/-- Statements in front of another one, with separators behind each. -/
inductive Leading : List Token → List Tree.Statement → Prop
  | none : Leading [] []
  | more {tokens statement gap rest statements} : Statement tokens statement → Separators gap → gap ≠ [] →
      Leading rest statements → Leading (tokens ++ gap ++ rest) (statement :: statements)

/-- What may stand between a statement and the end of its block. -/
inductive Trailing : List Token → List Tree.Statement → Prop
  | none {gap} : Separators gap → Trailing gap []
  | more {gap rest statements} : Separators gap → gap ≠ [] → Statements rest statements →
      Trailing (gap ++ rest) statements

theorem Statements.split {tokens : List Token} {body before after : List Tree.Statement} {statement : Tree.Statement}
    (derived : Statements tokens body) (parts : body = before ++ statement :: after) :
    ∃ front own back, tokens = front ++ (own ++ back) ∧ Leading front before ∧ Statement own statement ∧
      Trailing back after := by
  induction derived generalizing before with
  | @last tokens first gap derived separators =>
      cases before with
      | nil =>
          cases parts
          exact ⟨[], tokens, gap, rfl, .none, derived, .none separators⟩
      | cons other before =>
          exact absurd (List.cons_eq_cons.mp parts).2.symm (List.append_ne_nil_of_right_ne_nil _ nofun)
  | @more tokens first gap rest statements derived separators some later ih =>
      cases before with
      | nil =>
          cases parts
          exact ⟨[], tokens, gap ++ rest, List.append_assoc .., .none, derived, .more separators some later⟩
      | cons other before =>
          obtain ⟨rfl, behind⟩ := List.cons_eq_cons.mp parts
          obtain ⟨front, own, back, rfl, leading, statement, trailing⟩ := ih behind
          exact ⟨_, own, back, (List.append_assoc ..).symm, .more derived separators some leading, statement, trailing⟩

theorem Block.split {tokens : List Token} {before after : List Tree.Statement} {statement : Tree.Statement}
    (derived : Block tokens (before ++ statement :: after)) :
    ∃ opening gap front own back closing,
      tokens = ⟨.openBrace, opening⟩ :: (gap ++ (front ++ (own ++ (back ++ [⟨.closeBrace, closing⟩])))) ∧
        Separators gap ∧ Leading front before ∧ Statement own statement ∧ Trailing back after := by
  generalize parts : before ++ statement :: after = body at derived
  cases derived with
  | empty => exact absurd parts (List.append_ne_nil_of_right_ne_nil _ nofun)
  | @full opening gap tokens _ closing separators statements =>
      obtain ⟨front, own, back, rfl, split⟩ := statements.split parts.symm
      refine ⟨opening, gap, front, own, back, closing, ?_, separators, split⟩
      simp only [List.append_assoc]

theorem Functions.split {tokens : List Token} {functions earlier later : List Tree.Function} {function : Tree.Function}
    (derived : Functions tokens functions) (parts : functions = earlier ++ function :: later) :
    ∃ front own gap back, tokens = front ++ (own ++ (gap ++ back)) ∧ Functions front earlier ∧ Function own function ∧
      Newlines gap ∧ Functions back later := by
  induction derived generalizing earlier with
  | none => exact absurd parts.symm (List.append_ne_nil_of_right_ne_nil _ nofun)
  | @more tokens first gap rest functions derived newlines others ih =>
      cases earlier with
      | nil =>
          cases parts
          exact ⟨[], tokens, gap, rest, List.append_assoc .., .none, derived, newlines, others⟩
      | cons other earlier =>
          obtain ⟨rfl, behind⟩ := List.cons_eq_cons.mp parts
          obtain ⟨front, own, between, back, rfl, listed, split⟩ := ih behind
          exact ⟨_, own, between, back, (List.append_assoc ..).symm, .more derived newlines listed, split⟩

end Grammar

/-! ### What is read in place of a statement -/

/-- Tokens among which no statement ends and no name is called. -/
structure Unended (junk : List Token) : Prop where
  inside : ∀ token ∈ junk, token.symbol.isTerminator = false
  uncalled : ∀ name span opening, ¬ [⟨.name name, span⟩, ⟨.openParen, opening⟩] <:+: junk

/-- What is read off some tokens and what ends them: at most one fault is met, and none of the tokens behind `next`
is looked at. -/
structure Read.Stays {α : Type} (read : Read α) (junk : List Token) (next : Token) (back : List Token) : Prop where
  rest : ∃ left, left <:+ junk ∧ read.rest = left ++ next :: back
  few : read.faults.length ≤ 1
  places : ∀ fault ∈ read.faults, fault.span ∈ (junk ++ [next]).map Token.span

section
variable {junk left back rest : List Token} {next : Token}

theorem Unended.suffix (unended : Unended junk) (suffix : left <:+ junk) : Unended left where
  inside token member := unended.inside token (suffix.mem member)
  uncalled name span opening infix_ := unended.uncalled name span opening (infix_.trans suffix.isInfix)

theorem Read.Stays.of_suffix {α : Type} {read : Read α} (stays : read.Stays left next back) (suffix : left <:+ junk) :
    read.Stays junk next back where
  rest := by
    obtain ⟨less, behind, same⟩ := stays.rest
    exact ⟨less, behind.trans suffix, same⟩
  few := stays.few
  places fault member := by
    have there := stays.places fault member
    obtain ⟨front, rfl⟩ := suffix
    rw [List.append_assoc, List.map_append]
    exact List.mem_append_right _ there

theorem Read.Stays.clean {α : Type} (junk : List Token) (value : α) :
    Read.Stays ⟨value, [], junk ++ next :: back⟩ junk next back :=
  ⟨⟨junk, List.suffix_rfl, rfl⟩, Nat.zero_le _, List.forall_mem_nil _⟩

theorem Read.Stays.change {α β : Type} {read : Read α} (stays : read.Stays junk next back) (value : β) :
    Read.Stays ⟨value, read.faults, read.rest⟩ junk next back := ⟨stays.rest, stays.few, stays.places⟩

/-- The one fault is about what is ahead. -/
theorem Read.Stays.complaint {α : Type} (junk : List Token) (value : α) (expected : Expected) (stop : Span)
    (less : rest <:+ junk) :
    Read.Stays ⟨value, [Tree.complaint expected stop (junk ++ next :: back)], rest ++ next :: back⟩ junk next back := by
  refine ⟨⟨rest, less, rfl⟩, Nat.le_refl _, List.forall_mem_singleton.mpr ?_⟩
  cases junk with
  | nil => exact List.mem_singleton_self _
  | cons token junk => exact List.mem_cons_self ..

theorem Unended.clear {name : String} {span : Span} (unended : Unended (⟨.name name, span⟩ :: junk))
    (ends : next.symbol.isTerminator = true) : Clear (junk ++ next :: back) := by
  intro opening rest same
  cases junk with
  | nil =>
      obtain ⟨rfl, -⟩ := List.cons_eq_cons.mp same
      exact absurd ends nofun
  | cons token junk =>
      obtain ⟨rfl, -⟩ := List.cons_eq_cons.mp same
      exact unended.uncalled name span opening ⟨[], junk, rfl⟩

theorem begins_of_isTerminator {symbol : Symbol} (ends : symbol.isTerminator = true) : begins symbol = false := by
  cases symbol with
  | newline | semicolon | closeBrace => rfl
  | _ => exact absurd ends nofun

theorem expression_stays (stop : Span) (back : List Token) (unended : Unended junk)
    (ends : next.symbol.isTerminator = true) :
    (expression stop (junk ++ next :: back)).read.Stays junk next back := by
  cases junk with
  | nil =>
      rw [List.nil_append, expression_read_of_other (begins_of_isTerminator ends), if_pos (.inl ends)]
      exact .complaint [] _ _ _ List.suffix_rfl
  | cons token junk =>
      have inside := unended.inside token (List.mem_cons_self ..)
      have behind : junk <:+ token :: junk := List.suffix_cons ..
      obtain ⟨symbol, span⟩ := token
      cases start : begins symbol with
      | false =>
          rw [List.cons_append, expression_read_of_other start]
          split
          case isTrue => exact .complaint (_ :: junk) _ _ _ List.suffix_rfl
          case isFalse => exact .complaint (_ :: junk) _ _ _ behind
      | true =>
          cases symbol with
          | number | quotation | garbage =>
              rw [List.cons_append, expression]
              exact (Read.Stays.clean _ _).of_suffix behind
          | name =>
              rw [List.cons_append, expression]
              · exact (Read.Stays.clean _ _).of_suffix behind
              · exact unended.clear ends
          | _ => cases start

/-- What has been passed in front of an end of a statement is part of what stands in front of that end. -/
theorem Unended.passed (front : List Token) (same : junk ++ next :: back = front ++ rest)
    (ends : next.symbol.isTerminator = true) (inside : ∀ token ∈ front, token.symbol.isTerminator = false) :
    ∃ left, left <:+ junk ∧ rest = left ++ next :: back := by
  rcases List.append_eq_append_iff.mp same with ⟨more, rfl, tail⟩ | ⟨left, rfl, behind⟩
  · cases more with
    | nil => exact ⟨[], List.nil_suffix, tail.symm⟩
    | cons token more =>
        obtain ⟨rfl, -⟩ := List.cons_eq_cons.mp tail
        have passed := inside next (List.mem_append_right _ (List.mem_cons_self ..))
        exact absurd (passed.symm.trans ends) nofun
  · exact ⟨left, List.suffix_append .., behind⟩

theorem statement_stays (stop : Span) (back : List Token) (unended : Unended junk)
    (ends : next.symbol.isTerminator = true) :
    (statement stop (junk ++ next :: back)).read.Stays junk next back := by
  generalize same : junk ++ next :: back = input
  unfold statement
  split
  case h_1 start name span equals rest =>
    obtain ⟨left, suffix, rfl⟩ := Unended.passed [_, _, _] same ends (by simp [Symbol.isTerminator])
    exact ((expression_stays stop back (unended.suffix suffix) ends).of_suffix suffix).change _
  case h_2 =>
    obtain ⟨left, suffix, rfl⟩ := Unended.passed [_, _] same ends (by simp [Symbol.isTerminator])
    exact (Read.Stays.complaint _ _ _ _ List.suffix_rfl).of_suffix suffix
  case h_3 =>
    obtain ⟨left, suffix, rfl⟩ := Unended.passed [_] same ends (by simp [Symbol.isTerminator])
    exact (Read.Stays.complaint _ _ _ _ List.suffix_rfl).of_suffix suffix
  case h_4 =>
    obtain ⟨left, suffix, rfl⟩ := Unended.passed [_] same ends (by simp [Symbol.isTerminator])
    split
    case isTrue => exact (Read.Stays.clean _ _).of_suffix suffix
    case isFalse => exact ((expression_stays stop back (unended.suffix suffix) ends).of_suffix suffix).change _
  case h_5 =>
    subst same
    exact (expression_stays stop back unended ends).change _

theorem settle_read (stop : Span) (input : List Token) :
    (settle stop input).read =
      if (here stop input).isTerminator then ⟨(), [], input⟩
      else ⟨(), [complaint .endOfStatement stop input], input.dropWhile fun token => !token.symbol.isTerminator⟩ := by
  unfold settle
  split <;> rfl

/-- Whatever is left of a statement, it is settled at what ends it. -/
theorem settle_stays (stop : Span) (back : List Token) (unended : Unended junk)
    (ends : next.symbol.isTerminator = true) :
    (settle stop (junk ++ next :: back)).rest = next :: back ∧
      (settle stop (junk ++ next :: back)).read.Stays junk next back := by
  have read := settle_read stop (junk ++ next :: back)
  cases junk with
  | nil =>
      rw [List.nil_append, if_pos (show (here stop (next :: back)).isTerminator = true from ends)] at read
      exact ⟨congrArg Read.rest read, read ▸ .clean [] ()⟩
  | cons token junk =>
      have inside := unended.inside
      have behind : (token :: junk ++ next :: back).dropWhile (fun token => !token.symbol.isTerminator) =
          next :: back := by
        rw [List.dropWhile_append_of_pos fun token member => by simp [inside token member]]
        exact List.dropWhile_cons_of_neg (by simp [ends])
      have goesOn : ¬ (here stop (token :: junk ++ next :: back)).isTerminator = true :=
        Bool.eq_false_iff.mp (inside token (List.mem_cons_self ..))
      rw [if_neg goesOn, behind] at read
      have stays : Read.Stays ⟨(), [Tree.complaint .endOfStatement stop _], next :: back⟩ (token :: junk) next back :=
        .complaint _ () .endOfStatement stop List.nil_suffix
      exact ⟨congrArg Read.rest read, read ▸ stays⟩

/-- A statement and what settles it, in front of what ends it. -/
theorem reads_broken {gap : List Token} (stop : Span) (back : List Token) (separators : Grammar.Separators gap) 
    (some : junk ≠ []) (unended : Unended junk) (ends : next.symbol.isTerminator = true) :
    ∃ other faults,
      (statements stop (gap ++ (junk ++ next :: back))).read =
          (let later := statements stop (next :: back)
          ⟨other :: later.value, faults ++ later.faults, later.rest⟩) ∧
        faults.length ≤ 2 ∧ ∀ fault ∈ faults, fault.span ∈ (junk ++ [next]).map Token.span := by
  have first := statement_stays stop back unended ends
  obtain ⟨left, suffix, behind⟩ := first.rest
  obtain ⟨settled, last⟩ := settle_stays stop back (unended.suffix suffix) ends
  refine ⟨(statement stop (junk ++ next :: back)).value,
    (statement stop (junk ++ next :: back)).faults ++ (settle stop (left ++ next :: back)).faults, ?_, ?_, ?_⟩
  · obtain ⟨token, more, rfl⟩ := List.exists_cons_of_ne_nil some
    have inside := unended.inside token (List.mem_cons_self ..)
    have stays : ¬ (token.symbol = .newline ∨ token.symbol = .semicolon) := by
      rintro (newline | semicolon)
      · exact ne_of_inside inside rfl newline
      · exact ne_of_inside inside rfl semicolon
    have notClose : token.symbol ≠ .closeBrace := ne_of_inside inside rfl
    have left_eq : (statement stop (token :: (more ++ next :: back))).rest = left ++ next :: back := behind
    rw [statements_read, skipSeparators_append separators, List.cons_append, skipSeparators_cons stays]
    dsimp only
    rw [if_neg notClose, left_eq, settled]
  · rw [List.length_append]
    exact Nat.add_le_add first.few last.few
  · exact List.forall_mem_append.mpr ⟨first.places, (last.of_suffix suffix).places⟩

end

/-! ### What is read around it -/

section
variable {gap front back : List Token} {before after : List Statement} (stop : Span)

theorem reads_leading (leading : Grammar.Leading front before) (separators : Grammar.Separators gap) :
    ∃ between, Grammar.Separators between ∧ ∀ rest, (statements stop (gap ++ (front ++ rest))).read =
      let later := statements stop (between ++ rest)
      ⟨before ++ later.value, later.faults, later.rest⟩ := by
  induction leading generalizing gap with
  | none => exact ⟨gap, separators, fun rest => rfl⟩
  | @more tokens first between later _ derived separatorsLater some _ ih =>
      obtain ⟨last, separatorsLast, reads⟩ := ih separatorsLater
      refine ⟨last, separatorsLast, fun rest => ?_⟩
      have ends : (here stop (between ++ (later ++ rest))).isTerminator = true :=
        here_separators separatorsLater fun none => absurd none some
      obtain ⟨value, clean, left⟩ := Reading.read_eq_iff.mp (reads rest)
      rw [List.append_assoc, List.append_assoc, reads_first separators derived ends]
      dsimp only
      rw [value, clean, left]
      rfl

theorem reads_trailing (trailing : Grammar.Trailing back after) (closing : Span) (rest : List Token) :
    (statements stop (back ++ ⟨.closeBrace, closing⟩ :: rest)).read = ⟨after, [], rest⟩ := by
  cases trailing with
  | none separators => exact reads_nothing separators
  | more separators _ derived =>
      rw [List.append_assoc]
      exact reads_statements derived _ separators closing rest

/-- Behind a statement stands what ends it. -/
theorem trailing_first (trailing : Grammar.Trailing back after) (closing : Span) :
    ∃ next more, back ++ [⟨.closeBrace, closing⟩] = next :: more ∧ next.symbol.isTerminator = true := by
  have ended : ∀ gap rest, Grammar.Separators gap → (gap = [] → rest = [⟨.closeBrace, closing⟩]) →
      ∃ next more, gap ++ rest = next :: more ∧ next.symbol.isTerminator = true := by
    intro gap rest separators last
    cases gap with
    | nil => exact ⟨_, [], last rfl, rfl⟩
    | cons token gap =>
        refine ⟨token, gap ++ rest, rfl, ?_⟩
        rcases separators token (List.mem_cons_self ..) with newline | semicolon
        · rw [newline]; rfl
        · rw [semicolon]; rfl
  cases trailing with
  | none separators => exact ended _ _ separators fun _ => rfl
  | more separators some =>
      rw [List.append_assoc]
      exact ended _ _ separators fun none => absurd none some

/-- A body in which something else stands for a statement. -/
theorem reads_body {junk more : List Token} (rest : List Token) {next : Token} {closing : Span}
    (leading : Grammar.Leading front before) (separators : Grammar.Separators gap)
    (trailing : Grammar.Trailing back after) (behind : back ++ [⟨.closeBrace, closing⟩] = next :: more)
    (ends : next.symbol.isTerminator = true) (some : junk ≠ []) (unended : Unended junk) :
    ∃ other faults,
      (statements stop (gap ++ (front ++ (junk ++ next :: (more ++ rest))))).read =
          ⟨before ++ other :: after, faults, rest⟩ ∧
        faults.length ≤ 2 ∧ ∀ fault ∈ faults, fault.span ∈ (junk ++ [next]).map Token.span := by
  obtain ⟨between, separatorsLast, reads⟩ := reads_leading stop leading separators
  obtain ⟨other, faults, broken, few, places⟩ :=
    reads_broken stop (more ++ rest) separatorsLast some unended ends
  have last : (statements stop (next :: (more ++ rest))).read = ⟨after, [], rest⟩ := by
    have read := reads_trailing stop trailing closing rest
    rwa [← List.singleton_append, ← List.append_assoc, behind, List.cons_append] at read
  obtain ⟨value, clean, left⟩ := Reading.read_eq_iff.mp last
  obtain ⟨values, met, behindAll⟩ := Reading.read_eq_iff.mp broken
  refine ⟨other, faults, ?_, few, places⟩
  rw [reads]
  dsimp only
  rw [values, met, behindAll, value, clean, left, List.append_nil]

/-- A function among others is as the body that is read in it. -/
theorem reads_among {lead tokens head inner last : List Token} {earlier later : List Function} {function : Function}
    {body : List Statement} {faults : List (Fault SyntaxCause)} {opening : Span} (leading : Grammar.Newlines lead)
    (listed : Grammar.Functions tokens earlier)
    (headed : (header stop (head ++ ⟨.openBrace, opening⟩ :: inner)).read =
      ⟨some ⟨function.name, function.nameSpan, function.returnType⟩, [], front ++ ⟨.openBrace, opening⟩ :: inner⟩)
    (newlines : Grammar.Newlines front) (read : (statements stop inner).read = ⟨body, faults, gap ++ last⟩)
    (between : Grammar.Newlines gap) (others : Grammar.Functions last later) (start : Span) :
    functions stop (lead ++ (tokens ++ ⟨.function, start⟩ :: (head ++ ⟨.openBrace, opening⟩ :: inner))) =
      ⟨⟨earlier ++ { function with body := body } :: later⟩, faults⟩ := by
  obtain ⟨value, met, left⟩ := Reading.read_eq_iff.mp read
  obtain ⟨defined, metAll, behind⟩ := Reading.read_eq_iff.mp (reads_headed headed newlines)
  have rest := reads_functions others stop gap between []
  rw [functions_nil, List.append_nil] at rest
  rw [reads_functions listed stop lead leading, functions_eq stop (_ :: _),
    skipNewlines_cons (by decide : Symbol.function ≠ .newline)]
  dsimp only
  rw [if_pos rfl, defined, metAll, behind, left, rest, value, met]
  simp

end

theorem Unended.of_notMem {junk : List Token}
    (inside : ∀ token ∈ junk, token.symbol ∉ [.newline, .semicolon, .closeBrace])
    (uncalled : ∀ name span opening, ¬ [⟨.name name, span⟩, ⟨.openParen, opening⟩] <:+: junk) : Unended junk where
  inside token member := by
    have other := inside token member
    generalize token.symbol = symbol at other
    cases symbol with
    | newline | semicolon | closeBrace => exact absurd (by decide) other
    | _ => rfl
  uncalled := uncalled

/-- In a file without faults a statement can give way to anything that does not end it and calls nothing. What comes
of it is one statement again and two faults at most, about what was put there or what stands behind it. -/
theorem parse_of_broken {tokens : List Token} {stop : Span} {earlier later : List Function} {function : Function}
    {before after : List Statement} {statement : Statement}
    (whole : parse ⟨tokens, stop⟩ =
      ⟨⟨earlier ++ { function with body := before ++ statement :: after } :: later⟩, []⟩) :
    ∃ front own next back, tokens = front ++ (own ++ next :: back) ∧ Grammar.Statement own statement ∧
      next.symbol.isTerminator = true ∧ ∀ junk : List Token, junk ≠ [] →
        (∀ token ∈ junk, token.symbol ∉ [.newline, .semicolon, .closeBrace]) →
        (∀ name span opening, ¬ [⟨.name name, span⟩, ⟨.openParen, opening⟩] <:+: junk) →
          ∃ other faults, parse ⟨front ++ (junk ++ next :: back), stop⟩ =
              ⟨⟨earlier ++ { function with body := before ++ other :: after } :: later⟩, faults⟩ ∧
            faults.length ≤ 2 ∧ ∀ fault ∈ faults, fault.span ∈ (junk ++ [next]).map Token.span := by
  have derived : Grammar.File tokens _ :=
    (functions_iff stop tokens _).mpr ⟨congrArg Parse.faults whole, congrArg Parse.file whole⟩
  obtain ⟨lead, inner, rfl, leading, functions⟩ := derived.functions
  obtain ⟨listedTokens, own, gap, last, rfl, listed, definition, between, others⟩ := functions.split rfl
  obtain ⟨start, head, newlines, block, rfl, ended, body, headed⟩ := exists_header definition
  obtain ⟨opening, separation, front, own, back, closing, rfl, separators, earlierHere, written, trailing⟩ := body.split
  obtain ⟨next, more, behind, ends⟩ := trailing_first trailing closing
  refine ⟨lead ++ (listedTokens ++ ⟨.function, start⟩ :: (head ++ (newlines ++ ⟨.openBrace, opening⟩ ::
    (separation ++ front)))), own, next, more ++ (gap ++ last), ?_, written, ends, ?_⟩
  · simp only [behind, List.append_assoc, List.cons_append]
  · intro junk some inside uncalled
    obtain ⟨other, faults, read, few, places⟩ := reads_body stop (gap ++ last) earlierHere separators
      trailing behind ends some (.of_notMem inside uncalled)
    refine ⟨other, faults, ?_, few, places⟩
    have headed := headed stop opening (separation ++ (front ++ (junk ++ next :: (more ++ (gap ++ last)))))
    rw [← List.append_assoc] at headed
    have whole := reads_among stop leading listed headed ended read between others start
    simpa only [parse, List.append_assoc, List.cons_append] using whole

theorem parse_of_broken_binding :
    let tokens : List Token := [⟨.function, ⟨⟨0⟩, 0, 8⟩⟩, ⟨.name "f", ⟨⟨0⟩, 9, 10⟩⟩, ⟨.openParen, ⟨⟨0⟩, 10, 11⟩⟩,
      ⟨.closeParen, ⟨⟨0⟩, 11, 12⟩⟩, ⟨.openBrace, ⟨⟨0⟩, 13, 14⟩⟩, ⟨.name "x", ⟨⟨0⟩, 15, 16⟩⟩,
      ⟨.semicolon, ⟨⟨0⟩, 16, 17⟩⟩, ⟨.return, ⟨⟨0⟩, 18, 24⟩⟩, ⟨.closeBrace, ⟨⟨0⟩, 25, 26⟩⟩]
    let junk : List Token := [⟨.let, ⟨⟨0⟩, 30, 33⟩⟩, ⟨.name "y", ⟨⟨0⟩, 34, 35⟩⟩, ⟨.equals, ⟨⟨0⟩, 36, 37⟩⟩,
      ⟨.closeParen, ⟨⟨0⟩, 38, 39⟩⟩]
    let stop : Span := ⟨⟨0⟩, 26, 26⟩
    let written (statement : Statement) : File :=
      ⟨[⟨"f", ⟨⟨0⟩, 9, 10⟩, none, [statement, .return none ⟨⟨0⟩, 18, 24⟩]⟩]⟩
    parse ⟨tokens, stop⟩ = ⟨written (.expression (.variable "x" ⟨⟨0⟩, 15, 16⟩)), []⟩ ∧
      ∃ front own next back, tokens = front ++ (own ++ next :: back) ∧
        ∃ other faults, parse ⟨front ++ (junk ++ next :: back), stop⟩ = ⟨written other, faults⟩ ∧
          faults.length ≤ 2 := by
  intro tokens junk stop written
  have derived : Grammar.File tokens (written (.expression (.variable "x" ⟨⟨0⟩, 15, 16⟩))) := by
    have semicolon : Grammar.Separators [⟨.semicolon, ⟨⟨0⟩, 16, 17⟩⟩] := List.forall_mem_singleton.mpr (.inr rfl)
    have body : Grammar.Statements [⟨.name "x", ⟨⟨0⟩, 15, 16⟩⟩, ⟨.semicolon, ⟨⟨0⟩, 16, 17⟩⟩, ⟨.return, ⟨⟨0⟩, 18, 24⟩⟩]
        [.expression (.variable "x" ⟨⟨0⟩, 15, 16⟩), .return none ⟨⟨0⟩, 18, 24⟩] :=
      .more (.expression .variable) semicolon nofun (@Grammar.Statements.last _ _ [] .returnNothing nofun)
    have whole : Grammar.Function tokens ⟨"f", ⟨⟨0⟩, 9, 10⟩, none, _⟩ :=
      @Grammar.Function.plain _ _ _ _ _ [] _ _ nofun (@Grammar.Block.full _ [] _ _ _ nofun body)
    exact @Grammar.File.file [] _ _ nofun (@Grammar.Functions.more _ _ [] _ _ whole nofun .none)
  obtain ⟨clean, same⟩ := (functions_iff stop tokens _).mp derived
  have whole : parse ⟨tokens, stop⟩ = ⟨written (.expression (.variable "x" ⟨⟨0⟩, 15, 16⟩)), []⟩ :=
    congr (congrArg Parse.mk same) clean
  obtain ⟨front, own, next, back, parts, -, -, broken⟩ :=
    @parse_of_broken tokens stop [] [] ⟨"f", ⟨⟨0⟩, 9, 10⟩, none, []⟩ [] _ _ whole
  have uncalled : ∀ name span opening, ¬ [⟨.name name, span⟩, ⟨.openParen, opening⟩] <:+: junk := by
    intro name span opening called
    have member : .openParen ∈ junk.map Token.symbol :=
      List.mem_map_of_mem (called.mem (List.mem_cons_of_mem _ (List.mem_singleton_self _)))
    exact absurd member (by decide)
  obtain ⟨other, faults, read, few, -⟩ := broken junk nofun (by decide) uncalled
  exact ⟨whole, front, own, next, back, parts, other, faults, read, few⟩

end StageZero.Tree
