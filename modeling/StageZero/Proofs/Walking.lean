import StageZero.Proofs.Reading
import StageZero.Tree.Reader

/-! The machine against the readers. From every place among the marks the machine ends, and what it gives,
blames and leaves there is what the readers of tokens do. So it reads a list of marks as the stream of them
is parsed. -/
namespace StageZero

namespace Stream

theorem ofMarks_end (stop : Span) (rest : List Mark) : ofMarks (⟨none, stop⟩ :: rest) = ⟨[], stop⟩ := by
  cases rest <;> rfl

theorem ofMarks_token (token : Token) {rest : List Mark} (some : rest ≠ []) :
    ofMarks (token.mark :: rest) = ⟨token :: (ofMarks rest).tokens, (ofMarks rest).stop⟩ := by
  cases rest with
  | nil => exact absurd rfl some
  | cons next rest => rfl

end Stream

namespace Tree

def Read.map {α β : Type} (change : α → β) (read : Read α) : Read β := ⟨change read.value, read.faults, read.rest⟩

namespace Reader

variable {reader : Reader}

theorem lastEnd_eq (reader : Reader) : ∃ stop, reader.lastEnd = ⟨none, stop⟩ := by
  unfold lastEnd
  split <;> exact ⟨_, rfl⟩

/-! ### What is ahead -/

namespace Cursor

/-- The tokens from a cursor to the next end of file, and where that stands. -/
def ahead (cursor : Cursor reader) : Stream := .ofMarks (reader.marks.drop cursor.index ++ [reader.lastEnd])

theorem ahead_of_inside {cursor : Cursor reader} (inside : cursor.index < reader.marks.length) :
    cursor.ahead = .ofMarks (cursor.mark :: (reader.marks.drop (cursor.index + 1) ++ [reader.lastEnd])) := by
  rw [ahead, mark, List.getElem?_eq_getElem inside, Option.getD_some, List.drop_eq_getElem_cons inside,
    List.cons_append]

theorem ahead_of_outside {cursor : Cursor reader} (outside : ¬ cursor.index < reader.marks.length) :
    cursor.ahead = .ofMarks [cursor.mark] := by
  rw [ahead, mark, List.getElem?_eq_none (Nat.le_of_not_lt outside), Option.getD_none,
    List.drop_eq_nil_of_le (Nat.le_of_not_lt outside), List.nil_append]

/-- At a cursor stands an end of file, or a token that the next cursor has behind it. -/
theorem ahead_cases (cursor : Cursor reader) :
    (∃ stop, cursor.mark = ⟨none, stop⟩ ∧ cursor.ahead = ⟨[], stop⟩) ∨
      ∃ token, cursor.mark = token.mark ∧
        cursor.ahead = ⟨token :: cursor.next.ahead.tokens, cursor.next.ahead.stop⟩ ∧
        cursor.next.index = cursor.index + 1 ∧ cursor.next.faults = cursor.faults := by
  by_cases inside : cursor.index < reader.marks.length
  · have below := ahead_of_inside inside
    have next : cursor.next = ⟨cursor.index + 1, cursor.faults, inside⟩ := dif_pos inside
    rw [next]
    generalize cursor.mark = mark at below ⊢
    obtain ⟨symbol | symbol, span⟩ := mark
    · left
      exact ⟨span, rfl, below.trans (Stream.ofMarks_end ..)⟩
    · right
      have some : reader.marks.drop (cursor.index + 1) ++ [reader.lastEnd] ≠ [] := by simp
      exact ⟨⟨symbol, span⟩, rfl, below.trans (Stream.ofMarks_token ⟨symbol, span⟩ some), rfl, rfl⟩
  · left
    obtain ⟨stop, last⟩ := lastEnd_eq reader
    have behind : cursor.mark = ⟨none, stop⟩ := by
      rw [mark, List.getElem?_eq_none (Nat.le_of_not_lt inside), Option.getD_none, last]
    have nothing := ahead_of_outside inside
    rw [behind] at nothing
    exact ⟨stop, behind, nothing⟩

variable {cursor : Cursor reader} {stop : Span} {input rest : List Token} {token : Token}

theorem mark_eq (ahead : cursor.ahead = ⟨input, stop⟩) : cursor.mark = here stop input := by
  rcases cursor.ahead_cases with ⟨_, mark, same⟩ | ⟨token, mark, same, -⟩
  · cases ahead.symm.trans same
    exact mark
  · cases ahead.symm.trans same
    exact mark

theorem next_of_token (ahead : cursor.ahead = ⟨token :: rest, stop⟩) :
    cursor.next.ahead = ⟨rest, stop⟩ ∧ cursor.next.index = cursor.index + 1 ∧ cursor.next.faults = cursor.faults := by
  rcases cursor.ahead_cases with ⟨_, -, same⟩ | ⟨token, -, same, moved, clean⟩
  · cases ahead.symm.trans same
  · cases ahead.symm.trans same
    exact ⟨rfl, moved, clean⟩

theorem blame_eq (ahead : cursor.ahead = ⟨input, stop⟩) (expected : Expected) :
    cursor.blame expected = { cursor with faults := cursor.faults ++ [complaint expected stop input] } := by
  rw [blame, mark_eq ahead]
  rfl

end Cursor

/-! ### Rules -/

variable {α β : Type} {stop : Span} {input mid rest : List Token} {faults later : List (Fault SyntaxCause)}
  {value : α} {result : β} {read : Read β} {walk : Walk reader α}

/-- With some tokens ahead, a walk ends: it gives what is read off them, with the faults and the rest of it. -/
def Reads (walk : Walk reader α) (stop : Span) (input : List Token) (read : Read α) : Prop :=
  ∀ cursor : Cursor reader, cursor.ahead = ⟨input, stop⟩ →
    ∃ next : Cursor reader, walk cursor = some (read.value, next) ∧ next.ahead = ⟨read.rest, stop⟩ ∧
      next.faults = cursor.faults ++ read.faults ∧ next.index + read.rest.length = cursor.index + input.length

namespace Reads

theorem pure (value : α) : Reads (Pure.pure value : Walk reader α) stop input ⟨value, [], input⟩ := by
  intro cursor ahead
  exact ⟨cursor, rfl, ahead, (List.append_nil _).symm, rfl⟩

theorem bind {next : α → Walk reader β} (first : Reads walk stop input ⟨value, faults, mid⟩)
    (second : Reads (next value) stop mid ⟨result, later, rest⟩) :
    Reads (walk >>= next) stop input ⟨result, faults ++ later, rest⟩ := by
  intro cursor ahead
  obtain ⟨between, ran, aheadBetween, faultsBetween, moved⟩ := first cursor ahead
  obtain ⟨last, ranLater, aheadLast, faultsLast, movedLater⟩ := second between aheadBetween
  refine ⟨last, ?_, aheadLast, ?_, movedLater.trans moved⟩
  · change (walk cursor).bind _ = _
    rw [ran]
    exact ranLater
  · rw [faultsLast, faultsBetween, List.append_assoc]

/-- A walk on which there is nothing to complain about. -/
theorem quiet {next : α → Walk reader β} (first : Reads walk stop input ⟨value, [], mid⟩)
    (second : Reads (next value) stop mid read) : Reads (walk >>= next) stop input read :=
  bind first second

/-- A walk behind which there is nothing to complain about. -/
theorem clean {next : α → Walk reader β} (first : Reads walk stop input ⟨value, faults, mid⟩)
    (second : Reads (next value) stop mid ⟨result, [], rest⟩) :
    Reads (walk >>= next) stop input ⟨result, faults, rest⟩ := by
  have both := bind first second
  rw [List.append_nil] at both
  exact both

theorem peek {next : Mark → Walk reader β} (reads : Reads (next (here stop input)) stop input read) :
    Reads (Reader.peek >>= next) stop input read := by
  intro cursor ahead
  obtain ⟨last, ran, facts⟩ := reads cursor ahead
  refine ⟨last, ?_, facts⟩
  rw [← Cursor.mark_eq ahead] at ran
  exact ran

theorem advance {token : Token} {next : Unit → Walk reader β} (reads : Reads (next ()) stop rest read) :
    Reads (Reader.advance >>= next) stop (token :: rest) read := by
  intro cursor ahead
  obtain ⟨behind, moved, clean⟩ := Cursor.next_of_token ahead
  obtain ⟨last, ran, aheadLast, faultsLast, movedLater⟩ := reads cursor.next behind
  refine ⟨last, ran, aheadLast, clean ▸ faultsLast, ?_⟩
  rw [movedLater, moved, List.length_cons]
  omega

theorem complain {expected : Expected} {next : Unit → Walk reader β}
    (reads : Reads (next ()) stop input ⟨result, later, rest⟩) :
    Reads (Reader.complain expected >>= next) stop input ⟨result, complaint expected stop input :: later, rest⟩ := by
  intro cursor ahead
  have blamed := Cursor.blame_eq ahead expected
  obtain ⟨last, ran, aheadLast, faultsLast, moved⟩ :=
    reads { cursor with faults := cursor.faults ++ [complaint expected stop input] } ahead
  rw [← blamed] at ran
  refine ⟨last, ran, aheadLast, ?_, moved⟩
  rw [faultsLast, List.append_assoc]
  rfl

theorem expect_of_token {symbol : Symbol} {expected : Expected} {span : Span} {next : Bool → Walk reader β}
    (reads : Reads (next true) stop rest read) :
    Reads (Reader.expect symbol expected >>= next) stop (⟨symbol, span⟩ :: rest) read := by
  rw [Reader.expect, bind_assoc]
  apply peek
  rw [here, Token.mark, if_pos rfl, bind_assoc]
  exact advance reads

theorem expect_of_other {symbol : Symbol} {expected : Expected} {next : Bool → Walk reader β}
    (other : (here stop input).symbol ≠ some symbol) (reads : Reads (next false) stop input ⟨result, later, rest⟩) :
    Reads (Reader.expect symbol expected >>= next) stop input
      ⟨result, complaint expected stop input :: later, rest⟩ := by
  rw [Reader.expect, bind_assoc]
  apply peek
  rw [if_neg other, bind_assoc]
  exact complain reads

theorem passWhile {passed : Option Symbol → Bool} {skipped : Token → Bool} (ends : passed none = false)
    (same : ∀ token : Token, passed (some token.symbol) = skipped token) (input : List Token) :
    Reads (reader.passWhile passed) stop input ⟨(), [], input.dropWhile skipped⟩ := by
  induction input with
  | nil =>
      rw [Reader.passWhile]
      apply peek
      rw [here, ends]
      exact pure ()
  | cons token input ih =>
      rw [Reader.passWhile]
      apply peek
      rw [here, Token.mark, same, List.dropWhile_cons]
      cases skipped token with
      | true => exact advance ih
      | false => exact pure ()

end Reads

/-! ### Readers -/

theorem passNewlines_reads (reader : Reader) (stop : Span) (input : List Token) :
    Reads reader.passNewlines stop input ⟨(), [], skipNewlines input⟩ :=
  .passWhile rfl (fun token => by simp) input

theorem eq_cons_of_here {span : Span} {symbol : Symbol} (same : here stop input = ⟨some symbol, span⟩) :
    ∃ rest, input = ⟨symbol, span⟩ :: rest := by
  cases input with
  | nil => cases same
  | cons token rest =>
      obtain ⟨_, _⟩ := token
      cases same
      exact ⟨rest, rfl⟩

theorem here_symbol_ne {symbol : Symbol} (other : ∀ span rest, input = ⟨symbol, span⟩ :: rest → False) :
    (here stop input).symbol ≠ some symbol := by
  intro same
  have found : here stop input = ⟨some symbol, (here stop input).span⟩ := by rw [← same]
  obtain ⟨rest, whole⟩ := eq_cons_of_here found
  exact other _ rest whole

/-- A turn over the arguments of a call, by what stands behind the argument. -/
theorem argumentTurn_reads {argument : Walk reader Expression} {value : Expression}
    (reads : Reads argument stop input ⟨value, faults, mid⟩) (earlier : List Expression) :
    Reads (reader.argumentTurn argument earlier) stop input
      (match skipNewlines mid with
        | ⟨.comma, _⟩ :: rest => ⟨.again (earlier ++ [value]), faults, skipNewlines rest⟩
        | ⟨.closeParen, span⟩ :: rest => ⟨.leave ⟨earlier ++ [value], span⟩, faults, rest⟩
        | after => ⟨.leave ⟨earlier ++ [value], (here stop after).span⟩,
            faults ++ [complaint .commaOrCloseParen stop after], after⟩) := by
  have skipped := passNewlines_reads reader stop mid
  split
  case h_1 rest shape =>
    rw [shape] at skipped
    apply reads.clean
    apply skipped.quiet
    apply Reads.peek
    apply Reads.advance
    exact (passNewlines_reads reader stop rest).quiet (.pure _)
  case h_2 shape =>
    rw [shape] at skipped
    apply reads.clean
    apply skipped.quiet
    apply Reads.peek
    exact .advance (.pure _)
  case h_3 notComma notClose =>
    apply reads.bind
    apply skipped.quiet
    apply Reads.peek
    dsimp only
    split
    case h_1 same => exact absurd same (here_symbol_ne fun span rest => notComma span rest)
    case h_2 same => exact absurd same (here_symbol_ne fun span rest => notClose span rest)
    case h_3 => exact .complain (.pure _)

theorem expression_reads_of_other {token : Token} (nothing : begins token.symbol = false) (stop : Span)
    (rest : List Token) :
    Reads reader.expression stop (token :: rest) (Tree.expression stop (token :: rest)).read := by
  rw [Reader.expression, expression_read_of_other nothing]
  apply Reads.peek
  split
  case h_1 | h_2 | h_3 | h_4 =>
    rename_i same
    obtain ⟨_, whole⟩ := eq_cons_of_here same
    cases whole
    cases nothing
  case h_5 =>
    apply Reads.complain
    by_cases ends : token.symbol.isTerminator ∨ token.symbol = .closeParen
    · rw [if_pos ends, if_pos]
      · exact .pure _
      · exact ends.imp id (congrArg some)
    · rw [if_neg ends, if_neg]
      · exact .advance (.pure _)
      · exact fun closed => ends (closed.imp id Option.some.inj)

theorem expression_reads_all (reader : Reader) (stop : Span) :
    (∀ input, Reads reader.expression stop input (Tree.expression stop input).read) ∧
    (∀ input, Reads reader.arguments stop input (Tree.arguments stop input).read) ∧
    ∀ input earlier, Reads (reader.items earlier) stop input
      ((Tree.items stop input).read.map fun called => ⟨earlier ++ called.items, called.close⟩) := by
  refine Tree.expression.mutual_induct stop _ _ _ ?number ?quotation ?call ?name ?garbage ?nothing
    ?closed ?other ?none ?some ?more ?last ?broken
  case number | quotation | garbage =>
    intros
    rw [Reader.expression, Tree.expression]
    apply Reads.peek
    exact .advance (.pure _)
  case call =>
    intro name span opening rest ih
    have opens : (here stop (⟨.openParen, opening⟩ :: rest)).symbol = some .openParen := rfl
    rw [Reader.expression, Tree.expression]
    apply Reads.peek
    apply Reads.advance
    apply Reads.peek
    rw [if_neg (not_not_intro opens)]
    apply Reads.advance
    exact ih.clean (.pure _)
  case name =>
    intro name span rest notCall
    rw [Reader.expression, Tree.expression]
    · apply Reads.peek
      apply Reads.advance
      apply Reads.peek
      rw [if_pos (here_symbol_ne notCall)]
      exact .pure _
    · exact notCall
  case nothing =>
    rw [Reader.expression, Tree.expression]
    apply Reads.peek
    apply Reads.complain
    rw [if_pos (.inl rfl)]
    exact .pure _
  case closed | other =>
    intro token rest notNumber notQuotation _ notName notGarbage _
    exact expression_reads_of_other (begins_eq_false notNumber notQuotation notName notGarbage) stop rest
  case none =>
    intro input span rest shape
    have skipped := passNewlines_reads reader stop input
    rw [shape] at skipped
    rw [arguments_read, Reader.arguments, shape]
    exact skipped.quiet (.peek (.advance (.pure _)))
  case some =>
    intro input notClose ih
    rw [arguments_read_of_items notClose, Reader.arguments]
    apply (passNewlines_reads reader stop input).quiet
    apply Reads.peek
    split
    case h_1 same =>
      obtain ⟨_, whole⟩ := eq_cons_of_here same
      exact (notClose _ _ whole).elim
    case h_2 => exact ih []
  case more =>
    intro input first comma rest shape ihFirst ihMore earlier
    have turned := argumentTurn_reads ihFirst earlier
    rw [shape] at turned
    rw [Reader.items, items_read, Read.map]
    simp only [first] at shape
    simp only [shape]
    have listed := ihMore (earlier ++ [(Tree.expression stop input).value])
    simp only [Read.map, List.append_assoc, List.singleton_append] at listed
    exact turned.bind listed
  case last =>
    intro input first span rest shape ihFirst earlier
    have turned := argumentTurn_reads ihFirst earlier
    rw [shape] at turned
    rw [Reader.items, items_read]
    simp only [first] at shape
    simp only [shape]
    exact turned.clean (.pure _)
  case broken =>
    intro input first notComma notClose ihFirst earlier
    have turned := argumentTurn_reads ihFirst earlier
    rw [Reader.items, items_read_of_broken notComma notClose]
    split at turned
    case h_1 shape => exact (notComma _ _ shape).elim
    case h_2 shape => exact (notClose _ _ shape).elim
    case h_3 => exact turned.clean (.pure _)

theorem expression_reads (reader : Reader) (stop : Span) (input : List Token) :
    Reads reader.expression stop input (Tree.expression stop input).read := (expression_reads_all reader stop).1 input

theorem statement_reads (reader : Reader) (stop : Span) (input : List Token) :
    Reads reader.statement stop input (Tree.statement stop input).read := by
  unfold Tree.statement
  split
  case h_1 rest =>
    rw [Reader.statement]
    apply Reads.peek
    apply Reads.advance
    apply Reads.peek
    apply Reads.advance
    apply Reads.expect_of_token
    exact (expression_reads reader stop rest).clean (.pure _)
  case h_2 notEquals =>
    rw [Reader.statement]
    apply Reads.peek
    apply Reads.advance
    apply Reads.peek
    apply Reads.advance
    apply Reads.expect_of_other (here_symbol_ne notEquals)
    exact .peek (.pure _)
  case h_3 _ rest _ notName =>
    rw [Reader.statement]
    apply Reads.peek
    apply Reads.advance
    apply Reads.peek
    split
    case h_1 same =>
      obtain ⟨_, whole⟩ := eq_cons_of_here same
      exact (notName _ _ _ whole).elim
    case h_2 span _ same =>
      obtain rfl : (here stop rest).span = span := congrArg Mark.span same
      exact .complain (.pure _)
  case h_4 span rest =>
    rw [Reader.statement]
    apply Reads.peek
    apply Reads.advance
    apply Reads.peek
    split
    case isTrue => exact .pure _
    case isFalse => exact (expression_reads reader stop rest).clean (.pure _)
  case h_5 notLet notReturn =>
    rw [Reader.statement]
    apply Reads.peek
    split
    case h_1 same =>
      obtain ⟨_, whole⟩ := eq_cons_of_here same
      exact (notLet _ _ whole).elim
    case h_2 same =>
      obtain ⟨_, whole⟩ := eq_cons_of_here same
      exact (notReturn _ _ whole).elim
    case h_3 => exact (expression_reads reader stop input).clean (.pure _)

theorem settle_reads (reader : Reader) (stop : Span) (input : List Token) :
    Reads reader.settle stop input (Tree.settle stop input).read := by
  rw [Reader.settle, Tree.settle]
  apply Reads.peek
  split
  case isTrue => exact .pure _
  case isFalse => exact .complain (.passWhile rfl (fun _ => rfl) input)

theorem sentence_reads (reader : Reader) (stop : Span) (input : List Token) :
    Reads reader.sentence stop input
      (let first := Tree.statement stop input
      let settled := Tree.settle stop first.rest
      ⟨first.value, first.faults ++ settled.faults, settled.rest⟩) :=
  (statement_reads reader stop input).bind ((settle_reads reader stop _).clean (.pure _))

/-- A walk that leaves less than it found has led somewhere, so `stuck` is not done. -/
theorem Reads.guarded {walk : Walk reader α} {stuck : Walk reader Unit}
    (reads : Reads walk stop input ⟨value, faults, rest⟩) (shorter : rest.length < input.length) :
    Reads (reader.guarded stuck walk) stop input ⟨value, faults, rest⟩ := by
  intro cursor ahead
  obtain ⟨next, ran, aheadNext, faultsNext, moved⟩ := reads cursor ahead
  have forward : next.index ≠ cursor.index := by
    dsimp only at moved
    omega
  refine ⟨next, ?_, aheadNext, faultsNext, moved⟩
  change (walk cursor).bind _ = _
  rw [ran]
  change (if next.index ≠ cursor.index then _ else _ : Walk reader α) next = _
  rw [if_pos forward]
  rfl

section
variable (reader : Reader) (stuck : Walk reader Unit)

theorem bodyTurn_reads (earlier : List Statement) (stop : Span) (input : List Token) :
    Reads (reader.bodyTurn stuck earlier) stop input
      (match skipSeparators input with
        | [] => ⟨.leave earlier, [complaint .closeBrace stop []], []⟩
        | token :: rest =>
          if token.symbol = .closeBrace then ⟨.leave earlier, [], rest⟩
          else
            let first := Tree.statement stop (token :: rest)
            let settled := Tree.settle stop first.rest
            ⟨.again (earlier ++ [first.value]), first.faults ++ settled.faults, settled.rest⟩) := by
  have skipped : Reads (reader.passWhile fun symbol => symbol = some .newline ∨ symbol = some .semicolon) stop input
      ⟨(), [], skipSeparators input⟩ := .passWhile rfl (fun token => by simp) input
  rw [bodyTurn]
  apply skipped.quiet
  apply Reads.peek
  cases shape : skipSeparators input with
  | nil => exact .complain (.pure _)
  | cons token rest =>
      obtain ⟨symbol, span⟩ := token
      dsimp only
      by_cases closes : symbol = .closeBrace
      · obtain rfl := closes
        rw [if_pos rfl]
        exact .advance (.pure _)
      · rw [if_neg closes]
        have inside := isTerminator_of_skipSeparators shape closes
        have shorter := settle_length_lt stop (Tree.statement stop (⟨symbol, span⟩ :: rest)) inside
        split
        case h_1 same => exact absurd (Option.some.inj same) closes
        case h_2 same => cases same
        case h_3 => exact ((sentence_reads reader stop _).guarded shorter).clean (.pure _)

theorem body_reads (earlier : List Statement) (stop : Span) (input : List Token) :
    Reads (reader.loop (reader.bodyTurn stuck) earlier) stop input
      ((Tree.statements stop input).read.map (earlier ++ ·)) := by
  induction input using Tree.statements.induct stop generalizing earlier with
  | case1 input shape =>
      have turned := bodyTurn_reads reader stuck earlier stop input
      rw [shape] at turned
      rw [loop, statements_read, shape, Read.map]
      dsimp only
      rw [List.append_nil]
      exact turned.clean (.pure _)
  | case2 input token rest shape closes =>
      have turned := bodyTurn_reads reader stuck earlier stop input
      rw [shape] at turned
      dsimp only at turned
      rw [if_pos closes] at turned
      rw [loop, statements_read, shape, Read.map]
      dsimp only
      rw [if_pos closes, List.append_nil]
      exact turned.clean (.pure _)
  | case3 input token rest shape notClose first settled ih =>
      have turned := bodyTurn_reads reader stuck earlier stop input
      rw [shape] at turned
      dsimp only at turned
      rw [if_neg notClose] at turned
      rw [loop, statements_read, shape, Read.map]
      dsimp only
      rw [if_neg notClose]
      dsimp only
      rw [List.append_cons]
      apply turned.bind
      exact ih _

theorem block_reads (stop : Span) (input : List Token) :
    Reads (reader.block stuck) stop input (Tree.block stop input).read := by
  unfold Tree.block
  split
  case h_1 rest =>
    rw [Reader.block]
    apply Reads.expect_of_token
    exact body_reads reader stuck [] stop rest
  case h_2 notOpen =>
    rw [Reader.block]
    apply Reads.expect_of_other (here_symbol_ne notOpen)
    exact .pure _

end

theorem header_reads (reader : Reader) (stop : Span) (input : List Token) :
    Reads reader.header stop input (Tree.header stop input).read := by
  unfold Tree.header
  split
  case h_1 name span rest₁ =>
    split
    case h_1 opening rest₂ =>
      split
      case h_1 closing rest₃ =>
        split
        case h_1 arrow rest₄ =>
          split
          case h_1 =>
            rw [Reader.header]
            apply Reads.peek
            apply Reads.advance
            apply Reads.expect_of_token
            apply Reads.expect_of_token
            apply Reads.peek
            apply Reads.advance
            apply Reads.peek
            exact .advance (.pure _)
          case h_2 notName =>
            rw [Reader.header]
            apply Reads.peek
            apply Reads.advance
            apply Reads.expect_of_token
            apply Reads.expect_of_token
            apply Reads.peek
            apply Reads.advance
            apply Reads.peek
            split
            case h_1 same =>
              obtain ⟨_, whole⟩ := eq_cons_of_here same
              exact (notName _ _ _ whole).elim
            case h_2 => exact .complain (.pure _)
        case h_2 notArrow =>
          rw [Reader.header]
          apply Reads.peek
          apply Reads.advance
          apply Reads.expect_of_token
          apply Reads.expect_of_token
          apply Reads.peek
          split
          case isTrue => exact .pure _
          case isFalse isArrow => exact absurd (here_symbol_ne notArrow) isArrow
      case h_2 notClose =>
        rw [Reader.header]
        apply Reads.peek
        apply Reads.advance
        apply Reads.expect_of_token
        exact .expect_of_other (here_symbol_ne notClose) (.pure _)
    case h_2 notOpen =>
      rw [Reader.header]
      apply Reads.peek
      apply Reads.advance
      exact .expect_of_other (here_symbol_ne notOpen) (.pure _)
  case h_2 notName =>
    rw [Reader.header]
    apply Reads.peek
    split
    case h_1 same =>
      obtain ⟨_, whole⟩ := eq_cons_of_here same
      exact (notName _ _ _ whole).elim
    case h_2 => exact .complain (.pure _)

section
variable (reader : Reader) (stuck : Walk reader Unit)

theorem function_reads (stop : Span) (input : List Token) (keyword : Token) :
    Reads (reader.function stuck) stop (keyword :: input) (Tree.function stop input).read := by
  rw [Reader.function]
  apply Reads.advance
  have head := header_reads reader stop input
  have skipped := passNewlines_reads reader stop (Tree.header stop input).rest
  cases value : (Tree.header stop input).value with
  | some header =>
      rw [function_of_some value]
      rw [Reading.read, value] at head
      apply head.bind
      apply skipped.quiet
      exact (block_reads reader stuck stop _).clean (.pure _)
  | none =>
      rw [Reading.read, value] at head
      have passed : Reads (reader.passWhile fun symbol =>
          symbol ≠ some .openBrace ∧ symbol ≠ some .function ∧ symbol ≠ none) stop
          (skipNewlines (Tree.header stop input).rest) ⟨(), [], toEntry (Tree.header stop input).rest⟩ :=
        .passWhile (by simp) (fun token => by simp) _
      by_cases isBlock : ∃ span rest, toEntry (Tree.header stop input).rest = ⟨.openBrace, span⟩ :: rest
      · obtain ⟨span, rest, shape⟩ := isBlock
        rw [shape] at passed
        rw [function_read_of_block value shape]
        apply head.bind
        apply skipped.quiet
        apply passed.quiet
        apply Reads.peek
        exact (block_reads reader stuck stop (⟨.openBrace, span⟩ :: rest)).clean (.pure _)
      · have notOpen : ∀ span rest, toEntry (Tree.header stop input).rest = ⟨.openBrace, span⟩ :: rest → False :=
          fun span rest shape => isBlock ⟨span, rest, shape⟩
        rw [function_read_of_no_block value notOpen]
        apply head.clean
        apply skipped.quiet
        apply passed.quiet
        apply Reads.peek
        rw [if_pos (here_symbol_ne notOpen)]
        exact .pure _

theorem fileTurn_reads (earlier : List Function) (stop : Span) (input : List Token) :
    Reads (reader.fileTurn stuck earlier) stop input
      (match skipNewlines input with
        | [] => ⟨.leave ⟨earlier⟩, [], []⟩
        | token :: rest =>
          if token.symbol = .function then
            let first := Tree.function stop rest
            ⟨.again (earlier ++ first.value.toList), first.faults, first.rest⟩
          else
            ⟨.again earlier, [complaint .functionKeyword stop (token :: rest)],
              rest.dropWhile fun token => token.symbol ≠ .function⟩) := by
  rw [fileTurn]
  apply (passNewlines_reads reader stop input).quiet
  apply Reads.peek
  cases skipNewlines input with
  | nil => exact .pure _
  | cons token rest =>
      obtain ⟨symbol, span⟩ := token
      dsimp only
      by_cases isKeyword : symbol = .function
      · obtain rfl := isKeyword
        rw [if_pos rfl]
        exact (function_reads reader stuck stop rest _).clean (.pure _)
      · rw [if_neg isKeyword]
        split
        case h_1 same => cases same
        case h_2 same => exact absurd (Option.some.inj same) isKeyword
        case h_3 =>
          have passed : Reads (reader.passWhile fun symbol => symbol ≠ some .function ∧ symbol ≠ none) stop
              (⟨symbol, span⟩ :: rest)
              ⟨(), [], (⟨symbol, span⟩ :: rest).dropWhile fun token => token.symbol ≠ .function⟩ :=
            .passWhile (by simp) (fun token => by simp) _
          rw [List.dropWhile_cons_of_pos (by simpa using isKeyword)] at passed
          apply Reads.complain
          exact passed.quiet (.pure _)

theorem file_reads (earlier : List Function) (stop : Span) (input : List Token) :
    Reads (reader.loop (reader.fileTurn stuck) earlier) stop input
      (let parsed := Tree.functions stop input
      ⟨⟨earlier ++ parsed.file.functions⟩, parsed.faults, []⟩) := by
  induction input using Tree.functions.induct stop generalizing earlier with
  | case1 input shape =>
      have turned := fileTurn_reads reader stuck earlier stop input
      rw [shape] at turned
      rw [loop, functions_eq, shape]
      dsimp only
      rw [List.append_nil]
      exact turned.clean (.pure _)
  | case2 input token rest shape isKeyword first ih =>
      have turned := fileTurn_reads reader stuck earlier stop input
      rw [shape] at turned
      dsimp only at turned
      rw [if_pos isKeyword] at turned
      rw [loop, functions_eq, shape]
      dsimp only
      rw [if_pos isKeyword]
      dsimp only
      rw [← List.append_assoc]
      exact turned.bind (ih _)
  | case3 input token rest shape notKeyword ih =>
      have turned := fileTurn_reads reader stuck earlier stop input
      rw [shape] at turned
      dsimp only at turned
      rw [if_neg notKeyword] at turned
      rw [loop, functions_eq, shape]
      dsimp only
      rw [if_neg notKeyword]
      exact turned.bind (ih _)

theorem ofMarks_lastEnd (reader : Reader) :
    Stream.ofMarks (reader.marks ++ [reader.lastEnd]) = .ofMarks reader.marks := by
  obtain ⟨marks⟩ := reader
  induction marks with
  | nil => rfl
  | cons mark marks ih =>
      obtain ⟨symbol | symbol, span⟩ := mark
      · rfl
      · cases marks with
        | nil => rfl
        | cons next marks =>
            have last : (⟨⟨some symbol, span⟩ :: next :: marks⟩ : Reader).lastEnd =
                (⟨next :: marks⟩ : Reader).lastEnd := by
              simp only [lastEnd, List.getLast?_cons_cons]
            rw [last]
            exact congrArg (fun later : Stream => (⟨⟨symbol, span⟩ :: later.tokens, later.stop⟩ : Stream)) ih

/-- Whatever is done where a statement leads nowhere, a list of marks is read as the stream of it is parsed. -/
theorem parseWith_eq : reader.parseWith stuck = some (StageZero.parse (.ofMarks reader.marks)) := by
  have ahead : (Cursor.start reader).ahead = .ofMarks reader.marks := ofMarks_lastEnd reader
  obtain ⟨next, ran, -, faults, -⟩ := file_reads reader stuck [] _ _ (Cursor.start reader) ahead
  rw [parseWith, StateT.run, ran]
  change some (⟨_, next.faults⟩ : Parse) = _
  rw [faults]
  rfl

end

end Reader
end Tree
end StageZero
