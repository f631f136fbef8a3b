import StageZero.Proofs.Walking

/-! What the marks behind others can change. Nothing that stands behind an end of file is looked at, and the
end of file is where it would be put if it were missing. What stands behind a front without faults is read as
it is on its own. -/
namespace StageZero

namespace Stream

/-- Tokens in front of other marks are in front of their stream. -/
theorem ofMarks_front (tokens : List Token) {marks : List Mark} (some : marks ≠ []) :
    ofMarks (tokens.map Token.mark ++ marks) = ⟨tokens ++ (ofMarks marks).tokens, (ofMarks marks).stop⟩ := by
  induction tokens with
  | nil => rfl
  | cons token tokens ih =>
      have more : tokens.map Token.mark ++ marks ≠ [] := List.append_ne_nil_of_right_ne_nil _ some
      rw [List.map_cons, List.cons_append, ofMarks_token token more, ih]
      rfl

/-- A stream ends behind its last token when nothing else is said. -/
theorem ofMarks_unended (tokens : List Token) (last : Token) :
    ofMarks ((tokens ++ [last]).map Token.mark) = ⟨tokens ++ [last], last.span.after⟩ := by
  have some : [last.mark] ≠ [] := nofun
  rw [List.map_append]
  exact ofMarks_front tokens some

end Stream

namespace Tree.Reader

/-- An end of file is a wall. Whatever stands behind it, the trees and the faults are the same, and the same
they are without it, if it is behind the last token that it stands. -/
theorem parse_eq_of_end :
    (∀ marks rest stop, ∃ parsed,
      parse ⟨marks ++ ⟨none, stop⟩ :: rest⟩ = some parsed ∧ parse ⟨marks ++ [⟨none, stop⟩]⟩ = some parsed) ∧
    ∀ (tokens : List Token) (last : Token),
      let marks := (tokens ++ [last]).map Token.mark
      ∃ parsed, parse ⟨marks⟩ = some parsed ∧
        parse ⟨marks ++ [⟨none, ⟨last.span.file, last.span.stop, last.span.stop⟩⟩]⟩ = some parsed := by
  constructor
  · intro marks rest stop
    refine ⟨_, parseWith_eq _ advance, ?_⟩
    rw [parse, parseWith_eq, Stream.ofMarks_append_end marks rest stop]
  · intro tokens last marks
    refine ⟨_, parseWith_eq _ advance, ?_⟩
    have ended := Stream.ofMarks_marks ⟨tokens ++ [last], last.span.after⟩
    have unended := Stream.ofMarks_unended tokens last
    rw [parse, parseWith_eq]
    exact congrArg (fun stream => some (StageZero.parse stream)) (ended.trans unended.symm)

/-- A front without faults derives as a whole, so its functions end where it does. -/
theorem parse_eq_of_front {front : List Token} {stop : Span} {parsed : Parse}
    (ran : parse ⟨front.map Token.mark ++ [⟨none, stop⟩]⟩ = some parsed) (clean : parsed.faults = [])
    (behind : List Mark) (ending : Span) :
    ∃ later, parse ⟨behind ++ [⟨none, ending⟩]⟩ = some later ∧
      parse ⟨front.map Token.mark ++ (behind ++ [⟨none, ending⟩])⟩ =
        some ⟨⟨parsed.file.functions ++ later.file.functions⟩, later.faults⟩ := by
  have read : parsed = functions stop front := by
    have whole := Option.some.inj (ran.symm.trans (parseWith_eq _ advance))
    exact whole.trans (congrArg StageZero.parse (Stream.ofMarks_marks ⟨front, stop⟩))
  subst read
  obtain ⟨gap, inner, rfl, newlines, derived⟩ := ((functions_iff stop front _).mpr ⟨clean, rfl⟩).functions
  have some : behind ++ [⟨none, ending⟩] ≠ [] := List.append_ne_nil_of_right_ne_nil _ (List.cons_ne_nil _ _)
  refine ⟨_, parseWith_eq _ advance, ?_⟩
  rw [parse, parseWith_eq]
  dsimp only
  rw [Stream.ofMarks_front _ some, StageZero.parse, List.append_assoc]
  exact congrArg Option.some (reads_functions derived _ gap newlines _)

theorem parse_eq_of_front_stray :
    let front : List Token := [⟨.function, ⟨⟨0⟩, 0, 8⟩⟩, ⟨.name "f", ⟨⟨0⟩, 9, 10⟩⟩, ⟨.openParen, ⟨⟨0⟩, 10, 11⟩⟩,
      ⟨.closeParen, ⟨⟨0⟩, 11, 12⟩⟩, ⟨.openBrace, ⟨⟨0⟩, 13, 14⟩⟩, ⟨.closeBrace, ⟨⟨0⟩, 14, 15⟩⟩]
    let written : Function := ⟨"f", ⟨⟨0⟩, 9, 10⟩, none, []⟩
    let stray : Mark := ⟨some .let, ⟨⟨0⟩, 16, 19⟩⟩
    parse ⟨front.map Token.mark ++ [⟨none, ⟨⟨0⟩, 15, 15⟩⟩]⟩ = some ⟨⟨[written]⟩, []⟩ ∧
      parse ⟨front.map Token.mark ++ [stray, ⟨none, ⟨⟨0⟩, 19, 19⟩⟩]⟩ =
        some ⟨⟨[written]⟩, [⟨⟨.functionKeyword, some .let⟩, ⟨⟨0⟩, 16, 19⟩⟩]⟩ := by
  intro front written stray
  have derived : Grammar.File front ⟨[written]⟩ := by
    have body : Grammar.Block (front.drop 4) [] := @Grammar.Block.empty _ [] _ nofun
    have whole : Grammar.Function front written := @Grammar.Function.plain _ _ _ _ _ [] _ _ nofun body
    exact @Grammar.File.file [] _ _ nofun (@Grammar.Functions.more _ _ [] _ _ whole nofun .none)
  have ran : parse ⟨front.map Token.mark ++ [⟨none, ⟨⟨0⟩, 15, 15⟩⟩]⟩ = some ⟨⟨[written]⟩, []⟩ := by
    obtain ⟨clean, same⟩ := (functions_iff ⟨⟨0⟩, 15, 15⟩ front _).mp derived
    refine (parseWith_eq _ advance).trans (congrArg some ?_)
    exact congr (congrArg Parse.mk same) clean
  have alone : functions ⟨⟨0⟩, 19, 19⟩ [⟨.let, ⟨⟨0⟩, 16, 19⟩⟩] =
      ⟨⟨[]⟩, [⟨⟨.functionKeyword, some .let⟩, ⟨⟨0⟩, 16, 19⟩⟩]⟩ := by
    rw [functions_eq]
    exact congrArg (fun later : Parse => (⟨later.file, _ :: later.faults⟩ : Parse)) (functions_nil _)
  obtain ⟨later, ranLater, whole⟩ := parse_eq_of_front ran rfl [stray] ⟨⟨0⟩, 19, 19⟩
  have same : later = functions ⟨⟨0⟩, 19, 19⟩ [⟨.let, ⟨⟨0⟩, 16, 19⟩⟩] :=
    Option.some.inj (ranLater.symm.trans (parseWith_eq _ advance))
  rw [same, alone] at whole
  exact ⟨ran, whole⟩

end Tree.Reader
end StageZero
