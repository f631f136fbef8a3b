import StageZero.Proofs.Walking

/-! Why the machine ends: every turn of a loop that does not leave it has gone past a mark, and there are no
more of these than the list has. A statement, with the way to what ends it, always goes past one, so what is to
be done where it leads nowhere is never done. -/
namespace StageZero.Tree.Reader

variable {reader : Reader} {State Result α : Type}

/-- From every state and every place a turn ends, at a place among the marks or behind the last of them.
Unless it leaves the loop, that place is further on. -/
def Progresses (turn : State → Walk reader (Turn State Result)) : Prop :=
  ∀ state cursor, ∃ outcome next, turn state cursor = some (outcome, next) ∧ next.index ≤ reader.marks.length ∧
    ∀ later, outcome = .again later → cursor.index < next.index

/-- The index has moved by as many marks as tokens were read. -/
theorem Progresses.of_reads {turn : State → Walk reader (Turn State Result)}
    (shrinks : ∀ state stop input, ∃ read, Reads (turn state) stop input read ∧
      ∀ later, read.value = .again later → read.rest.length < input.length) : Progresses turn := by
  intro state cursor
  obtain ⟨read, reads, shorter⟩ := shrinks state cursor.ahead.stop cursor.ahead.tokens
  obtain ⟨next, ran, -, -, moved⟩ := reads cursor rfl
  refine ⟨read.value, next, ran, next.index_le, ?_⟩
  intro later again
  have left := shorter later again
  omega

/-- Nothing but the index, the faults and the value tells one walk from another. -/
theorem Reads.eq {walk other : Walk reader α}
    (same : ∀ stop input, ∃ read, Reads walk stop input read ∧ Reads other stop input read) : walk = other := by
  funext cursor
  obtain ⟨read, reads, readsOther⟩ := same cursor.ahead.stop cursor.ahead.tokens
  obtain ⟨next, ran, -, faults, moved⟩ := reads cursor rfl
  obtain ⟨nextOther, ranOther, -, faultsOther, movedOther⟩ := readsOther cursor rfl
  have met : next = nextOther := by
    ext1
    · omega
    · exact faults.trans faultsOther.symm
  rw [ran, ranOther, met]

/-- Behind an argument that is not the last one there is at least a comma. -/
theorem argumentTurn_progresses (reader : Reader) : Progresses (reader.argumentTurn reader.expression) := by
  apply Progresses.of_reads
  intro earlier stop input
  refine ⟨_, argumentTurn_reads (expression_reads reader stop input) earlier, ?_⟩
  intro later again
  split at again
  case h_1 shape =>
    exact (Tree.expression stop input).length_behind_lt shape
  case h_2 => cases again
  case h_3 => cases again

theorem sentence_progresses {cursor : Cursor reader} (inside : cursor.mark.isTerminator = false) :
    ∃ value next, reader.sentence cursor = some (value, next) ∧ cursor.index < next.index := by
  obtain ⟨next, ran, -, -, moved⟩ := sentence_reads reader cursor.ahead.stop cursor.ahead.tokens cursor rfl
  refine ⟨_, next, ran, ?_⟩
  have stands : cursor.mark = here cursor.ahead.stop cursor.ahead.tokens := Cursor.mark_eq rfl
  rw [stands] at inside
  cases shape : cursor.ahead.tokens with
  | nil =>
      rw [shape] at inside
      cases inside
  | cons token rest =>
      rw [shape] at inside moved
      have shorter := settle_length_lt cursor.ahead.stop (Tree.statement cursor.ahead.stop (token :: rest)) inside
      dsimp only at moved
      omega

section
variable (reader : Reader) (stuck : Walk reader Unit)

theorem bodyTurn_progresses : Progresses (reader.bodyTurn stuck) := by
  apply Progresses.of_reads
  intro earlier stop input
  refine ⟨_, bodyTurn_reads reader stuck earlier stop input, ?_⟩
  intro later again
  have skipped := (skipSeparators_suffix input).length_le
  cases shape : skipSeparators input with
  | nil =>
      rw [shape] at again
      cases again
  | cons token rest =>
      rw [shape] at again skipped
      dsimp only at again ⊢
      by_cases closes : token.symbol = .closeBrace
      · rw [if_pos closes] at again
        cases again
      · rw [if_neg closes]
        have inside := isTerminator_of_skipSeparators shape closes
        have shorter := settle_length_lt stop (Tree.statement stop (token :: rest)) inside
        dsimp only
        omega

theorem fileTurn_progresses : Progresses (reader.fileTurn stuck) := by
  apply Progresses.of_reads
  intro earlier stop input
  refine ⟨_, fileTurn_reads reader stuck earlier stop input, ?_⟩
  intro later again
  have skipped := (skipNewlines_suffix input).length_le
  cases shape : skipNewlines input with
  | nil =>
      rw [shape] at again
      cases again
  | cons token rest =>
      rw [shape, List.length_cons] at skipped
      dsimp only
      split
      case isTrue =>
        have left := (Tree.function stop rest).length_le
        dsimp only
        omega
      case isFalse =>
        have left := (List.dropWhile_suffix (l := rest) fun token => decide (token.symbol ≠ .function)).length_le
        dsimp only
        omega

end

/-- No place has a statement that leads nowhere. -/
theorem bodyTurn_eq (reader : Reader) (stuck other : Walk reader Unit) :
    reader.bodyTurn stuck = reader.bodyTurn other := by
  funext earlier
  apply Reads.eq
  intro stop input
  exact ⟨_, bodyTurn_reads reader stuck earlier stop input, bodyTurn_reads reader other earlier stop input⟩

/-- Every list of marks is read to an end, as the stream of it is parsed. Each turn of the three loops leaves
its loop or goes forward, never beyond the marks. A statement and the way to what ends it go forward from all
that ends no statement, and so what `stuck` stands for is never done, be it something without an end. -/
theorem reading_progresses (reader : Reader) :
    reader.parse = some (StageZero.parse (.ofMarks reader.marks)) ∧
      Progresses (reader.fileTurn advance) ∧
      Progresses (reader.bodyTurn advance) ∧
      Progresses (reader.argumentTurn reader.expression) ∧
      (∀ cursor : Cursor reader, cursor.mark.isTerminator = false →
        ∃ value next, reader.sentence cursor = some (value, next) ∧ cursor.index < next.index) ∧
      ∀ stuck, reader.bodyTurn stuck = reader.bodyTurn advance ∧ reader.parseWith stuck = reader.parse := by
  refine ⟨parseWith_eq reader advance, fileTurn_progresses reader advance, bodyTurn_progresses reader advance,
    argumentTurn_progresses reader, fun cursor inside => sentence_progresses inside, ?_⟩
  intro stuck
  refine ⟨bodyTurn_eq reader stuck advance, ?_⟩
  exact (parseWith_eq reader stuck).trans (parseWith_eq reader advance).symm

end StageZero.Tree.Reader
