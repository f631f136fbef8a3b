import StageZero.Proofs.Invocations

/-! The gate of a pipeline. Whatever its phases and plugins do, they are invoked in one order, the
first failure is the last invocation, and code is generated only from a context without
diagnostics. -/
namespace StageZero
variable {Memory Tokens Parsed Checked : Type}

namespace Pipeline

/-- The phases in front of the gate. -/
def toGate (pipeline : Pipeline Memory Tokens Parsed Checked) : Step Memory Checked := do
  let flags := (← Step.context).flags
  let tokens ← pipeline.lex.runWith pipeline.plugins flags.lexer ()
  let parsed ← pipeline.parse.runWith pipeline.plugins flags.parser tokens
  pipeline.typecheck.runWith pipeline.plugins flags.typechecker parsed

theorem run_eq_toGate (pipeline : Pipeline Memory Tokens Parsed Checked) :
    pipeline.run = (do
      let _ ← Step.currentSource
      let checked ← pipeline.toGate
      let context ← Step.context
      if context.hasErrors then return .rejected context.errorCount
      let text ← pipeline.generate.runWith pipeline.plugins false checked
      return .generated text) := by
  simp only [toGate, Step.bind_assoc]
  rfl

/-- The note at the gate: of the last invocation in front of it. -/
def gate? (pipeline : Pipeline Memory Tokens Parsed Checked) (notes : List (Note Tokens Parsed Checked)) :
    Option (Note Tokens Parsed Checked) := notes[pipeline.front.length - 1]?

end Pipeline

theorem Notes.toGate (pipeline : Pipeline Memory Tokens Parsed Checked) :
    Notes pipeline.noted.toGate .nothing pipeline.front .checked := by
  intro session
  have lexed := Notes.runWith pipeline .lex (fun _ => .nothing) .tokens pipeline.lex
    session.context.flags.lexer ()
  have parsed := Notes.runWith pipeline .parse .tokens .parsed pipeline.parse
    session.context.flags.parser
  have checked := Notes.runWith pipeline .typecheck .parsed .checked pipeline.typecheck
    session.context.flags.typechecker
  rw [Pipeline.front, List.append_assoc]
  exact Notes.bind lexed (fun tokens => Notes.bind (parsed tokens) checked) session

/-- How a run ends that has a current file: it is stopped in front of the gate, it is rejected there,
or it goes on behind it. -/
inductive Passes (pipeline : Pipeline Memory Tokens Parsed Checked) (context : Context) :
    List (Note Tokens Parsed Checked) → Except Failure Outcome → Prop
  | stopped {notes failure last} :
      Follows .nothing context pipeline.front notes (.error failure) last →
      Passes pipeline context notes (.error failure)
  | rejected {notes held last} : Follows .nothing context pipeline.front notes (.ok held) last →
      last.diagnostics ≠ [] → Passes pipeline context notes (.ok (.rejected last.diagnostics.length))
  | onward {front back held middle result last} :
      Follows .nothing context pipeline.front front (.ok held) middle → middle.diagnostics = [] →
      Follows held middle pipeline.back back (Except.map .text result) last →
      Passes pipeline context (front ++ back) (result.map .generated)

theorem Passes.of_run (pipeline : Pipeline Memory Tokens Parsed Checked) (session : Session Memory)
    {file : FileId × SourceFile} (ready : session.context.currentSource = .ok file) :
    Passes pipeline session.context (pipeline.noted.run session.noting).2.memory.notes
      (pipeline.noted.run session.noting).1 := by
  obtain ⟨notes, added, follows⟩ := Notes.toGate pipeline session.noting
  have found : Step.currentSource (session.noting : Session (Notebook Memory Tokens Parsed Checked)) =
      (.ok file, session.noting) := congrArg (·, session.noting) ready
  rw [Pipeline.run_eq_toGate, Step.bind_of_ok found]
  rcases toGate : pipeline.noted.toGate session.noting with ⟨result, middle⟩
  rw [toGate] at added follows
  change middle.memory.notes = [] ++ notes at added
  rw [List.nil_append] at added
  cases result with
  | error failure =>
      rw [Step.bind_of_error toGate]
      exact added ▸ .stopped follows
  | ok checked =>
      rw [Step.bind_of_ok toGate]
      have atGate : Step.context middle = (.ok middle.context, middle) := rfl
      rw [Step.bind_of_ok atGate]
      by_cases clean : middle.context.diagnostics = []
      · simp only [Context.hasErrors, clean, List.isEmpty_nil, Bool.not_true, Bool.false_eq_true, if_false]
        obtain ⟨others, addedToo, onward⟩ := Notes.runWith pipeline .generate .checked .text
          pipeline.generate false checked middle
        rw [added] at addedToo
        rcases generated : pipeline.noted.generate.runWith pipeline.noted.plugins false checked middle with
          ⟨result, last⟩
        change (pipeline.noted.generate.runWith pipeline.noted.plugins false checked middle).2.memory.notes =
          _ at addedToo
        change Follows _ _ _ _ ((pipeline.noted.generate.runWith pipeline.noted.plugins false checked
          middle).1.map _) _ at onward
        rw [generated] at addedToo onward
        cases result with
        | error failure =>
            rw [Step.bind_of_error generated, addedToo]
            exact .onward follows clean onward
        | ok text =>
            rw [Step.bind_of_ok generated]
            change Passes _ _ last.memory.notes _
            rw [addedToo]
            exact .onward follows clean onward
      · have blocked : middle.context.hasErrors = true := by simpa [Context.hasErrors] using clean
        simp only [blocked, if_true]
        exact added ▸ .rejected follows clean

/-- What a run comes to when no invocation fails, by the context at the gate. -/
inductive Verdict (pipeline : Pipeline Memory Tokens Parsed Checked) (context : Context)
    (notes : List (Note Tokens Parsed Checked)) : Except Failure Outcome → Prop
  | generated {text note} : context.diagnostics = [] →
      notes.map Note.callee = pipeline.front ++ pipeline.back →
      note ∈ notes → note.callee = .run .generate → note.result = .ok (.text text) →
      Verdict pipeline context notes (.ok (.generated text))
  | rejected : 0 < context.diagnostics.length → notes.map Note.callee = pipeline.front →
      Verdict pipeline context notes (.ok (.rejected context.diagnostics.length))

/-- The contract of a run from a context, by its result and the notes of its invocations. -/
structure Gated (pipeline : Pipeline Memory Tokens Parsed Checked) (start : Context)
    (result : Except Failure Outcome) (notes : List (Note Tokens Parsed Checked)) : Prop where
  /-- Without a current file nothing is invoked. -/
  idle : ∀ failure, start.currentSource = .error failure → notes = [] ∧ result = .error failure
  ordered : notes.map Note.callee <+: pipeline.front ++ pipeline.back
  /-- Nothing behind the gate is invoked if there is a diagnostic at it. -/
  guarded : pipeline.front.length < notes.length →
    ∃ gate, pipeline.gate? notes = some gate ∧ gate.left.diagnostics = []
  /-- An invocation that fails is the last, and the run fails as it does. -/
  stopped : ∀ earlier note later failure, notes = earlier ++ note :: later →
    note.result = .error failure → later = [] ∧ result = .error failure
  /-- All invocations share one context. -/
  shared : (∀ first ∈ notes.head?, first.received = start) ∧
    notes.IsChain fun earlier later => later.received = earlier.left
  /-- Each phase is given what the one before it gave back. -/
  passed : (phaseNotes notes).IsChain fun earlier later => earlier.result = .ok later.given
  /-- If nothing fails, everything is invoked that has to be. -/
  ended : ∀ file, start.currentSource = .ok file → (∀ note ∈ notes, ∃ value, note.result = .ok value) →
    ∃ gate, pipeline.gate? notes = some gate ∧ Verdict pipeline gate.left notes result

theorem Pipeline.front_ne_nil (pipeline : Pipeline Memory Tokens Parsed Checked) :
    pipeline.front ≠ [] := by
  simp [front, around]

theorem Follows.gate {pipeline : Pipeline Memory Tokens Parsed Checked} {context last : Context}
    {notes : List (Note Tokens Parsed Checked)} {held next : Handed Tokens Parsed Checked}
    (follows : Follows held context pipeline.front notes (.ok next) last)
    (more : List (Note Tokens Parsed Checked)) :
    ∃ gate, pipeline.gate? (notes ++ more) = some gate ∧ gate.left = last := by
  obtain ⟨gate, isLast, left⟩ := follows.getLast pipeline.front_ne_nil
  have length : notes.length = pipeline.front.length := by
    rw [← follows.complete, List.length_map]
  have inside : pipeline.front.length - 1 < notes.length := by
    have := List.length_pos_iff.mpr pipeline.front_ne_nil
    omega
  refine ⟨gate, ?_, left⟩
  rw [Pipeline.gate?, List.getElem?_append_left inside, ← length, ← List.getLast?_eq_getElem?, isLast]

theorem Passes.follows {pipeline : Pipeline Memory Tokens Parsed Checked} {context : Context}
    {notes : List (Note Tokens Parsed Checked)} {result : Except Failure Outcome}
    (passes : Passes pipeline context notes result) :
    ∃ plan ending last, Follows .nothing context plan notes ending last ∧
      plan <+: pipeline.front ++ pipeline.back ∧
      ∀ failure, ending = .error failure → result = .error failure := by
  cases passes with
  | stopped front =>
      exact ⟨_, _, _, front, List.prefix_append .., fun _ same => by cases same; rfl⟩
  | rejected front => exact ⟨_, _, _, front, List.prefix_append .., nofun⟩
  | @onward _ _ _ _ result _ front _ back =>
      refine ⟨_, _, _, front.append back, List.prefix_rfl, fun failure same => ?_⟩
      cases result with
      | error => cases same; rfl
      | ok text => cases same

theorem Passes.guarded {pipeline : Pipeline Memory Tokens Parsed Checked} {context : Context}
    {notes : List (Note Tokens Parsed Checked)} {result : Except Failure Outcome}
    (passes : Passes pipeline context notes result) (beyond : pipeline.front.length < notes.length) :
    ∃ gate, pipeline.gate? notes = some gate ∧ gate.left.diagnostics = [] := by
  cases passes with
  | stopped front =>
      have := front.ordered.length_le
      rw [List.length_map] at this
      omega
  | rejected front =>
      have := front.ordered.length_le
      rw [List.length_map] at this
      omega
  | onward front clean _ =>
      obtain ⟨gate, found, left⟩ := front.gate _
      exact ⟨gate, found, left ▸ clean⟩

theorem Follows.generated {pipeline : Pipeline Memory Tokens Parsed Checked} {context last : Context}
    {notes : List (Note Tokens Parsed Checked)} {held next : Handed Tokens Parsed Checked}
    (follows : Follows held context pipeline.back notes (.ok next) last) :
    ∃ note ∈ notes, note.callee = .run .generate ∧ note.result = .ok next := by
  rcases follows.source with ⟨_, none⟩ | ⟨note, member, stage, callee, gave⟩
  · exact absurd (by simp [Pipeline.back, Pipeline.around]) (none .generate)
  · have planned : .run stage ∈ pipeline.back :=
      follows.complete ▸ callee ▸ List.mem_map_of_mem member
    obtain rfl : stage = .generate := by
      simpa [Pipeline.back, Pipeline.around] using planned
    exact ⟨note, member, callee, gave⟩

theorem Passes.ended {pipeline : Pipeline Memory Tokens Parsed Checked} {context : Context}
    {notes : List (Note Tokens Parsed Checked)} {result : Except Failure Outcome}
    (passes : Passes pipeline context notes result)
    (succeed : ∀ note ∈ notes, ∃ value, note.result = .ok value) :
    ∃ gate, pipeline.gate? notes = some gate ∧ Verdict pipeline gate.left notes result := by
  cases passes with
  | stopped front =>
      obtain ⟨note, member, failed⟩ := front.failed
      obtain ⟨value, gave⟩ := succeed note member
      rw [failed] at gave
      cases gave
  | rejected front blocked =>
      obtain ⟨gate, found, rfl⟩ := front.gate []
      rw [List.append_nil] at found
      exact ⟨gate, found, .rejected (List.length_pos_iff.mpr blocked) front.complete⟩
  | @onward _ _ _ _ result _ front clean back =>
      obtain ⟨gate, found, rfl⟩ := front.gate _
      cases result with
      | error failure =>
          obtain ⟨note, member, failed⟩ := Follows.failed back
          obtain ⟨value, gave⟩ := succeed note (List.mem_append_right _ member)
          rw [failed] at gave
          cases gave
      | ok text =>
          obtain ⟨note, member, callee, gave⟩ := Follows.generated back
          refine ⟨gate, found, .generated clean ?_ (List.mem_append_right _ member) callee gave⟩
          rw [List.map_append, front.complete, Follows.complete back]

theorem Passes.gated {pipeline : Pipeline Memory Tokens Parsed Checked} {context : Context}
    {notes : List (Note Tokens Parsed Checked)} {result : Except Failure Outcome}
    (passes : Passes pipeline context notes result) {file : FileId × SourceFile}
    (ready : context.currentSource = .ok file) : Gated pipeline context result notes := by
  obtain ⟨plan, ending, last, follows, planned, failing⟩ := passes.follows
  refine ⟨fun failure none => ?_, follows.ordered.trans planned, passes.guarded,
    fun earlier note later failure split failed => ?_, follows.shared, follows.passed.2,
    fun _ _ => passes.ended⟩
  · rw [ready] at none
    cases none
  · obtain ⟨atEnd, same⟩ := follows.stopped split failed
    exact ⟨atEnd, failing failure same⟩

theorem Gated.of_error (pipeline : Pipeline Memory Tokens Parsed Checked) {context : Context}
    {failure : Failure} (none : context.currentSource = .error failure) :
    Gated pipeline context (.error failure) [] := by
  constructor
  case idle =>
    intro other same
    rw [none] at same
    cases same
    exact ⟨rfl, rfl⟩
  case ended =>
    intro file ready
    rw [none] at ready
    cases ready
  all_goals simp [phaseNotes]

/-- Whatever the phases and the plugins do, a run keeps the contract of the gate, and noting its
invocations does not change it. -/
theorem run_gated (pipeline : Pipeline Memory Tokens Parsed Checked) (session : Session Memory) :
    let watched := pipeline.noted.run session.noting
    pipeline.run session = (watched.1, watched.2.plain) ∧
    Gated pipeline session.context watched.1 watched.2.memory.notes := by
  intro watched
  refine ⟨Forgets.run pipeline session.noting, ?_⟩
  cases ready : session.context.currentSource with
  | ok file => exact (Passes.of_run pipeline session ready).gated ready
  | error failure =>
      have missing : Step.currentSource (session.noting : Session (Notebook Memory Tokens Parsed Checked)) =
          (.error failure, session.noting) := congrArg (·, session.noting) ready
      have ended : watched = (.error failure, session.noting) := by
        change pipeline.noted.run session.noting = _
        rw [Pipeline.run_eq_toGate, Step.bind_of_error missing]
      rw [ended]
      exact .of_error pipeline ready

end StageZero
