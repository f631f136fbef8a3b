import StageZero.Proofs.Gate
import StageZero.Proofs.Histories

/-! Diagnostics are only ever added. Once there is one, every run of every pipeline is rejected at the gate, with
at least as many as there were. -/
namespace StageZero
variable {Memory Other Tokens Parsed Checked α β : Type}

/-! ### Diagnostics along calls -/

def Call.recorded : Call → List Diagnostic
  | .record diagnostics => diagnostics
  | .register .. | .setCurrent _ => []

theorem Call.Turns.diagnostics {directory : List Name} {context next : Context} {call : Call}
    (turns : call.Turns directory context next) :
    next.diagnostics = context.diagnostics ++ call.recorded := by
  cases turns with
  | record diagnostics => rfl
  | known | entered | refused | setCurrent => exact (List.append_nil _).symm

/-- What has been recorded when a session ends stands behind what there was, call by call. -/
theorem Session.Leads.diagnostics {session last : Session Memory} {calls : List Call}
    (leads : session.Leads calls last) :
    last.context.diagnostics = session.context.diagnostics ++ calls.flatMap Call.recorded := by
  induction leads with
  | stay session => exact (List.append_nil _).symm
  | aside _ context _ ih => rw [ih, context]
  | call does _ ih => rw [ih, does.turns.2.diagnostics, List.flatMap_cons, List.append_assoc]

theorem Session.Reaches.keeps {session last : Session Memory} (reaches : session.Reaches last) :
    session.context.diagnostics <+: last.context.diagnostics := by
  obtain ⟨calls, leads⟩ := reaches
  exact ⟨_, leads.diagnostics.symm⟩

/-! ### Pipelines that are noted -/

/-- A session with another memory. -/
def Session.remember (session : Session Memory) (memory : Other) : Session Other := { session with memory := memory }

theorem Step.register_remember (path : Path) (session : Session Memory) (memory : Other) :
    register path (session.remember memory) =
      ((register path session).1, (register path session).2.remember memory) := by
  unfold register Session.remember
  dsimp only
  split <;> rfl

/-- A call does not ask what plugins keep. -/
theorem Call.Does.remember {session next : Session Memory} {call : Call} (does : call.Does session next)
    (memory : Other) : call.Does (session.remember memory) (next.remember memory) := by
  cases call with
  | register path answer =>
      have registered : Step.register path session = (.ok answer, next) := does
      change Step.register path (session.remember memory) = _
      rw [Step.register_remember, registered]
  | setCurrent file =>
      cases does
      rfl
  | record diagnostics =>
      cases does
      rfl

theorem Session.Leads.remember {session last : Session Memory} {calls : List Call} (leads : session.Leads calls last)
    (before after : Other) : (session.remember before).Leads calls (last.remember after) := by
  induction leads with
  | stay session => exact .aside (.stay _) rfl rfl
  | aside _ context directory ih => exact .aside ih context directory
  | call does _ ih => exact .call (does.remember before) ih

theorem Step.Moves.noted {step : Step Memory α} (moves : step.Public) (callee : Callee)
    (given : Handed Tokens Parsed Checked) (take : α → Handed Tokens Parsed Checked) :
    (step.noted callee given take).Public := by
  intro session
  obtain ⟨calls, leads⟩ := moves session.plain
  exact ⟨calls, leads.remember session.memory _⟩

/-- Noting its invocations does not make a pipeline do more. -/
theorem Pipeline.Moves.noted {pipeline : Pipeline Memory Tokens Parsed Checked} (isPublic : pipeline.Public) :
    pipeline.noted.Public where
  lex input := (isPublic.lex input).noted _ _ _
  parse input := (isPublic.parse input).noted _ _ _
  typecheck input := (isPublic.typecheck input).noted _ _ _
  generate input := (isPublic.generate input).noted _ _ _
  hooks plugin member name := by
    obtain ⟨place, inside, rfl⟩ := List.mem_mapIdx.mp member
    obtain ⟨before, after⟩ := isPublic.hooks _ (List.getElem_mem inside) name
    exact ⟨before.noted _ _ _, after.noted _ _ _⟩

/-! ### At the gate -/

theorem Pipeline.toGate_moves {R : Session Memory → Session Memory → Prop} (way : Session.Way R)
    {pipeline : Pipeline Memory Tokens Parsed Checked} (moves : pipeline.Moves R) : pipeline.toGate.Moves R := by
  refine .bind way (.context way) fun _ => ?_
  refine .bind way (Phase.runWith_moves way moves.lex moves.hooks _ _) fun tokens => ?_
  refine .bind way (Phase.runWith_moves way moves.parse moves.hooks _ tokens) fun parsed => ?_
  exact Phase.runWith_moves way moves.typecheck moves.hooks _ parsed

theorem Pipeline.generate_notMem_front (pipeline : Pipeline Memory Tokens Parsed Checked) :
    .run .generate ∉ pipeline.front := by
  simp [front, around]

/-- A session in which no pipeline generates code, and none is rejected with fewer than some number of errors. -/
def Session.Barred (session : Session Memory) (errors : Nat) : Prop :=
  ∀ (Tokens Parsed Checked : Type) (pipeline : Pipeline Memory Tokens Parsed Checked), pipeline.Public →
    let watched := pipeline.noted.run session.noting
    pipeline.run session = (watched.1, watched.2.plain) ∧
      .run .generate ∉ watched.2.memory.notes.map Note.callee ∧
      ∀ outcome, watched.1 = .ok outcome → ∃ count, outcome = .rejected count ∧ errors ≤ count

theorem Session.Barred.mono {session : Session Memory} {errors fewer : Nat} (barred : session.Barred errors)
    (le : fewer ≤ errors) : session.Barred fewer := by
  intro Tokens Parsed Checked pipeline isPublic
  obtain ⟨same, never, rejected⟩ := barred Tokens Parsed Checked pipeline isPublic
  refine ⟨same, never, fun outcome ended => ?_⟩
  obtain ⟨count, counted, enough⟩ := rejected outcome ended
  exact ⟨count, counted, le.trans enough⟩

theorem Session.barred_of_errors {session : Session Memory} (errors : session.context.diagnostics ≠ []) :
    session.Barred session.context.errorCount := by
  intro Tokens Parsed Checked pipeline isPublic
  refine ⟨Forgets.run pipeline session.noting, ?_⟩
  cases ready : session.context.currentSource with
  | error failure =>
      have missing : Step.currentSource (session.noting : Session (Notebook Memory Tokens Parsed Checked)) =
          (.error failure, session.noting) := congrArg (·, session.noting) ready
      rw [Pipeline.run_eq_toGate, Step.bind_of_error missing]
      exact ⟨List.not_mem_nil, nofun⟩
  | ok file =>
      have found : Step.currentSource (session.noting : Session (Notebook Memory Tokens Parsed Checked)) =
          (.ok file, session.noting) := congrArg (·, session.noting) ready
      obtain ⟨notes, added, follows⟩ := Notes.toGate pipeline session.noting
      -- the run that takes the notes makes calls only, too, so at its own gate the diagnostics are still there
      have kept := (Pipeline.toGate_moves reaches_way isPublic.noted session.noting).keeps
      rw [Pipeline.run_eq_toGate, Step.bind_of_ok found]
      rcases toGate : pipeline.noted.toGate session.noting with ⟨result, middle⟩
      rw [toGate] at added follows kept
      change middle.memory.notes = [] ++ notes at added
      rw [List.nil_append] at added
      have front : .run .generate ∉ middle.memory.notes.map Note.callee := fun member =>
        pipeline.generate_notMem_front (follows.ordered.subset (added ▸ member))
      cases result with
      | error failure =>
          rw [Step.bind_of_error toGate]
          exact ⟨front, nofun⟩
      | ok checked =>
          have atGate : Step.context middle = (.ok middle.context, middle) := rfl
          have blocked : middle.context.hasErrors = true := by
            have : middle.context.diagnostics ≠ [] := fun none => errors (List.prefix_nil.mp (none ▸ kept))
            simpa [Context.hasErrors] using this
          rw [Step.bind_of_ok toGate, Step.bind_of_ok atGate]
          simp only [blocked, if_true]
          refine ⟨front, ?_⟩
          rintro _ ⟨⟩
          exact ⟨_, rfl, kept.length_le⟩

/-- A run is rejected with as many errors as there are when it ends. -/
theorem Pipeline.errors_of_rejected {pipeline : Pipeline Memory Tokens Parsed Checked} {start session : Session Memory}
    {count : Nat} (rejected : pipeline.run start = (.ok (.rejected count), session)) :
    session.context.diagnostics ≠ [] ∧ session.context.errorCount = count := by
  rw [run_eq_toGate] at rejected
  -- a run that fails in front of the gate is not rejected, and behind the gate none is
  obtain ⟨_, _, _, whole⟩ | ⟨_, ready, _, whole⟩ := Step.bind_cases _ _ start <;> rw [whole] at rejected
  · cases rejected
  obtain ⟨_, _, _, whole⟩ | ⟨checked, middle, _, whole⟩ := Step.bind_cases _ _ ready <;> rw [whole] at rejected
  · cases rejected
  have atGate : Step.context middle = (.ok middle.context, middle) := rfl
  rw [Step.bind_of_ok atGate] at rejected
  split at rejected
  case isTrue blocked =>
    cases rejected
    exact ⟨by simpa [Context.hasErrors] using blocked, rfl⟩
  case isFalse =>
    obtain ⟨_, _, _, whole⟩ | ⟨_, _, _, whole⟩ := Step.bind_cases _ _ middle <;> rw [whole] at rejected <;>
      cases rejected

/-! ### The compiler alone -/

/-- A session with some diagnostics more, that has shown these lines. -/
def Session.recorded (session : Session Memory) (diagnostics : List Diagnostic) (lines : List String) : Session Memory :=
  { session with context := session.context.record diagnostics, shown := lines }

theorem Session.recorded_recorded (session : Session Memory) (first second : List Diagnostic) (lines more : List String) :
    (session.recorded first lines).recorded second more = session.recorded (first ++ second) more := by
  simp [Session.recorded, Context.record]

namespace Phase
variable {session : Session Memory} {id : FileId} {file : SourceFile}

theorem runWith_alone {phase : Phase Memory α β} {input : α} {output : β} {found : List Diagnostic}
    (ran : phase.run input session = (.ok output, session.recorded found session.shown)) (shown : Bool) :
    ∃ lines, phase.runWith [] shown input session = (.ok output, session.recorded found lines) := by
  have none : Step.each (List.map (fun plugin : Plugin Memory => plugin.before phase.name) []) session =
      (.ok (), session) := rfl
  rw [runWith, Step.bind_of_ok none, Step.bind_of_ok ran]
  cases shown with
  | false => exact ⟨_, rfl⟩
  | true => exact ⟨_, rfl⟩

theorem lex_run (ready : session.context.currentSource = .ok (id, file)) :
    lex.run () session = (.ok (scan id file.contents).stream,
      session.recorded ((scan id file.contents).faults.map Fault.diagnostic) session.shown) := by
  have found : Step.currentSource session = (.ok (id, file), session) := congrArg (·, session) ready
  exact (Step.bind_of_ok found _).trans rfl

theorem parse_run (stream : Stream) (session : Session Memory) :
    parse.run stream session = (.ok (StageZero.parse stream).file,
      session.recorded ((StageZero.parse stream).faults.map Fault.diagnostic) session.shown) := rfl

theorem typecheck_run (ready : session.context.currentSource = .ok (id, file)) (tree : Tree.File) :
    typecheck.run tree session = (.ok (check id tree).value,
      session.recorded ((check id tree).faults.map Fault.diagnostic) session.shown) := by
  have found : Step.currentSource session = (.ok (id, file), session) := congrArg (·, session) ready
  exact (Step.bind_of_ok found _).trans rfl

end Phase

/-- All that is wrong with a source, in the order in which it is found. -/
def findings (id : FileId) (file : SourceFile) : List Diagnostic :=
  let scanned := scan id file.contents
  let parsed := parse scanned.stream
  scanned.faults.map Fault.diagnostic ++ parsed.faults.map Fault.diagnostic ++
    (check id parsed.file).faults.map Fault.diagnostic

/-- Without plugins a run is the scanner, the parser, the checker and the emitter one after the other. -/
theorem Pipeline.builtin_run {session : Session Memory} {id : FileId} {file : SourceFile}
    (ready : session.context.currentSource = .ok (id, file)) (lineMarks : Bool) :
    let program := (check id (StageZero.parse (scan id file.contents).stream).file).value
    let context := session.context.record (findings id file)
    ∃ lines, (builtin lineMarks).run session =
      (.ok (if context.hasErrors then .rejected context.errorCount
        else .generated (Cxx.emit (if lineMarks then some session.context.files else none) program)),
        session.recorded (findings id file) lines) := by
  intro program context
  let scanned := scan id file.contents
  let parsed := StageZero.parse scanned.stream
  obtain ⟨first, lexed⟩ := Phase.runWith_alone (Phase.lex_run ready) session.context.flags.lexer
  let second := session.recorded (scanned.faults.map Fault.diagnostic) first
  obtain ⟨lines, read⟩ := Phase.runWith_alone (Phase.parse_run scanned.stream second) session.context.flags.parser
  let third := second.recorded (parsed.faults.map Fault.diagnostic) lines
  have readyStill : third.context.currentSource = .ok (id, file) := ready
  obtain ⟨more, checked⟩ := Phase.runWith_alone (Phase.typecheck_run readyStill parsed.file)
    session.context.flags.typechecker
  have atGate : third.recorded ((check id parsed.file).faults.map Fault.diagnostic) more =
      session.recorded (findings id file) more := by
    rw [Session.recorded_recorded, Session.recorded_recorded, ← List.append_assoc]
    rfl
  rw [atGate] at checked
  refine ⟨more, ?_⟩
  have found : Step.currentSource session = (.ok (id, file), session) := congrArg (·, session) ready
  rw [run_eq_toGate]
  refine (Step.bind_of_ok found _).trans ?_
  have gated : (builtin lineMarks).toGate session = (.ok program, session.recorded (findings id file) more) :=
    (Step.bind_of_ok lexed _).trans ((Step.bind_of_ok read _).trans checked)
  refine (Step.bind_of_ok gated _).trans ?_
  have seen : Step.context (session.recorded (findings id file) more) = (.ok context, _) := rfl
  refine (Step.bind_of_ok seen _).trans ?_
  cases blocked : context.hasErrors with
  | true => rfl
  | false => rfl

/-- What the compiler without plugins makes of a session. -/
structure Session.Compiles (session : Session Memory) (lineMarks : Bool) : Prop where
  fails : (∃ failure, ((Pipeline.builtin lineMarks).run session).1 = .error failure) ↔
    ∃ failure, session.context.currentSource = .error failure
  ends : ∀ id file, session.context.currentSource = .ok (id, file) →
    let scanned := scan id file.contents
    let parsed := parse scanned.stream
    let checked := check id parsed.file
    let after := ((Pipeline.builtin lineMarks).run session).2.context
    after = session.context.record (scanned.faults.map Fault.diagnostic ++ parsed.faults.map Fault.diagnostic ++
        checked.faults.map Fault.diagnostic) ∧
      ((Pipeline.builtin lineMarks).run session).1 = .ok
        (if session.context.diagnostics = [] ∧ scanned.faults = [] ∧ parsed.faults = [] ∧ checked.faults = [] then
          .generated (Cxx.emit (if lineMarks then some session.context.files else none) checked.value)
        else .rejected after.errorCount)

theorem Session.compiles (session : Session Memory) (lineMarks : Bool) : session.Compiles lineMarks where
  fails := by
    cases ready : session.context.currentSource with
    | error failure =>
        have missing : Step.currentSource session = (.error failure, session) := congrArg (·, session) ready
        rw [Pipeline.run_eq_toGate, Step.bind_of_error missing]
        exact ⟨fun _ => ⟨failure, rfl⟩, fun _ => ⟨failure, rfl⟩⟩
    | ok current =>
        obtain ⟨lines, run⟩ := Pipeline.builtin_run ready lineMarks
        rw [run]
        exact ⟨nofun, nofun⟩
  ends id file ready := by
    obtain ⟨lines, run⟩ := Pipeline.builtin_run ready lineMarks
    rw [run]
    refine ⟨rfl, congrArg Except.ok ?_⟩
    have clean : (session.context.record (findings id file)).hasErrors = true ↔
        ¬(session.context.diagnostics = [] ∧ (scan id file.contents).faults = [] ∧
          (parse (scan id file.contents).stream).faults = [] ∧
          (check id (parse (scan id file.contents).stream).file).faults = []) := by
      simp only [Context.hasErrors, Context.record, findings, Bool.not_eq_true', ← Bool.not_eq_true,
        List.isEmpty_iff, List.append_eq_nil_iff, List.map_eq_nil_iff, and_assoc]
    simp only [clean, ite_not]
    rfl

/-- In every session that once had diagnostics, they stay and no code is generated any more, whatever happens; and
the compiler generates code where there has been none and finds none. -/
theorem history_rejected {session last : Session Memory} {history : List (Happening Memory)} {calls : List Call}
    (lived : session.Lives history calls last) :
    session.context.diagnostics <+: last.context.diagnostics ∧
      (session.context.hasErrors → last.Barred session.context.errorCount) ∧
      (∀ (Tokens Parsed Checked : Type) (pipeline : Pipeline Memory Tokens Parsed Checked) start count,
        pipeline.run start = (.ok (.rejected count), session) → last.Barred count) ∧
      ∀ lineMarks, last.Compiles lineMarks := by
  have kept : session.context.diagnostics <+: last.context.diagnostics := Session.Reaches.keeps ⟨calls, lived.leads⟩
  have barred (errors : session.context.diagnostics ≠ []) : last.Barred session.context.errorCount := by
    have still : last.context.diagnostics ≠ [] := fun none => errors (List.prefix_nil.mp (none ▸ kept))
    exact (Session.barred_of_errors still).mono kept.length_le
  refine ⟨kept, fun errors => barred (by simpa [Context.hasErrors] using errors),
    fun _ _ _ pipeline start count rejected => ?_, last.compiles⟩
  obtain ⟨errors, rfl⟩ := Pipeline.errors_of_rejected rejected
  exact barred errors

/-- A run without a current file after a diagnostic. -/
theorem history_rejected_idle :
    let found : Diagnostic := ⟨"lex", "unterminated string literal", ⟨⟨0⟩, 0, 1⟩, none⟩
    let start : Session Unit := ⟨{ diagnostics := [found] }, .empty, [], [], ()⟩
    let history := [.run (Pipeline.builtin false) (Pipeline.builtin_public false (List.forall_mem_nil _)), .record [found]]
    let last := { start with context := start.context.record [found] }
    start.Lives history [.record [found]] last ∧ start.context.diagnostics <+: last.context.diagnostics ∧
      start.context.hasErrors = true ∧ last.Barred 1 := by
  intro found start history last
  have lived : start.Lives history [.record [found]] last := .run (.stay start) (.record (.stay last))
  obtain ⟨kept, barred, _⟩ := history_rejected lived
  exact ⟨lived, kept, rfl, barred rfl⟩

end StageZero
