import StageZero.Proofs.Moves

/-! What can happen to a session. A context is changed by three calls only: a file is registered, a file is made
the current one, diagnostics are recorded. Phases and plugins may make such calls at any point, and between them
the file system may change. -/
namespace StageZero
variable {Memory Tokens Parsed Checked : Type}

/-! ### Calls -/

/-- A path that is refused leaves the session as it was. -/
def Step.register (path : Path) : Step Memory (Except Complaint FileId) := fun session =>
  match session.context.register session.disk session.directory path with
  | .ok (id, context) => (.ok (.ok id), { session with context := context })
  | .error complaint => (.ok (.error complaint), session)

def Step.setCurrent (file : FileId) : Step Memory Unit := changeContext fun context => context.setCurrent file

/-- A known location keeps its id, an unknown one is given the next id, or it is refused because its file cannot be
read as text. -/
theorem Step.register_cases (path : Path) (session : Session Memory) :
    let location := Location.ofPath session.directory path
    (∃ id, session.context.id? location = some id ∧ register path session = (.ok (.ok id), session)) ∨
    (∃ contents, session.context.id? location = none ∧
      session.disk.readText session.directory location.path = .ok contents ∧
      register path session = (.ok (.ok (session.context.enter location contents).1),
        { session with context := (session.context.enter location contents).2 })) ∨
    ∃ cause, session.context.id? location = none ∧
      session.disk.readText session.directory location.path = .error cause ∧
      register path session = (.ok (.error (.unreadable location cause)), session) := by
  intro location
  unfold register Context.register
  dsimp only
  cases known : session.context.id? location with
  | some id => exact .inl ⟨id, rfl, rfl⟩
  | none =>
      cases read : session.disk.readText session.directory location.path with
      | ok contents => exact .inr (.inl ⟨contents, rfl, rfl, rfl⟩)
      | error cause => exact .inr (.inr ⟨cause, rfl, rfl, rfl⟩)

theorem Step.register_answers (path : Path) (session : Session Memory) :
    ∃ answer, register path session = (.ok answer, (register path session).2) := by
  obtain ⟨id, _, same⟩ | ⟨contents, _, _, same⟩ | ⟨cause, _, _, same⟩ := register_cases path session <;>
    exact ⟨_, same.trans (congrArg (Prod.mk _) (congrArg Prod.snd same).symm)⟩

/-- A call that may change a context, with its answer. -/
inductive Call where
  | register (path : Path) (answer : Except Complaint FileId)
  | setCurrent (file : FileId)
  | record (diagnostics : List Diagnostic)

/-- What a call makes of a session. -/
def Call.Does (session next : Session Memory) : Call → Prop
  | .register path answer => Step.register path session = (.ok answer, next)
  | .setCurrent file => Step.setCurrent file session = (.ok (), next)
  | .record diagnostics => Step.record diagnostics session = (.ok (), next)

/-- What a call makes of a context. -/
inductive Call.Turns (directory : List Name) (context : Context) : Call → Context → Prop
  | known {path id} : context.id? (Location.ofPath directory path) = some id →
      Turns directory context (.register path (.ok id)) context
  | entered {path} (contents : String) : context.id? (Location.ofPath directory path) = none →
      Turns directory context (.register path (.ok (context.enter (Location.ofPath directory path) contents).1))
        (context.enter (Location.ofPath directory path) contents).2
  | refused {path complaint} : Turns directory context (.register path (.error complaint)) context
  | setCurrent (file : FileId) : Turns directory context (.setCurrent file) (context.setCurrent file)
  | record (diagnostics : List Diagnostic) : Turns directory context (.record diagnostics) (context.record diagnostics)

/-- A call changes nothing but the context. -/
theorem Call.Does.turns {session next : Session Memory} {call : Call} (does : call.Does session next) :
    next = { session with context := next.context } ∧
      call.Turns session.directory session.context next.context := by
  cases call with
  | register path answer =>
      obtain ⟨id, known, registered⟩ | ⟨contents, unknown, _, registered⟩ | ⟨cause, _, _, registered⟩ :=
        Step.register_cases path session
      all_goals cases registered.symm.trans does
      · exact ⟨rfl, .known known⟩
      · exact ⟨rfl, .entered contents unknown⟩
      · exact ⟨rfl, .refused⟩
  | setCurrent file =>
      cases does
      exact ⟨rfl, .setCurrent file⟩
  | record diagnostics =>
      cases does
      exact ⟨rfl, .record diagnostics⟩

namespace Session

/-- Where a series of calls leads. Between the calls all may change that is not the context's: the disk, what is
shown, what the plugins keep. Only the working directory stays. -/
inductive Leads : Session Memory → List Call → Session Memory → Prop
  | stay (session) : Leads session [] session
  | aside {session next calls last} : Leads next calls last → next.context = session.context →
      next.directory = session.directory → Leads session calls last
  | call {session call next calls last} : call.Does session next → Leads next calls last →
      Leads session (call :: calls) last

def Reaches (session last : Session Memory) : Prop := ∃ calls, session.Leads calls last

theorem Leads.append {session middle last : Session Memory} {calls more : List Call}
    (first : session.Leads calls middle) (later : middle.Leads more last) : session.Leads (calls ++ more) last := by
  induction first with
  | stay => exact later
  | aside _ context directory ih => exact .aside (ih later) context directory
  | call does _ ih => exact .call does (ih later)

/-- What holds between the contexts before and after each call holds between those before and after all of them. -/
theorem Leads.along {R : Context → Context → Prop} (stay : ∀ context, R context context)
    (onward : ∀ {first second third}, R first second → R second third → R first third)
    (each : ∀ {directory call context next}, Call.Turns directory context call next → R context next)
    {session last : Session Memory} {calls : List Call} (leads : session.Leads calls last) :
    R session.context last.context := by
  induction leads with
  | stay session => exact stay session.context
  | aside _ context _ ih => exact context ▸ ih
  | call does _ ih => exact onward (each does.turns.2) ih

theorem reaches_way : Way (Reaches : Session Memory → Session Memory → Prop) where
  stay session := ⟨[], .stay session⟩
  onward := fun ⟨_, first⟩ ⟨_, later⟩ => ⟨_, first.append later⟩
  print _ _ := ⟨[], .aside (.stay _) rfl rfl⟩

end Session

/-! ### Steps made of calls -/

/-- A step that changes a context by calls only. -/
abbrev Step.Public {α : Type} (step : Step Memory α) : Prop := step.Moves Session.Reaches

/-- A pipeline whose phases and plugins change a context by calls only. -/
abbrev Pipeline.Public (pipeline : Pipeline Memory Tokens Parsed Checked) : Prop := pipeline.Moves Session.Reaches

namespace Step

theorem register_public (path : Path) : (register path : Step Memory _).Public := by
  intro session
  obtain ⟨answer, does⟩ := register_answers path session
  exact ⟨[.register path answer], .call does (.stay _)⟩

theorem setCurrent_public (file : FileId) : (setCurrent file : Step Memory Unit).Public := fun _ =>
  ⟨[.setCurrent file], .call rfl (.stay _)⟩

theorem record_public (diagnostics : List Diagnostic) : (record diagnostics : Step Memory Unit).Public := fun _ =>
  ⟨[.record diagnostics], .call rfl (.stay _)⟩

theorem changeMemory_public (change : Memory → Memory) : (changeMemory change).Public := fun _ =>
  ⟨[], .aside (.stay _) rfl rfl⟩

end Step

theorem Plugin.summary_public (echo : Bool) (keep : String → Memory → Memory) :
    (summary echo keep).Moves Session.Reaches := by
  have way : Session.Way (Session.Reaches : Session Memory → Session Memory → Prop) := Session.reaches_way
  intro name
  refine ⟨.pure way (), .bind way (.context way) fun context => ?_⟩
  have kept := Step.changeMemory_public (keep (summaryLine name context.errorCount))
  cases echo with
  | false => exact kept
  | true => exact .bind way (way.print _) fun _ => kept

/-- The compiler, with whatever plugins that change a context by calls only. -/
theorem Pipeline.builtin_public (lineMarks : Bool) {plugins : List (Plugin Memory)}
    (hooks : ∀ plugin ∈ plugins, plugin.Moves Session.Reaches) :
    ({ Pipeline.builtin lineMarks with plugins := plugins } : Pipeline Memory _ _ _).Public :=
  .builtin Session.reaches_way Step.record_public lineMarks hooks

/-! ### Histories -/

/-- What happens to a session from outside: a call, a run of a pipeline, or a change of the file system. -/
inductive Happening (Memory : Type) : Type 1 where
  | register (path : Path)
  | setCurrent (file : FileId)
  | record (diagnostics : List Diagnostic)
  | run {Tokens Parsed Checked : Type} (pipeline : Pipeline Memory Tokens Parsed Checked) (isPublic : pipeline.Public)
  | disk (disk : Disk)

/-- A history of a session, with all calls that were made in it and the session that it ends with. However a
run of a pipeline ends, what it did stays done. -/
inductive Session.Lives : Session Memory → List (Happening Memory) → List Call → Session Memory → Prop
  | stay (session) : Lives session [] [] session
  | register {session path answer next later calls last} :
      Step.register path session = (.ok answer, next) → Lives next later calls last →
      Lives session (.register path :: later) (.register path answer :: calls) last
  | setCurrent {session file later calls last} :
      Lives { session with context := session.context.setCurrent file } later calls last →
      Lives session (.setCurrent file :: later) (.setCurrent file :: calls) last
  | record {session diagnostics later calls last} :
      Lives { session with context := session.context.record diagnostics } later calls last →
      Lives session (.record diagnostics :: later) (.record diagnostics :: calls) last
  | run {Tokens Parsed Checked : Type} {session later made calls last}
      {pipeline : Pipeline Memory Tokens Parsed Checked} {isPublic : pipeline.Public} :
      session.Leads made (pipeline.run session).2 → Lives (pipeline.run session).2 later calls last →
      Lives session (.run pipeline isPublic :: later) (made ++ calls) last
  | disk {session disk later calls last} : Lives { session with disk := disk } later calls last →
      Lives session (.disk disk :: later) calls last

namespace Session.Lives

theorem leads {session last : Session Memory} {history : List (Happening Memory)} {calls : List Call}
    (lives : session.Lives history calls last) : session.Leads calls last := by
  induction lives with
  | stay session => exact .stay session
  | register does _ ih => exact .call does ih
  | setCurrent _ ih | record _ ih => exact .call rfl ih
  | run made _ ih => exact made.append ih
  | disk _ ih => exact .aside ih rfl rfl

/-- Every history can be lived through from every session. -/
theorem exists_lives (history : List (Happening Memory)) (session : Session Memory) :
    ∃ calls last, session.Lives history calls last := by
  induction history generalizing session with
  | nil => exact ⟨[], session, .stay session⟩
  | cons happening later ih =>
      cases happening with
      | register path =>
          obtain ⟨answer, does⟩ := Step.register_answers path session
          obtain ⟨calls, last, lives⟩ := ih (Step.register path session).2
          exact ⟨_, last, .register does lives⟩
      | setCurrent file =>
          obtain ⟨calls, last, lives⟩ := ih { session with context := session.context.setCurrent file }
          exact ⟨_, last, .setCurrent lives⟩
      | record diagnostics =>
          obtain ⟨calls, last, lives⟩ := ih { session with context := session.context.record diagnostics }
          exact ⟨_, last, .record lives⟩
      | run pipeline isPublic =>
          obtain ⟨made, leads⟩ := isPublic.run reaches_way session
          obtain ⟨calls, last, lives⟩ := ih (pipeline.run session).2
          exact ⟨_, last, .run leads lives⟩
      | disk disk =>
          obtain ⟨calls, last, lives⟩ := ih { session with disk := disk }
          exact ⟨_, last, .disk lives⟩

end Session.Lives

end StageZero
