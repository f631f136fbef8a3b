import Mathlib.Data.List.Chain
import StageZero.Pipeline.Basic

/-! Pipelines that note what they invoke. Every hook and every phase is wrapped so that it writes
down what it was given and how it ended, and without the notes the run is the same. `Follows` says
what the notes are when invocations are made one after the other as a plan has them. -/
namespace StageZero

/-- The phases of a pipeline, in order. -/
inductive Stage where
  | lex | parse | typecheck | generate
deriving DecidableEq

/-- What a pipeline calls: a phase, or a hook of the plugin at a place in the list of plugins, which
is told the name of a phase. -/
inductive Callee where
  | before (plugin : Nat) (phase : String)
  | run (stage : Stage)
  | after (plugin : Nat) (phase : String)
deriving DecidableEq

/-- What is handed from one phase to the next. -/
inductive Handed (Tokens Parsed Checked : Type) where
  | nothing
  | tokens (value : Tokens)
  | parsed (value : Parsed)
  | checked (value : Checked)
  | text (value : String)

/-- An invocation: what it was given, the context it received, how it ended and the context it
left. A hook is given nothing and gives back nothing. -/
structure Note (Tokens Parsed Checked : Type) where
  callee : Callee
  given : Handed Tokens Parsed Checked
  received : Context
  result : Except Failure (Handed Tokens Parsed Checked)
  left : Context

/-- The memory of plugins that are watched, and the notes so far. -/
structure Notebook (Memory Tokens Parsed Checked : Type) where
  own : Memory
  notes : List (Note Tokens Parsed Checked)

section Definitions
variable {Memory Tokens Parsed Checked α β : Type}

def Session.noting (session : Session Memory) : Session (Notebook Memory Tokens Parsed Checked) :=
  { session with memory := ⟨session.memory, []⟩ }

def Session.plain (session : Session (Notebook Memory Tokens Parsed Checked)) : Session Memory :=
  { session with memory := session.memory.own }

/-- Does what the step does, and notes it as an invocation. -/
def Step.noted (callee : Callee) (given : Handed Tokens Parsed Checked)
    (take : α → Handed Tokens Parsed Checked) (step : Step Memory α) :
    Step (Notebook Memory Tokens Parsed Checked) α := fun session =>
  let (result, after) := step session.plain
  let note := ⟨callee, given, session.context, result.map take, after.context⟩
  (result, { after with memory := ⟨after.memory, session.memory.notes ++ [note]⟩ })

def Step.notedHook (callee : Callee) (step : Step Memory Unit) :
    Step (Notebook Memory Tokens Parsed Checked) Unit :=
  step.noted callee .nothing fun _ => .nothing

def Phase.noted (stage : Stage) (give : α → Handed Tokens Parsed Checked)
    (take : β → Handed Tokens Parsed Checked) (phase : Phase Memory α β) :
    Phase (Notebook Memory Tokens Parsed Checked) α β where
  name := phase.name
  run input := (phase.run input).noted (.run stage) (give input) take
  render := phase.render

def Plugin.noted (place : Nat) (plugin : Plugin Memory) :
    Plugin (Notebook Memory Tokens Parsed Checked) where
  name := plugin.name
  before phase := (plugin.before phase).notedHook (.before place phase)
  after phase := (plugin.after phase).notedHook (.after place phase)

namespace Pipeline

/-- The pipeline with every hook and every phase noted. -/
def noted (pipeline : Pipeline Memory Tokens Parsed Checked) :
    Pipeline (Notebook Memory Tokens Parsed Checked) Tokens Parsed Checked where
  lex := pipeline.lex.noted .lex (fun _ => .nothing) .tokens
  parse := pipeline.parse.noted .parse .tokens .parsed
  typecheck := pipeline.typecheck.noted .typecheck .parsed .checked
  generate := pipeline.generate.noted .generate .checked .text
  plugins := pipeline.plugins.mapIdx Plugin.noted

/-- The invocations around a phase: the hooks before it in the order of the plugins, the phase, and
the hooks after it in the same order. -/
def around (pipeline : Pipeline Memory Tokens Parsed Checked) (stage : Stage) (phase : String) :
    List Callee :=
  pipeline.plugins.mapIdx (fun place _ => .before place phase) ++
    .run stage :: pipeline.plugins.mapIdx fun place _ => .after place phase

def front (pipeline : Pipeline Memory Tokens Parsed Checked) : List Callee :=
  pipeline.around .lex pipeline.lex.name ++ pipeline.around .parse pipeline.parse.name ++
    pipeline.around .typecheck pipeline.typecheck.name

def back (pipeline : Pipeline Memory Tokens Parsed Checked) : List Callee :=
  pipeline.around .generate pipeline.generate.name

end Pipeline
end Definitions

/-! ### Steps -/

section Steps
variable {Memory α β γ : Type}

/-- A bind ends where its first step fails, and goes on from there otherwise. -/
theorem Step.bind_cases (step : Step Memory α) (next : α → Step Memory β) (session : Session Memory) :
    (∃ failure after, step session = (.error failure, after) ∧
      (step >>= next) session = (.error failure, after)) ∨
    ∃ value after, step session = (.ok value, after) ∧ (step >>= next) session = next value after := by
  change (∃ failure after, _ ∧ Step.bind step next session = _) ∨
    ∃ value after, _ ∧ Step.bind step next session = _
  unfold Step.bind
  rcases step session with ⟨result, after⟩
  cases result with
  | error failure => exact .inl ⟨failure, after, rfl, rfl⟩
  | ok value => exact .inr ⟨value, after, rfl, rfl⟩

theorem Step.bind_of_error {step : Step Memory α} {session after : Session Memory} {failure : Failure}
    (ended : step session = (.error failure, after)) (next : α → Step Memory β) :
    (step >>= next) session = (.error failure, after) := by
  change Step.bind step next session = _
  rw [Step.bind, ended]

theorem Step.bind_of_ok {step : Step Memory α} {session after : Session Memory} {value : α}
    (ended : step session = (.ok value, after)) (next : α → Step Memory β) :
    (step >>= next) session = next value after := by
  change Step.bind step next session = _
  rw [Step.bind, ended]

theorem Step.bind_assoc (step : Step Memory α) (next : α → Step Memory β) (last : β → Step Memory γ) :
    step >>= next >>= last = step >>= fun value => next value >>= last := by
  funext session
  rcases Step.bind_cases step next session with
    ⟨failure, after, ended, whole⟩ | ⟨value, after, ended, whole⟩
  · rw [Step.bind_of_error whole, Step.bind_of_error ended]
  · rw [Step.bind_of_ok ended]
    change Step.bind (step >>= next) last session = Step.bind (next value) last after
    rw [Step.bind, Step.bind, whole]

/-- Seen through a view of sessions, the first step is the second. -/
def Step.Through {Other : Type} (view : Session Memory → Session Other) (step : Step Memory α) (other : Step Other α) :
    Prop :=
  ∀ session, other (view session) = ((step session).1, view (step session).2)

theorem Step.Through.bind {Other : Type} {view : Session Memory → Session Other} {step : Step Memory α}
    {other : Step Other α} {next : α → Step Memory β} {onward : α → Step Other β} (first : step.Through view other)
    (later : ∀ value, (next value).Through view (onward value)) : (step >>= next).Through view (other >>= onward) := by
  intro session
  have same := first session
  rcases Step.bind_cases step next session with
    ⟨failure, after, ended, whole⟩ | ⟨value, after, ended, whole⟩
  · rw [ended] at same
    rw [whole, Step.bind_of_error same]
  · rw [ended] at same
    rw [whole, Step.bind_of_ok same]
    exact later value after

end Steps

/-! ### Without the notes -/

section Forgets
variable {Memory Tokens Parsed Checked α β : Type}

/-- Read without its notes, the first step is the second. -/
def Forgets (noting : Step (Notebook Memory Tokens Parsed Checked) α) (step : Step Memory α) : Prop :=
  ∀ session, step session.plain = ((noting session).1, (noting session).2.plain)

theorem Forgets.bind {noting : Step (Notebook Memory Tokens Parsed Checked) α} {step : Step Memory α}
    {onward : α → Step (Notebook Memory Tokens Parsed Checked) β} {next : α → Step Memory β}
    (first : Forgets noting step) (later : ∀ value, Forgets (onward value) (next value)) :
    Forgets (noting >>= onward) (step >>= next) :=
  show (noting >>= onward).Through Session.plain (step >>= next) from .bind first later

theorem Forgets.each (plugins : List (Plugin Memory)) (hook : Plugin Memory → Step Memory Unit)
    (mark : Nat → Callee) :
    Forgets (Step.each (plugins.mapIdx fun place plugin => (hook plugin).notedHook (mark place)) :
      Step (Notebook Memory Tokens Parsed Checked) Unit) (Step.each (plugins.map hook)) := by
  induction plugins generalizing mark with
  | nil => exact fun _ => rfl
  | cons plugin plugins ih =>
      rw [List.mapIdx_cons]
      exact Forgets.bind (fun _ => rfl) fun _ => ih fun place => mark (place + 1)

/-- The hooks of noted plugins are, plugin by plugin, the noted hooks of the plugins. -/
theorem map_noted (noted : Plugin (Notebook Memory Tokens Parsed Checked) →
      Step (Notebook Memory Tokens Parsed Checked) Unit)
    (hook : Plugin Memory → Step Memory Unit) (mark : Nat → Callee)
    (same : ∀ place plugin, noted (Plugin.noted place plugin) = (hook plugin).notedHook (mark place))
    (plugins : List (Plugin Memory)) :
    (plugins.mapIdx Plugin.noted).map noted =
      plugins.mapIdx fun place plugin => (hook plugin).notedHook (mark place) := by
  apply List.ext_getElem?
  intro place
  simp only [List.getElem?_map, List.getElem?_mapIdx, Option.map_map]
  exact congrArg (fun change => Option.map change plugins[place]?) (funext (same place))

theorem runWith_noted (stage : Stage) (give : α → Handed Tokens Parsed Checked)
    (take : β → Handed Tokens Parsed Checked) (phase : Phase Memory α β)
    (plugins : List (Plugin Memory)) (shown : Bool) (input : α) :
    (phase.noted stage give take).runWith (plugins.mapIdx Plugin.noted) shown input = (do
      Step.each (plugins.mapIdx fun place plugin =>
        (plugin.before phase.name).notedHook (.before place phase.name))
      let output ← (phase.run input).noted (.run stage) (give input) take
      if shown then Step.print (phase.render output)
      Step.each (plugins.mapIdx fun place plugin =>
        (plugin.after phase.name).notedHook (.after place phase.name))
      return output) := by
  have before := map_noted
    (fun plugin : Plugin (Notebook Memory Tokens Parsed Checked) => plugin.before phase.name)
    (fun plugin => plugin.before phase.name) _ (fun _ _ => rfl) plugins
  have after := map_noted
    (fun plugin : Plugin (Notebook Memory Tokens Parsed Checked) => plugin.after phase.name)
    (fun plugin => plugin.after phase.name) _ (fun _ _ => rfl) plugins
  rw [← before, ← after]
  rfl

theorem Forgets.runWith (stage : Stage) (give : α → Handed Tokens Parsed Checked)
    (take : β → Handed Tokens Parsed Checked) (phase : Phase Memory α β)
    (plugins : List (Plugin Memory)) (shown : Bool) (input : α) :
    Forgets ((phase.noted stage give take).runWith (plugins.mapIdx Plugin.noted) shown input)
      (phase.runWith plugins shown input) := by
  rw [runWith_noted]
  apply Forgets.bind (Forgets.each plugins _ _)
  intro _
  apply Forgets.bind (fun _ => rfl)
  intro output
  cases shown with
  | false => exact Forgets.bind (Forgets.each plugins _ _) fun _ _ => rfl
  | true =>
      apply Forgets.bind (fun _ => rfl)
      intro _
      exact Forgets.bind (Forgets.each plugins _ _) fun _ _ => rfl

theorem Forgets.run (pipeline : Pipeline Memory Tokens Parsed Checked) :
    Forgets pipeline.noted.run pipeline.run := by
  apply Forgets.bind (fun _ => rfl)
  intro _
  apply Forgets.bind (fun _ => rfl)
  intro context
  apply Forgets.bind (Forgets.runWith _ _ _ _ _ _ _)
  intro tokens
  apply Forgets.bind (Forgets.runWith _ _ _ _ _ _ _)
  intro parsed
  apply Forgets.bind (Forgets.runWith _ _ _ _ _ _ _)
  intro checked
  apply Forgets.bind (fun _ => rfl)
  intro context
  split
  · exact fun _ => rfl
  · exact Forgets.bind (Forgets.runWith _ _ _ _ _ _ _) fun _ _ => rfl

end Forgets

/-! ### What the notes are -/

section Follows
variable {Memory Tokens Parsed Checked α β : Type}

/-- Invocations are made one after the other as a plan has them, each in the context that the one
before it left. A phase is given what is held, and what it gives back is held from then on. The
first invocation that fails is the last. -/
inductive Follows : Handed Tokens Parsed Checked → Context → List Callee →
    List (Note Tokens Parsed Checked) → Except Failure (Handed Tokens Parsed Checked) → Context → Prop
  | done {held context} : Follows held context [] [] (.ok held) context
  | hook {held context callee left plan notes result last} : (∀ stage, callee ≠ .run stage) →
      Follows held left plan notes result last →
      Follows held context (callee :: plan)
        (⟨callee, .nothing, context, .ok .nothing, left⟩ :: notes) result last
  | phase {held context stage next left plan notes result last} :
      Follows next left plan notes result last →
      Follows held context (.run stage :: plan)
        (⟨.run stage, held, context, .ok next, left⟩ :: notes) result last
  | hookFailed {held context callee failure left plan} : (∀ stage, callee ≠ .run stage) →
      Follows held context (callee :: plan)
        [⟨callee, .nothing, context, .error failure, left⟩] (.error failure) left
  | phaseFailed {held context stage failure left plan} :
      Follows held context (.run stage :: plan)
        [⟨.run stage, held, context, .error failure, left⟩] (.error failure) left

namespace Follows
variable {held next : Handed Tokens Parsed Checked} {context middle last : Context}
  {plan more : List Callee} {notes added : List (Note Tokens Parsed Checked)}
  {result : Except Failure (Handed Tokens Parsed Checked)} {failure : Failure}

theorem append (first : Follows held context plan notes (.ok next) middle)
    (later : Follows next middle more added result last) :
    Follows held context (plan ++ more) (notes ++ added) result last := by
  generalize ended : (Except.ok next : Except Failure _) = between at first
  induction first with
  | done =>
      cases ended
      exact later
  | hook isHook _ ih => exact .hook isHook (ih later ended)
  | phase _ ih => exact .phase (ih later ended)
  | hookFailed => cases ended
  | phaseFailed => cases ended

theorem stop (first : Follows held context plan notes (.error failure) last)
    (more : List Callee) : Follows held context (plan ++ more) notes (.error failure) last := by
  generalize ended : (Except.error failure : Except Failure (Handed Tokens Parsed Checked)) = result
    at first
  induction first with
  | done => cases ended
  | hook isHook _ ih => exact .hook isHook (ih ended)
  | phase _ ih => exact .phase (ih ended)
  | hookFailed isHook =>
      cases ended
      exact .hookFailed isHook
  | phaseFailed =>
      cases ended
      exact .phaseFailed

theorem ordered (follows : Follows held context plan notes result last) :
    notes.map Note.callee <+: plan := by
  induction follows with
  | done => exact List.prefix_rfl
  | hook _ _ ih => exact List.cons_prefix_cons.mpr ⟨rfl, ih⟩
  | phase _ ih => exact List.cons_prefix_cons.mpr ⟨rfl, ih⟩
  | hookFailed => exact List.cons_prefix_cons.mpr ⟨rfl, List.nil_prefix⟩
  | phaseFailed => exact List.cons_prefix_cons.mpr ⟨rfl, List.nil_prefix⟩

theorem complete (follows : Follows held context plan notes (.ok next) last) :
    notes.map Note.callee = plan := by
  generalize ended : (Except.ok next : Except Failure _) = result at follows
  induction follows with
  | done => rfl
  | hook _ _ ih => exact congrArg _ (ih ended)
  | phase _ ih => exact congrArg _ (ih ended)
  | hookFailed => cases ended
  | phaseFailed => cases ended

/-- An invocation that fails is the last, and the whole ends as it does. -/
theorem stopped (follows : Follows held context plan notes result last)
    {earlier later : List (Note Tokens Parsed Checked)} {note : Note Tokens Parsed Checked}
    (split : notes = earlier ++ note :: later) (failed : note.result = .error failure) :
    later = [] ∧ result = .error failure := by
  induction follows generalizing earlier with
  | done => simp at split
  | hook _ _ ih | phase _ ih =>
      cases earlier with
      | nil =>
          cases split
          cases failed
      | cons first earlier => exact ih (List.cons.inj split).2
  | hookFailed | phaseFailed =>
      cases earlier with
      | nil =>
          cases split
          cases failed
          exact ⟨rfl, rfl⟩
      | cons first earlier => simp at split

theorem failed (follows : Follows held context plan notes (.error failure) last) :
    ∃ note ∈ notes, note.result = .error failure := by
  generalize ended : (Except.error failure : Except Failure (Handed Tokens Parsed Checked)) = result
    at follows
  induction follows with
  | done => cases ended
  | hook _ _ ih | phase _ ih =>
      obtain ⟨note, member, failed⟩ := ih ended
      exact ⟨note, List.mem_cons_of_mem _ member, failed⟩
  | hookFailed | phaseFailed =>
      cases ended
      exact ⟨_, List.mem_cons_self, rfl⟩

theorem getLast (follows : Follows held context plan notes (.ok next) last) (some : plan ≠ []) :
    ∃ note, notes.getLast? = .some note ∧ note.left = last := by
  generalize ended : (Except.ok next : Except Failure _) = result at follows
  induction follows with
  | done => exact absurd rfl some
  | hook _ later ih | phase later ih =>
      cases later with
      | done => exact ⟨_, rfl, rfl⟩
      | hook | phase =>
          obtain ⟨note, isLast, left⟩ := ih (List.cons_ne_nil _ _) ended
          exact ⟨note, by rw [List.getLast?_cons_cons]; exact isLast, left⟩
      | hookFailed | phaseFailed => cases ended
  | hookFailed | phaseFailed => cases ended

/-- What is held at the end was held at the start or is what a phase gave back. -/
theorem source (follows : Follows held context plan notes (.ok next) last) :
    next = held ∧ (∀ stage, .run stage ∉ plan) ∨
    ∃ note ∈ notes, ∃ stage, note.callee = .run stage ∧ note.result = .ok next := by
  generalize ended : (Except.ok next : Except Failure _) = result at follows
  induction follows with
  | done =>
      cases ended
      exact .inl ⟨rfl, fun _ => List.not_mem_nil⟩
  | hook isHook _ ih =>
      rcases ih ended with ⟨same, none⟩ | ⟨note, member, gave⟩
      · refine .inl ⟨same, fun stage member => ?_⟩
        rcases List.mem_cons.mp member with here | there
        · exact isHook stage here.symm
        · exact none stage there
      · exact .inr ⟨note, List.mem_cons_of_mem _ member, gave⟩
  | phase _ ih =>
      rcases ih ended with ⟨same, _⟩ | ⟨note, member, gave⟩
      · exact .inr ⟨_, List.mem_cons_self, _, rfl, by rw [← ended, same]⟩
      · exact .inr ⟨note, List.mem_cons_of_mem _ member, gave⟩
  | hookFailed | phaseFailed => cases ended

end Follows

def phaseNotes (notes : List (Note Tokens Parsed Checked)) : List (Note Tokens Parsed Checked) :=
  notes.filter fun note => match note.callee with
    | .run _ => true
    | .before .. | .after .. => false

theorem phaseNotes_hook {note : Note Tokens Parsed Checked}
    (isHook : ∀ stage, note.callee ≠ .run stage) (notes : List (Note Tokens Parsed Checked)) :
    phaseNotes (note :: notes) = phaseNotes notes := by
  obtain ⟨callee, given, received, result, left⟩ := note
  cases callee with
  | run stage => exact absurd rfl (isHook stage)
  | before | after => rfl

/-- The first phase is given what is held, and each other phase what the one before it gave back. -/
theorem Follows.passed {held : Handed Tokens Parsed Checked} {context last : Context}
    {plan : List Callee} {notes : List (Note Tokens Parsed Checked)}
    {result : Except Failure (Handed Tokens Parsed Checked)}
    (follows : Follows held context plan notes result last) :
    (∀ first ∈ (phaseNotes notes).head?, first.given = held) ∧
    (phaseNotes notes).IsChain fun earlier later => earlier.result = .ok later.given := by
  induction follows with
  | done => exact ⟨by simp [phaseNotes], .nil⟩
  | hook isHook _ ih =>
      rw [phaseNotes_hook isHook]
      exact ih
  | phase _ ih =>
      refine ⟨by simp [phaseNotes], List.isChain_cons.mpr ⟨?_, ih.2⟩⟩
      intro later isNext
      exact congrArg Except.ok (ih.1 later isNext).symm
  | hookFailed isHook =>
      rw [phaseNotes_hook isHook]
      exact ⟨by simp [phaseNotes], .nil⟩
  | phaseFailed => exact ⟨by simp [phaseNotes], .singleton _⟩

/-- Every invocation receives the context that the one before it left. -/
theorem Follows.shared {held : Handed Tokens Parsed Checked} {context last : Context}
    {plan : List Callee} {notes : List (Note Tokens Parsed Checked)}
    {result : Except Failure (Handed Tokens Parsed Checked)}
    (follows : Follows held context plan notes result last) :
    (∀ first ∈ notes.head?, first.received = context) ∧
    notes.IsChain fun earlier later => later.received = earlier.left := by
  induction follows with
  | done => exact ⟨by simp, .nil⟩
  | hook _ _ ih | phase _ ih => exact ⟨by simp, List.isChain_cons.mpr ⟨ih.1, ih.2⟩⟩
  | hookFailed | phaseFailed => exact ⟨by simp, .singleton _⟩

/-- A step adds notes that follow a plan. If it succeeds, what is held at the end is its value. -/
def Notes (step : Step (Notebook Memory Tokens Parsed Checked) α)
    (held : Handed Tokens Parsed Checked) (plan : List Callee)
    (take : α → Handed Tokens Parsed Checked) : Prop :=
  ∀ session, ∃ notes, (step session).2.memory.notes = session.memory.notes ++ notes ∧
    Follows held session.context plan notes ((step session).1.map take) (step session).2.context

namespace Notes

theorem pure (value : α) (take : α → Handed Tokens Parsed Checked) :
    Notes (Pure.pure value : Step (Notebook Memory Tokens Parsed Checked) α) (take value) [] take :=
  fun _ => ⟨[], (List.append_nil _).symm, .done⟩

theorem print (line : String) (held : Handed Tokens Parsed Checked) :
    Notes (Step.print line : Step (Notebook Memory Tokens Parsed Checked) Unit) held [] fun _ => held :=
  fun _ => ⟨[], (List.append_nil _).symm, .done⟩

theorem bind {step : Step (Notebook Memory Tokens Parsed Checked) α}
    {next : α → Step (Notebook Memory Tokens Parsed Checked) β} {held : Handed Tokens Parsed Checked}
    {plan more : List Callee} {take : α → Handed Tokens Parsed Checked}
    {give : β → Handed Tokens Parsed Checked} (first : Notes step held plan take)
    (later : ∀ value, Notes (next value) (take value) more give) :
    Notes (step >>= next) held (plan ++ more) give := by
  intro session
  obtain ⟨notes, added, follows⟩ := first session
  rcases Step.bind_cases step next session with
    ⟨failure, after, ended, whole⟩ | ⟨value, after, ended, whole⟩
  · rw [ended] at added follows
    rw [whole]
    exact ⟨notes, added, follows.stop more⟩
  · rw [ended] at added follows
    rw [whole]
    obtain ⟨others, addedToo, onward⟩ := later value after
    refine ⟨notes ++ others, ?_, follows.append onward⟩
    rw [addedToo, added, List.append_assoc]

theorem hook (step : Step Memory Unit) {callee : Callee}
    (isHook : ∀ stage, callee ≠ .run stage) (held : Handed Tokens Parsed Checked) :
    Notes (step.notedHook callee) held [callee] fun _ => held := by
  intro session
  refine ⟨_, rfl, ?_⟩
  simp only [Step.notedHook, Step.noted]
  rcases step session.plain with ⟨result, after⟩
  cases result with
  | error failure => exact .hookFailed isHook
  | ok value => exact .hook isHook .done

theorem phase (step : Step Memory α) (stage : Stage) (held : Handed Tokens Parsed Checked)
    (take : α → Handed Tokens Parsed Checked) :
    Notes (step.noted (.run stage) held take) held [.run stage] take := by
  intro session
  refine ⟨_, rfl, ?_⟩
  simp only [Step.noted]
  rcases step session.plain with ⟨result, after⟩
  cases result with
  | error failure => exact .phaseFailed
  | ok value => exact .phase .done

theorem each (plugins : List (Plugin Memory)) (hook : Plugin Memory → Step Memory Unit)
    (mark : Nat → Callee) (areHooks : ∀ place stage, mark place ≠ .run stage)
    (held : Handed Tokens Parsed Checked) :
    Notes (Step.each (plugins.mapIdx fun place plugin => (hook plugin).notedHook (mark place))) held
      (plugins.mapIdx fun place _ => mark place) fun _ => held := by
  induction plugins generalizing mark with
  | nil => exact pure () fun _ => held
  | cons plugin plugins ih =>
      rw [List.mapIdx_cons, List.mapIdx_cons]
      exact (Notes.hook (hook plugin) (areHooks 0) held).bind fun _ =>
        ih (fun place => mark (place + 1)) fun place => areHooks (place + 1)

theorem runWith (pipeline : Pipeline Memory Tokens Parsed Checked) (stage : Stage)
    (give : α → Handed Tokens Parsed Checked) (take : β → Handed Tokens Parsed Checked)
    (phase : Phase Memory α β) (shown : Bool) (input : α) :
    Notes ((phase.noted stage give take).runWith (pipeline.plugins.mapIdx Plugin.noted) shown input)
      (give input) (pipeline.around stage phase.name) take := by
  rw [runWith_noted, Pipeline.around]
  apply bind (each _ _ _ (by nofun) _)
  intro _
  apply (Notes.phase (phase.run input) stage (give input) take).bind
  intro output
  have behind := bind (each pipeline.plugins (fun plugin => plugin.after phase.name)
    (fun place => .after place phase.name) (by nofun) (take output)) fun _ => pure output take
  rw [List.append_nil] at behind
  cases shown with
  | false => exact behind
  | true => exact (print (phase.render output) (take output)).bind fun _ => behind

end Notes
end Follows
end StageZero
