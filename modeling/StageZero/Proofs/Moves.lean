import StageZero.Pipeline.Phases
import StageZero.Proofs.Invocations

/-! Where a pipeline can take a session: no further than its phases and its plugins go, one after the
other. -/
namespace StageZero

/-- A step that takes every session along a relation. -/
def Step.Moves {Memory α : Type} (R : Session Memory → Session Memory → Prop) (step : Step Memory α) : Prop :=
  ∀ session, R session (step session).2

/-- A relation along which a session may stay, go on, and print. -/
structure Session.Way {Memory : Type} (R : Session Memory → Session Memory → Prop) : Prop where
  stay : ∀ session, R session session
  onward : ∀ {first second third}, R first second → R second third → R first third
  print : ∀ line, (Step.print line).Moves R

variable {Memory Tokens Parsed Checked α β : Type} {R : Session Memory → Session Memory → Prop}

namespace Step.Moves

theorem pure (way : Session.Way R) (value : α) : (Pure.pure value : Step Memory α).Moves R := fun session =>
  way.stay session

theorem bind (way : Session.Way R) {step : Step Memory α} {next : α → Step Memory β} (first : step.Moves R)
    (later : ∀ value, (next value).Moves R) : (step >>= next).Moves R := by
  intro session
  have moved := first session
  rcases Step.bind_cases step next session with
    ⟨failure, after, ended, whole⟩ | ⟨value, after, ended, whole⟩
  · rw [whole]
    rwa [ended] at moved
  · rw [whole]
    rw [ended] at moved
    exact way.onward moved (later value after)

theorem each (way : Session.Way R) {steps : List (Step Memory Unit)} (every : ∀ step ∈ steps, step.Moves R) :
    (Step.each steps).Moves R := by
  induction steps with
  | nil => exact way.stay
  | cons step steps ih =>
      obtain ⟨first, later⟩ := List.forall_mem_cons.mp every
      exact bind way first fun _ => ih later

theorem context (way : Session.Way R) : (Step.context : Step Memory Context).Moves R := way.stay

theorem currentSource (way : Session.Way R) : (Step.currentSource : Step Memory (FileId × SourceFile)).Moves R :=
  way.stay

end Step.Moves

/-- A plugin whose hooks all move sessions along a relation. -/
def Plugin.Moves (R : Session Memory → Session Memory → Prop) (plugin : Plugin Memory) : Prop :=
  ∀ name, (plugin.before name).Moves R ∧ (plugin.after name).Moves R

theorem Phase.runWith_moves (way : Session.Way R) {phase : Phase Memory α β} {plugins : List (Plugin Memory)}
    (runs : ∀ input, (phase.run input).Moves R) (hooks : ∀ plugin ∈ plugins, plugin.Moves R) (shown : Bool)
    (input : α) : (phase.runWith plugins shown input).Moves R := by
  have before : (Step.each (plugins.map fun plugin => plugin.before phase.name)).Moves R :=
    .each way (List.forall_mem_map.mpr fun plugin member => (hooks plugin member phase.name).1)
  have after : (Step.each (plugins.map fun plugin => plugin.after phase.name)).Moves R :=
    .each way (List.forall_mem_map.mpr fun plugin member => (hooks plugin member phase.name).2)
  refine .bind way before fun _ => .bind way (runs input) fun output => ?_
  have behind := Step.Moves.bind way after fun _ => .pure way output
  cases shown with
  | false => exact behind
  | true => exact .bind way (way.print _) fun _ => behind

/-- What the phases and the plugins do, a whole run does. -/
theorem Pipeline.run_moves (way : Session.Way R) {pipeline : Pipeline Memory Tokens Parsed Checked}
    (lex : ∀ input, (pipeline.lex.run input).Moves R) (parse : ∀ input, (pipeline.parse.run input).Moves R)
    (typecheck : ∀ input, (pipeline.typecheck.run input).Moves R)
    (generate : ∀ input, (pipeline.generate.run input).Moves R)
    (hooks : ∀ plugin ∈ pipeline.plugins, plugin.Moves R) : pipeline.run.Moves R := by
  refine .bind way (.currentSource way) fun _ => .bind way (.context way) fun _ => ?_
  refine .bind way (Phase.runWith_moves way lex hooks _ _) fun tokens => ?_
  refine .bind way (Phase.runWith_moves way parse hooks _ tokens) fun parsed => ?_
  refine .bind way (Phase.runWith_moves way typecheck hooks _ parsed) fun checked => ?_
  refine .bind way (.context way) fun context => ?_
  split
  case isTrue => exact .pure way _
  case isFalse => exact .bind way (Phase.runWith_moves way generate hooks _ checked) fun text => .pure way _

/-- A pipeline whose phases and plugins all move sessions along a relation. -/
structure Pipeline.Moves (R : Session Memory → Session Memory → Prop)
    (pipeline : Pipeline Memory Tokens Parsed Checked) : Prop where
  lex : ∀ input, (pipeline.lex.run input).Moves R
  parse : ∀ input, (pipeline.parse.run input).Moves R
  typecheck : ∀ input, (pipeline.typecheck.run input).Moves R
  generate : ∀ input, (pipeline.generate.run input).Moves R
  hooks : ∀ plugin ∈ pipeline.plugins, plugin.Moves R

theorem Pipeline.Moves.run (way : Session.Way R) {pipeline : Pipeline Memory Tokens Parsed Checked}
    (moves : pipeline.Moves R) : pipeline.run.Moves R :=
  run_moves way moves.lex moves.parse moves.typecheck moves.generate moves.hooks

/-- The compiler's phases record diagnostics and do nothing else. -/
theorem Pipeline.Moves.builtin (way : Session.Way R) (records : ∀ diagnostics, (Step.record diagnostics).Moves R)
    (lineMarks : Bool) {plugins : List (Plugin Memory)} (hooks : ∀ plugin ∈ plugins, plugin.Moves R) :
    Pipeline.Moves R
      ({ Pipeline.builtin lineMarks with plugins := plugins } : Pipeline Memory Stream Tree.File Program) where
  lex _ := .bind way (.currentSource way) fun _ => .bind way (records _) fun _ => .pure way _
  parse _ := .bind way (records _) fun _ => .pure way _
  typecheck _ := .bind way (.currentSource way) fun _ => .bind way (records _) fun _ => .pure way _
  generate _ := .bind way (.context way) fun _ => .pure way _
  hooks := hooks

theorem Pipeline.builtin_moves (way : Session.Way R) (records : ∀ diagnostics, (Step.record diagnostics).Moves R)
    (lineMarks : Bool) {plugins : List (Plugin Memory)} (hooks : ∀ plugin ∈ plugins, plugin.Moves R) :
    ({ Pipeline.builtin lineMarks with plugins := plugins } : Pipeline Memory Stream Tree.File Program).run.Moves R :=
  (Moves.builtin way records lineMarks hooks).run way

end StageZero
