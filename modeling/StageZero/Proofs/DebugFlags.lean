import StageZero.CommandLine.Run
import StageZero.Proofs.Invocations

/-! Debug output. A flag makes a run show more lines and does nothing else: with the flags and the lines left out of
sight, a run with some flags is the run with none. -/
namespace StageZero

/-! ### Out of sight -/

section
variable {Memory Tokens Parsed Checked α β : Type}

def Context.unflagged (context : Context) : Context := { context with flags := {} }

/-- A session with no flags, that has shown nothing. -/
def Session.hushed (session : Session Memory) : Session Memory :=
  { session with context := session.context.unflagged, shown := [] }

/-- With flags and lines out of sight, the first step is the second. -/
def Step.Hushed (step quiet : Step Memory α) : Prop := step.Through Session.hushed quiet

/-- A step that does not ask for the flags or the lines. -/
def Step.Steady (step : Step Memory α) : Prop := step.Hushed step

/-- A step that at most shows lines. -/
def Step.Silent (step : Step Memory Unit) : Prop := step.Hushed (pure ())

def Plugin.Silent (plugin : Plugin Memory) : Prop :=
  ∀ name, (plugin.before name).Silent ∧ (plugin.after name).Silent

namespace Step.Hushed

theorem bind {step quiet : Step Memory α} {next onward : α → Step Memory β} (first : step.Hushed quiet)
    (later : ∀ value, (next value).Hushed (onward value)) : (step >>= next).Hushed (quiet >>= onward) :=
  Through.bind first later

theorem pure (value : α) : (Pure.pure value : Step Memory α).Steady := fun _ => rfl

theorem currentSource : (Step.currentSource : Step Memory (FileId × SourceFile)).Steady := fun _ => rfl

theorem record (diagnostics : List Diagnostic) : (Step.record diagnostics : Step Memory Unit).Steady := fun _ => rfl

theorem print (line : String) : (Step.print line : Step Memory Unit).Silent := fun _ => rfl

/-- What goes on from the context goes on, out of sight, from the context without flags. -/
theorem context {next onward : Context → Step Memory α}
    (later : ∀ context, (next context).Hushed (onward context.unflagged)) :
    (Step.context >>= next).Hushed (Step.context >>= onward) := fun session => later session.context session

/-- A silent step may stand in front. -/
theorem behind {step : Step Memory Unit} {next quiet : Step Memory α} (silent : step.Silent)
    (later : next.Hushed quiet) : (step >>= fun _ => next).Hushed quiet :=
  show (step >>= fun _ => next).Hushed (Pure.pure () >>= fun _ => quiet) from bind silent fun _ => later

theorem each {steps : List (Step Memory Unit)} (silent : ∀ step ∈ steps, step.Silent) : (Step.each steps).Silent := by
  induction steps with
  | nil => exact pure ()
  | cons step steps ih =>
      obtain ⟨first, later⟩ := List.forall_mem_cons.mp silent
      exact behind first (ih later)

end Step.Hushed

/-- A phase between silent hooks, whose output may be shown, is the phase alone. -/
theorem Phase.runWith_hushed {phase : Phase Memory α β} {plugins : List (Plugin Memory)} {input : α}
    (runs : (phase.run input).Steady) (hooks : ∀ plugin ∈ plugins, plugin.Silent) (shown : Bool) :
    (phase.runWith plugins shown input).Hushed (phase.runWith [] false input) := by
  have before : (Step.each (plugins.map fun plugin => plugin.before phase.name)).Silent :=
    .each (List.forall_mem_map.mpr fun plugin member => (hooks plugin member phase.name).1)
  have after : (Step.each (plugins.map fun plugin => plugin.after phase.name)).Silent :=
    .each (List.forall_mem_map.mpr fun plugin member => (hooks plugin member phase.name).2)
  refine .bind before fun _ => .bind runs fun output => ?_
  have behind := Step.Hushed.bind after fun _ => .pure output
  cases shown with
  | false => exact behind
  | true => exact .behind (.print _) behind

/-- A pipeline whose phases do not ask for the flags or the lines. -/
structure Pipeline.Steady (pipeline : Pipeline Memory Tokens Parsed Checked) : Prop where
  lex : ∀ input, (pipeline.lex.run input).Steady
  parse : ∀ input, (pipeline.parse.run input).Steady
  typecheck : ∀ input, (pipeline.typecheck.run input).Steady
  generate : ∀ input, (pipeline.generate.run input).Steady

def Pipeline.bare (pipeline : Pipeline Memory Tokens Parsed Checked) : Pipeline Memory Tokens Parsed Checked :=
  { pipeline with plugins := [] }

/-- Out of sight, a run with silent plugins is the run without plugins and without flags. -/
theorem Pipeline.run_hushed {pipeline : Pipeline Memory Tokens Parsed Checked} (steady : pipeline.Steady)
    (hooks : ∀ plugin ∈ pipeline.plugins, plugin.Silent) : pipeline.run.Hushed pipeline.bare.run := by
  refine .bind .currentSource fun _ => .context fun context => ?_
  refine .bind (Phase.runWith_hushed (steady.lex ()) hooks _) fun tokens => ?_
  refine .bind (Phase.runWith_hushed (steady.parse tokens) hooks _) fun parsed => ?_
  refine .bind (Phase.runWith_hushed (steady.typecheck parsed) hooks _) fun checked => ?_
  refine .context fun context => ?_
  change Step.Hushed _ (if context.hasErrors then pure (Outcome.rejected context.errorCount) else _)
  split
  case isTrue => exact .pure _
  case isFalse => exact .bind (Phase.runWith_hushed (steady.generate checked) hooks _) fun _ => .pure _

theorem Pipeline.Steady.builtin (lineMarks : Bool) :
    (Pipeline.builtin lineMarks : Pipeline Memory Stream Tree.File Program).Steady where
  lex _ := .bind .currentSource fun _ => .bind (.record _) fun _ => .pure _
  parse _ := .bind (.record _) fun _ => .pure _
  typecheck _ := .bind .currentSource fun _ => .bind (.record _) fun _ => .pure _
  generate _ := .context fun _ => .pure _

theorem Pipeline.Steady.withPlugin {pipeline : Pipeline Memory Tokens Parsed Checked} (steady : pipeline.Steady)
    (plugin : Plugin Memory) : (pipeline.withPlugin plugin).Steady :=
  ⟨steady.lex, steady.parse, steady.typecheck, steady.generate⟩

end

/-! ### Compilations -/

/-- The configuration with other flags. -/
def Config.flagged (config : Config) (flags : DebugFlags) : Config := { config with flags := flags }

theorem Plugin.summary_silent : (Plugin.summary true fun _ (memory : Unit) => memory).Silent := fun _ =>
  ⟨.pure (), fun _ => rfl⟩

theorem Config.pipeline_steady (config : Config) : config.pipeline.Steady := by
  rw [pipeline]
  split
  case isTrue => exact .withPlugin (.builtin _) _
  case isFalse => exact .builtin _

theorem Config.pipeline_silent (config : Config) : ∀ plugin ∈ config.pipeline.plugins, plugin.Silent := by
  rw [pipeline]
  split
  case isTrue => exact List.forall_mem_singleton.mpr Plugin.summary_silent
  case isFalse => exact List.forall_mem_nil _

theorem Config.pipeline_bare (config : Config) : config.pipeline.bare = (config.flagged {}).pipeline := by
  rw [pipeline]
  split <;> rfl

theorem Config.run_hushed (config : Config) : config.pipeline.run.Hushed (config.flagged {}).pipeline.run :=
  config.pipeline_bare ▸ Pipeline.run_hushed config.pipeline_steady config.pipeline_silent

/-- The same compilation with fewer lines shown, which all come first. -/
structure Compiled.Quieter (loud quiet : Compiled) : Prop where
  result : quiet.result = loud.result
  context : quiet.context = loud.context.unflagged
  machine : quiet.machine = loud.machine
  notices : quiet.notices <:+ loud.notices

theorem Machine.build_flagged (machine : Machine) (launcher : Launcher) (config : Config) (flags : DebugFlags)
    (text : String) : machine.build launcher (config.flagged flags) text = machine.build launcher config text := rfl

theorem compile_quieter (launcher : Launcher) (config : Config) (context : Context) (machine : Machine) :
    (compile launcher config context machine).Quieter
      (compile launcher (config.flagged {}) context.unflagged machine) := by
  have same := config.run_hushed ⟨context, machine.disk, machine.directory, [], ()⟩
  change (config.flagged {}).pipeline.run ⟨context.unflagged, machine.disk, machine.directory, [], ()⟩ = _ at same
  rw [compile, compile, same]
  generalize config.pipeline.run ⟨context, machine.disk, machine.directory, [], ()⟩ = run
  obtain ⟨outcome, session⟩ := run
  cases outcome with
  | error failure => exact ⟨rfl, rfl, rfl, List.nil_suffix⟩
  | ok outcome =>
      cases outcome with
      | rejected count => exact ⟨rfl, rfl, rfl, List.suffix_append _ _⟩
      | generated text =>
          have mode : (config.flagged {}).mode = config.mode := rfl
          dsimp only
          rw [mode, Machine.build_flagged]
          split
          case isTrue => exact ⟨rfl, rfl, rfl, List.suffix_append _ _⟩
          case isFalse => exact ⟨rfl, rfl, rfl, List.suffix_append _ _⟩

/-! ### Runs -/

/-- What a configuration compiles, if its input can be registered. -/
def Config.compiled (config : Config) (launcher : Launcher) (machine : Machine) : Except Complaint Compiled :=
  let start : Context := { flags := config.flags }
  match start.register machine.disk machine.directory config.input.path with
  | .error complaint => .error complaint
  | .ok (id, context) => .ok (compile launcher config (context.setCurrent id) machine)

/-- What the program says of a compilation. -/
def Compiled.run (compiled : Compiled) : Run :=
  match compiled.result with
  | .error failure =>
    { exitCode := 1, notices := compiled.notices ++ [.failure failure], machine := compiled.machine }
  | .ok report =>
    { exitCode := report.exitCode
      output := String.join (report.parts.map Report.Part.output)
      notices := compiled.notices ++ report.parts.flatMap Report.Part.notices
      machine := compiled.machine }

/-- A run is a compilation and what is said of it, or the complaint about its input. -/
theorem Config.perform_eq (config : Config) (launcher : Launcher) (machine : Machine) :
    config.perform launcher machine =
      match config.compiled launcher machine with
      | .error complaint => { exitCode := 1, notices := [.complaint complaint], machine := machine }
      | .ok compiled => compiled.run := by
  unfold perform compiled
  dsimp only
  generalize Context.register _ _ _ _ = registered
  cases registered with
  | error complaint => rfl
  | ok entered => rfl

/-- What is written to the error stream. -/
def Run.errors (run : Run) : String := String.join (run.notices.map Notice.render)

/-- The same run, with less on the error stream in front. -/
structure Run.Quieter (loud quiet : Run) : Prop where
  exitCode : quiet.exitCode = loud.exitCode
  output : quiet.output = loud.output
  machine : quiet.machine = loud.machine
  notices : quiet.notices <:+ loud.notices

theorem Compiled.Quieter.run {loud quiet : Compiled} (quieter : loud.Quieter quiet) : loud.run.Quieter quiet.run := by
  obtain ⟨lines, notices⟩ := quieter.notices
  unfold Compiled.run
  rw [quieter.result, quieter.machine, ← notices]
  cases loud.result with
  | error failure => exact ⟨rfl, rfl, rfl, lines, (List.append_assoc ..).symm⟩
  | ok report => exact ⟨rfl, rfl, rfl, lines, (List.append_assoc ..).symm⟩

theorem Context.register_unflagged (context : Context) (disk : Disk) (directory : List Name) (path : Path) :
    context.unflagged.register disk directory path =
      (context.register disk directory path).map fun entered => (entered.1, entered.2.unflagged) := by
  have known : context.unflagged.id? (Location.ofPath directory path) = context.id? (Location.ofPath directory path) :=
    rfl
  unfold register
  dsimp only
  rw [known]
  split
  case h_1 => rfl
  case h_2 => split <;> rfl

/-- Either the input cannot be registered, whatever the flags, or a compilation with flags goes on as one without. -/
theorem Config.compiled_cases (config : Config) (launcher : Launcher) (machine : Machine) :
    (∃ complaint, config.compiled launcher machine = .error complaint ∧
      (config.flagged {}).compiled launcher machine = .error complaint) ∨
    ∃ loud quiet, config.compiled launcher machine = .ok loud ∧
      (config.flagged {}).compiled launcher machine = .ok quiet ∧ loud.Quieter quiet := by
  have registered := Context.register_unflagged { flags := config.flags } machine.disk machine.directory
    config.input.path
  change Context.register {} machine.disk machine.directory (config.flagged {}).input.path = _ at registered
  unfold compiled
  dsimp only [flagged] at registered ⊢
  rw [registered]
  generalize Context.register _ _ _ _ = entered
  cases entered with
  | error complaint => exact .inl ⟨complaint, rfl, rfl⟩
  | ok entered => exact .inr ⟨_, _, rfl, rfl, compile_quieter launcher config (entered.2.setCurrent entered.1) machine⟩

theorem Config.perform_quieter (config : Config) (launcher : Launcher) (machine : Machine) :
    (config.perform launcher machine).Quieter ((config.flagged {}).perform launcher machine) := by
  rw [perform_eq, perform_eq]
  obtain ⟨complaint, failed, failedQuiet⟩ | ⟨loud, quiet, compiled, compiledQuiet, quieter⟩ :=
    config.compiled_cases launcher machine
  · rw [failed, failedQuiet]
    exact ⟨rfl, rfl, rfl, List.suffix_rfl⟩
  · rw [compiled, compiledQuiet]
    exact quieter.run

/-- What a compilation came to, and the diagnostics that it recorded. -/
def Compiled.findings (compiled : Compiled) : Except CompileFailure Report × List Diagnostic :=
  (compiled.result, compiled.context.diagnostics)

theorem Config.findings_flagged (config : Config) (launcher : Launcher) (machine : Machine) :
    ((config.flagged {}).compiled launcher machine).map Compiled.findings =
      (config.compiled launcher machine).map Compiled.findings := by
  obtain ⟨complaint, failed, failedQuiet⟩ | ⟨loud, quiet, compiled, compiledQuiet, quieter⟩ :=
    config.compiled_cases launcher machine
  · rw [failed, failedQuiet]
  · have diagnostics : quiet.context.diagnostics = loud.context.diagnostics := by
      rw [quieter.context]
      rfl
    rw [compiled, compiledQuiet]
    exact congrArg Except.ok (congrArg₂ Prod.mk quieter.result diagnostics)

/-- Debug output never influences a compilation. With any two settings of the flags a run writes the same output and
ends with the same exit code, it leaves the same machine, that is the same files and the same launches, and it compiles
to the same report with the same diagnostics; and on the error stream the flags only put something in front of what is
written without them. -/
theorem flags_only_add_output (launcher : Launcher) (machine : Machine) (config : Config) (flags other : DebugFlags) :
    let first := config.flagged flags
    let second := config.flagged other
    let run := first.perform launcher machine
    let again := second.perform launcher machine
    run.output = again.output ∧ run.exitCode = again.exitCode ∧ run.machine = again.machine ∧
      (first.compiled launcher machine).map Compiled.findings =
        (second.compiled launcher machine).map Compiled.findings ∧
      ∃ front, run.errors = front ++ ((config.flagged {}).perform launcher machine).errors := by
  intro first second run again
  have quiet : run.Quieter ((config.flagged {}).perform launcher machine) := first.perform_quieter launcher machine
  have quietAgain : again.Quieter ((config.flagged {}).perform launcher machine) :=
    second.perform_quieter launcher machine
  obtain ⟨lines, notices⟩ := quiet.notices
  refine ⟨quiet.output.symm.trans quietAgain.output, quiet.exitCode.symm.trans quietAgain.exitCode,
    quiet.machine.symm.trans quietAgain.machine, ?_, String.join (lines.map Notice.render), ?_⟩
  · exact (first.findings_flagged launcher machine).symm.trans (second.findings_flagged launcher machine)
  · rw [Run.errors, Run.errors, ← notices, List.map_append, String.join_append]

end StageZero
