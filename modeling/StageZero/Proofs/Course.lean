import StageZero.Build.Compile
import StageZero.Proofs.Moves
import StageZero.Proofs.Writing

/-! The course of a compilation: which programs it launches, what they find on the disk, and what is
reported of them. The launcher may be any function, so nothing is assumed of what programs do. -/
namespace StageZero

/-! ### Launches -/

/-- A launch that came to an end with exit status zero. -/
def Launch.Succeeded (launch : Launch) : Prop := launch.result = .ok (.exited 0)

/-- How a tool failed in a launch, if it did not succeed. -/
def Launch.failure? (tool : Tool) (launch : Launch) : Option ToolFailure :=
  match launch.result with
  | .error cause => some (.unlaunched tool launch.command cause)
  | .ok (.exited 0) => none
  | .ok ending => some (.failed tool launch.command ending)

/-- How a built program could not be launched, if it could not. -/
def Launch.unrun? (program : Path) (launch : Launch) : Option ToolFailure :=
  match launch.result with
  | .error cause => some (.unrun program cause)
  | .ok _ => none

/-- The exit code of a built program. A signal gives none, which counts as one. -/
def Launch.exitCode (launch : Launch) : Nat :=
  match launch.result with
  | .ok (.exited code) => code
  | _ => 1

theorem Launch.failure?_eq_none_iff {tool : Tool} {launch : Launch} :
    launch.failure? tool = none ↔ launch.Succeeded := by
  unfold failure? Succeeded
  split <;> simp_all

theorem Launch.not_succeeded {tool : Tool} {launch : Launch} {failure : ToolFailure}
    (failed : launch.failure? tool = some failure) : ¬ launch.Succeeded := by
  intro succeeded
  rw [failure?_eq_none_iff.mpr succeeded] at failed
  cases failed

/-- A machine on which some launches have been made since another time. -/
structure Machine.Adds (machine after : Machine) (launches : List Launch) : Prop where
  launches : after.launches = machine.launches ++ launches
  directory : after.directory = machine.directory

theorem Machine.Adds.append {machine middle after : Machine} {earlier later : List Launch}
    (first : machine.Adds middle earlier) (second : middle.Adds after later) :
    machine.Adds after (earlier ++ later) where
  launches := by rw [second.launches, first.launches, List.append_assoc]
  directory := second.directory.trans first.directory

/-- A launch of a command on a machine, with the disk that is there. -/
structure Launch.Of (launch : Launch) (machine : Machine) (command : Command) : Prop where
  command : launch.command = command
  found : launch.found = machine.disk

theorem Machine.launch_adds (machine : Machine) (launcher : Launcher) (command : Command) :
    ∃ launch : Launch, launch.Of machine command ∧ machine.Adds (machine.launch launcher command).2 [launch] ∧
      launch.result = (machine.launch launcher command).1 :=
  ⟨_, ⟨rfl, rfl⟩, ⟨rfl, rfl⟩, rfl⟩

theorem Machine.runTool_adds (machine : Machine) (launcher : Launcher) (tool : Tool) (command : Command) :
    ∃ launch : Launch, launch.Of machine command ∧ machine.Adds (machine.runTool launcher tool command).2 [launch] ∧
      (machine.runTool launcher tool command).1 = match launch.failure? tool with
        | none => .ok ()
        | some failure => .error failure := by
  obtain ⟨launch, of, adds, result⟩ := machine.launch_adds launcher command
  refine ⟨launch, of, ?_⟩
  rw [runTool, Launch.failure?, result, of.command]
  generalize machine.launch launcher command = ended at adds ⊢
  rcases ended with ⟨_ | (_ | _) | _, after⟩ <;> exact ⟨adds, rfl⟩

theorem Machine.runBinary_adds (machine : Machine) (launcher : Launcher) (binary : Path) :
    ∃ launch : Launch, launch.Of machine (.run (binary.absolute machine.directory)) ∧
      machine.Adds (machine.runBinary launcher binary).2 [launch] ∧
      (machine.runBinary launcher binary).1 = match launch.unrun? (binary.absolute machine.directory) with
        | none => .ok launch.exitCode
        | some failure => .error failure := by
  obtain ⟨launch, of, adds, result⟩ := machine.launch_adds launcher (.run (binary.absolute machine.directory))
  refine ⟨launch, of, ?_⟩
  rw [runBinary, Launch.unrun?, Launch.exitCode, result]
  generalize machine.launch launcher (.run (binary.absolute machine.directory)) = ended at adds ⊢
  rcases ended with ⟨_ | _ | _, after⟩ <;> exact ⟨adds, rfl⟩

/-! ### Courses -/

/-- The launches of a build: of the compiler, of the formatter and of what was built. -/
structure Course where
  compiler : Launch
  formatter : Option Launch
  binary : Option Launch

namespace Course

def launches (course : Course) : List Launch :=
  course.compiler :: (course.formatter.toList ++ course.binary.toList)

/-- Whether no tool failed. -/
def Equipped (course : Course) : Prop :=
  course.compiler.Succeeded ∧ ∀ launch ∈ course.formatter, launch.Succeeded

/-- The failure of the first tool that failed. -/
def toolFailure? (course : Course) : Option ToolFailure :=
  (course.compiler.failure? .compiler).or (course.formatter.bind (Launch.failure? .formatter))

/-- The first failure of all, or of launching what was built. -/
def failure? (course : Course) (program : Path) : Option ToolFailure :=
  course.toolFailure?.or (course.binary.bind (Launch.unrun? program))

/-- What is reported of a build. -/
def report (course : Course) (config : Config) (directory : List Name) : Report :=
  match course.failure? (config.binaryPath.absolute directory), course.binary with
  | some failure, _ => .buildFailed config.cppPath failure
  | none, none => .built config.cppPath config.binaryPath config.prettify
  | none, some launch => .ran config.binaryPath launch.exitCode

/-- The launches of tools on a machine: of the compiler, and of the formatter if that is asked for and
the compiler succeeded. -/
structure Tools (course : Course) (config : Config) (machine : Machine) : Prop where
  compiles : course.compiler.Of machine
    (.compile config.tools.compiler config.tools.runtime config.binaryPath config.cppPath)
  formats : course.formatter.isSome ↔ config.prettify = true ∧ course.compiler.Succeeded
  formatted : ∀ launch ∈ course.formatter,
    launch.command = .format config.tools.formatter config.tools.style config.cppPath

/-- The launches that a build makes, each if there is need of it, when a text has been written. -/
structure Follows (course : Course) (config : Config) (directory : List Name) (text : String) : Prop where
  compiles : course.compiler.command =
    .compile config.tools.compiler config.tools.runtime config.binaryPath config.cppPath
  /-- What the compiler is given to read is the text. -/
  finds : course.compiler.found.read directory config.cppPath = .ok (Text.octets text)
  formats : course.formatter.isSome ↔ config.prettify = true ∧ course.compiler.Succeeded
  formatted : ∀ launch ∈ course.formatter,
    launch.command = .format config.tools.formatter config.tools.style config.cppPath
  runs : course.binary.isSome ↔ config.mode = .buildAndRun ∧ course.Equipped
  ran : ∀ launch ∈ course.binary, launch.command = .run (config.binaryPath.absolute directory)

theorem toolFailure?_eq_none_iff {course : Course} : course.toolFailure? = none ↔ course.Equipped := by
  rw [toolFailure?, Option.or_eq_none_iff, Launch.failure?_eq_none_iff, Equipped, Option.bind_eq_none_iff]
  simp only [Launch.failure?_eq_none_iff, Option.mem_def]

theorem not_equipped {course : Course} {failure : ToolFailure} (failed : course.toolFailure? = some failure) :
    ¬ course.Equipped := by
  intro equipped
  rw [toolFailure?_eq_none_iff.mpr equipped] at failed
  cases failed

/-- A course goes on from the launches of its tools, on a machine that holds the text. -/
theorem Tools.follows {course : Course} {config : Config} {machine : Machine} {text : String}
    (tools : course.Tools config machine)
    (holds : machine.disk.read machine.directory config.cppPath = .ok (Text.octets text)) (binary : Option Launch)
    (runs : binary.isSome ↔ config.mode = .buildAndRun ∧ course.Equipped)
    (ran : ∀ launch ∈ binary, launch.command = .run (config.binaryPath.absolute machine.directory)) :
    Follows { course with binary } config machine.directory text where
  compiles := tools.compiles.command
  finds := tools.compiles.found ▸ holds
  formats := tools.formats
  formatted := tools.formatted
  runs := runs
  ran := ran

theorem report_of_failure {course : Course} {config : Config} {directory : List Name} {failure : ToolFailure}
    (failed : course.failure? (config.binaryPath.absolute directory) = some failure) :
    course.report config directory = .buildFailed config.cppPath failure := by
  rw [report, failed]

end Course

theorem Machine.runTools_adds (machine : Machine) (launcher : Launcher) (config : Config) :
    ∃ course : Course, course.Tools config machine ∧ course.binary = none ∧
      machine.Adds (machine.runTools launcher config).2 course.launches ∧
      (machine.runTools launcher config).1 = match course.toolFailure? with
        | none => .ok ()
        | some failure => .error failure := by
  obtain ⟨compiler, compiles, adds, result⟩ := machine.runTool_adds launcher .compiler
    (.compile config.tools.compiler config.tools.runtime config.binaryPath config.cppPath)
  rw [runTools]
  generalize machine.runTool launcher .compiler
    (.compile config.tools.compiler config.tools.runtime config.binaryPath config.cppPath) = ended at adds result ⊢
  obtain ⟨ended, middle⟩ := ended
  dsimp only at adds result ⊢
  subst result
  cases failed : compiler.failure? .compiler with
  | some failure =>
      have unneeded : (none : Option Launch).isSome ↔ config.prettify = true ∧ compiler.Succeeded :=
        ⟨nofun, fun both => absurd both.2 (Launch.not_succeeded failed)⟩
      refine ⟨⟨compiler, none, none⟩, ⟨compiles, unneeded, nofun⟩, rfl, adds, ?_⟩
      rw [Course.toolFailure?, failed]
      rfl
  | none =>
      have succeeded := Launch.failure?_eq_none_iff.mp failed
      dsimp only
      split
      case isTrue prettify =>
        obtain ⟨formatter, formats, addsFormatter, ended⟩ := middle.runTool_adds launcher .formatter
          (.format config.tools.formatter config.tools.style config.cppPath)
        refine ⟨⟨compiler, some formatter, none⟩, ⟨compiles, ⟨fun _ => ⟨prettify, succeeded⟩, fun _ => rfl⟩, ?_⟩,
          rfl, adds.append addsFormatter, ?_⟩
        · rintro launch ⟨rfl⟩
          exact formats.command
        · rw [Course.toolFailure?, failed]
          exact ended
      case isFalse plain =>
        have unneeded : (none : Option Launch).isSome ↔ config.prettify = true ∧ compiler.Succeeded :=
          ⟨nofun, fun both => absurd both.1 plain⟩
        refine ⟨⟨compiler, none, none⟩, ⟨compiles, unneeded, nofun⟩, rfl, adds, ?_⟩
        rw [Course.toolFailure?, failed]
        rfl

/-- A build that writes its text follows a course, and reports it. -/
theorem Machine.build_follows (machine : Machine) (launcher : Launcher) (config : Config) (text : String)
    (written : (machine.disk.writeText machine.directory config.cppPath text).failure = none) :
    ∃ course : Course, course.Follows config machine.directory text ∧
      machine.Adds (machine.build launcher config text).2 course.launches ∧
      (machine.build launcher config text).1 = .ok (course.report config machine.directory) := by
  have holds := Disk.read_of_writeText written
  rw [build]
  rw [written]
  generalize (machine.disk.writeText machine.directory config.cppPath text).disk = disk at holds ⊢
  obtain ⟨⟨compiler, formatter, _⟩, tools, rfl, adds, result⟩ :=
    Machine.runTools_adds { machine with disk } launcher config
  have began : machine.Adds { machine with disk } [] := ⟨(List.append_nil _).symm, rfl⟩
  replace adds := began.append adds
  generalize Machine.runTools { machine with disk } launcher config = ended at adds result ⊢
  obtain ⟨ended, middle⟩ := ended
  change ended = _ at result
  subst result
  cases failed : Course.toolFailure? ⟨compiler, formatter, none⟩ with
  | some failure =>
      have follows := tools.follows holds none ⟨nofun, fun both => absurd both.2 (Course.not_equipped failed)⟩ nofun
      refine ⟨_, follows, adds, ?_⟩
      rw [Course.report_of_failure]
      rw [Course.failure?, failed]
      rfl
  | none =>
      have equipped := Course.toolFailure?_eq_none_iff.mp failed
      dsimp only
      split
      case isTrue runs =>
        obtain ⟨launch, of, addsBinary, ended⟩ := middle.runBinary_adds launcher config.binaryPath
        rw [adds.directory] at of ended
        have ran : ∀ run ∈ some launch, run.command = .run (config.binaryPath.absolute machine.directory) := by
          rintro _ ⟨rfl⟩
          exact of.command
        have launches : [] ++ Course.launches ⟨compiler, formatter, none⟩ ++ [launch] =
            Course.launches ⟨compiler, formatter, some launch⟩ := by
          simp [Course.launches]
        replace addsBinary := adds.append addsBinary
        rw [launches] at addsBinary
        refine ⟨_, tools.follows holds (some launch) ⟨fun _ => ⟨runs, equipped⟩, fun _ => rfl⟩ ran, ?_⟩
        have first : Course.toolFailure? ⟨compiler, formatter, some launch⟩ = none := failed
        rw [Course.report, Course.failure?, first]
        generalize middle.runBinary launcher config.binaryPath = outcome at addsBinary ended ⊢
        obtain ⟨outcome, last⟩ := outcome
        change outcome = _ at ended
        subst ended
        dsimp only [Option.none_or, Option.bind_some] at addsBinary ⊢
        cases launch.unrun? (config.binaryPath.absolute machine.directory) with
        | none | some => exact ⟨addsBinary, rfl⟩
      case isFalse stays =>
        have follows := tools.follows holds none ⟨nofun, fun both => absurd both.1 stays⟩ nofun
        refine ⟨_, follows, adds, ?_⟩
        rw [Course.report, Course.failure?, failed]
        rfl

/-! ### Compilations -/

theorem Config.pipeline_moves {R : Session Unit → Session Unit → Prop} (way : Session.Way R)
    (records : ∀ diagnostics, (Step.record diagnostics).Moves R)
    (remembers : ∀ change, (Step.changeMemory change).Moves R) (config : Config) : config.pipeline.run.Moves R := by
  have summary : (Plugin.summary true fun _ (memory : Unit) => memory).Moves R := by
    intro name
    refine ⟨.pure way (), .bind way (.context way) fun context => ?_⟩
    exact .bind way (way.print _) fun _ => remembers _
  rw [pipeline]
  split
  case isTrue => exact Pipeline.builtin_moves way records _ (List.forall_mem_singleton.mpr summary)
  case isFalse => exact Pipeline.builtin_moves way records _ (List.forall_mem_nil _)

theorem Config.disk_of_run (config : Config) (session : Session Unit) :
    (config.pipeline.run session).2.disk = session.disk := by
  have way : Session.Way fun session after : Session Unit => after.disk = session.disk :=
    ⟨fun _ => rfl, fun first second => second.trans first, fun _ _ => rfl⟩
  exact config.pipeline_moves way (fun _ _ => rfl) (fun _ _ => rfl) session

/-- What a compilation does on a machine, by what its pipeline came to. -/
structure Conducted (config : Config) (machine : Machine) (outcome : Except Failure Outcome) (compiled : Compiled) :
    Prop where
  fatal : ∀ failure, outcome = .error failure →
    compiled.result = .error (.pipeline failure) ∧ compiled.machine = machine
  rejected : ∀ count, outcome = .ok (.rejected count) →
    compiled.result = .ok (.rejected count) ∧ compiled.machine = machine
  emitted : ∀ text, outcome = .ok (.generated text) → config.mode = .emit →
    compiled.result = .ok (.emitted text) ∧ compiled.machine = machine
  /-- Where the text cannot be written, nothing is launched. -/
  unwritten : ∀ text failure, outcome = .ok (.generated text) → config.mode ≠ .emit →
    (machine.disk.writeText machine.directory config.cppPath text).failure = some failure →
    compiled.result = .error (.write failure) ∧ compiled.machine.launches = machine.launches
  built : ∀ text, outcome = .ok (.generated text) → config.mode ≠ .emit →
    (machine.disk.writeText machine.directory config.cppPath text).failure = none →
    ∃ course : Course, course.Follows config machine.directory text ∧
      compiled.machine.launches = machine.launches ++ course.launches ∧
      compiled.result = .ok (course.report config machine.directory)

/-- Every compilation is conducted so, whatever the programs do that it launches. -/
theorem compile_conducted (launcher : Launcher) (config : Config) (context : Context) (machine : Machine) :
    Conducted config machine (config.pipeline.run ⟨context, machine.disk, machine.directory, [], ()⟩).1
      (compile launcher config context machine) := by
  have same := config.disk_of_run ⟨context, machine.disk, machine.directory, [], ()⟩
  rw [compile]
  generalize config.pipeline.run ⟨context, machine.disk, machine.directory, [], ()⟩ = run at same ⊢
  obtain ⟨outcome, session⟩ := run
  dsimp only at same ⊢
  rw [same]
  cases outcome with
  | error failure =>
      refine ⟨?_, nofun, nofun, nofun, nofun⟩
      rintro _ ⟨rfl⟩
      exact ⟨rfl, rfl⟩
  | ok outcome =>
      cases outcome with
      | rejected count =>
          refine ⟨nofun, ?_, nofun, nofun, nofun⟩
          rintro _ ⟨rfl⟩
          exact ⟨rfl, rfl⟩
      | generated text =>
          dsimp only
          refine ⟨nofun, nofun, ?_, ?_, ?_⟩
          · rintro _ ⟨rfl⟩ emit
            rw [if_pos emit]
            exact ⟨rfl, rfl⟩
          · rintro _ failure ⟨rfl⟩ builds failed
            rw [if_neg builds, Machine.build]
            dsimp only
            rw [failed]
            exact ⟨rfl, rfl⟩
          · rintro _ ⟨rfl⟩ builds written
            rw [if_neg builds]
            obtain ⟨course, follows, adds, result⟩ := machine.build_follows launcher config text written
            exact ⟨course, follows, adds.launches, result⟩

end StageZero
