import StageZero.Pipeline.Phases

/-! Phases and plugins that do what a script says and keep a journal, so that the order of a
compilation can be watched. -/
namespace StageZero.Scripted

/-- What scripted steps, and a quiet summary beside them, write down. -/
structure Journal where
  entries : List String := []
  summary : List String := []

def note (entry : String) : Step Journal Unit :=
  Step.changeMemory fun journal => { journal with entries := journal.entries ++ [entry] }

/-- A phase records some diagnostics and fails or gives back a text. -/
structure PhaseScript where
  name : String
  errors : Nat
  failure : Option String

/-- The `index`th diagnostic of a phase. -/
def stub (phase : String) (index : Nat) : Diagnostic :=
  ⟨phase, "stub " ++ toString index, ⟨⟨0⟩, index, index + 1⟩, none⟩

/-- The phase of a script. Its output is its name, applied to its input as `describe` shows it. -/
def PhaseScript.phase {α : Type} (script : PhaseScript) (describe : α → String) :
    Phase Journal α String where
  name := script.name
  run input := do
    note ("run " ++ script.name)
    Step.record ((List.range script.errors).map (stub script.name))
    match script.failure with
    | some message => Step.fail (.reported message)
    | none => return script.name ++ "(" ++ describe input ++ ")"
  render := Text.quoted

/-- A plugin may record a diagnostic at one event and fail at one. -/
structure PluginScript where
  name : String
  recordAt : Option String
  failAt : Option String

/-- An event is written as its moment and the phase. -/
def PluginScript.hook (script : PluginScript) (moment phase : String) : Step Journal Unit := do
  let event := moment ++ " " ++ phase
  let count := (← Step.context).errorCount
  note (script.name ++ ": " ++ event ++ " (" ++ toString count ++ " errors)")
  if script.recordAt = some event then
    Step.record [⟨script.name, "hook " ++ event, ⟨⟨0⟩, 0, 0⟩, none⟩]
  if script.failAt = some event then
    Step.fail (.reported (script.name ++ " failed " ++ event))

def PluginScript.plugin (script : PluginScript) : Plugin Journal where
  name := script.name
  before := script.hook "before"
  after := script.hook "after"

def summary : Plugin Journal :=
  .summary false fun line journal => { journal with summary := journal.summary ++ [line] }

/-- A pipeline of scripts, with a quiet summary behind the other plugins. -/
def pipeline (lex parse typecheck generate : PhaseScript) (plugins : List PluginScript) :
    Pipeline Journal String String String where
  lex := lex.phase fun _ => "()"
  parse := parse.phase Text.quoted
  typecheck := typecheck.phase Text.quoted
  generate := generate.phase Text.quoted
  plugins := plugins.map PluginScript.plugin ++ [summary]

end StageZero.Scripted
