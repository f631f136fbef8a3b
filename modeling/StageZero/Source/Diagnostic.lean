import StageZero.Source.Span

/-! What is wrong with a source: a cause at a place, and the wording that a reader sees. -/
namespace StageZero

/-- A cause found at a span. Each stage has its own type of causes. -/
structure Fault (Cause : Type) where
  cause : Cause
  span : Span

/-- A second place that helps to understand a diagnostic. -/
structure Hint where
  message : String
  span : Span

/-- A worded fault, with the name of the phase that found it. -/
structure Diagnostic where
  phase : String
  message : String
  span : Span
  hint : Option Hint := none

def Diagnostic.display (d : Diagnostic) : String :=
  match d.hint with
  | none => "error: " ++ d.message
  | some hint => "error: " ++ d.message ++ " (hint: " ++ hint.message ++ ")"

/-- How a stage words its causes. -/
class Wording (Cause : Type) where
  phase : String
  message : Cause → String
  hint : Cause → Option Hint := fun _ => none

def Fault.diagnostic {Cause : Type} [Wording Cause] (fault : Fault Cause) : Diagnostic :=
  ⟨Wording.phase Cause, Wording.message fault.cause, fault.span, Wording.hint fault.cause⟩

end StageZero
