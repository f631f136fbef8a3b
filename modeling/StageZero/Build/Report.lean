import StageZero.Context
import StageZero.Disk.Write
import StageZero.Toolchain.Tool

/-! How a compilation ends, and what is said about it. -/
namespace StageZero

inductive Report where
  /-- Diagnostics stopped the compilation. They have been shown before. -/
  | rejected (errorCount : Nat)
  | emitted (text : String)
  | built (source binary : Path) (prettified : Bool)
  /-- A tool or the built program failed. The generated source is kept. -/
  | buildFailed (source : Path) (failure : ToolFailure)
  | ran (binary : Path) (code : Nat)

/-- One thing that a report says. -/
inductive Report.Part where
  | source (text : String)
  | status (text : String)
  | failure (failure : ToolFailure)

namespace Report

def exitCode : Report → Nat
  | .rejected _ | .buildFailed .. => 1
  | .emitted _ | .built .. => 0
  | .ran _ code => code

def parts : Report → List Part
  | .emitted text => [.source text]
  | .buildFailed source failure =>
    [.failure failure, .status ("note: generated source kept at " ++ source.display)]
  | .rejected _ | .built .. | .ran .. => []

end Report

/-- Why a compilation has no report. -/
inductive CompileFailure where
  | pipeline (failure : Failure)
  | write (failure : WriteFailure)

/-- What failed, and under it why. -/
def CompileFailure.messages : CompileFailure → List String
  | .pipeline failure => ["Pipeline failed", failure.message]
  | .write failure => "Failed to write generated source" :: failure.messages

end StageZero
