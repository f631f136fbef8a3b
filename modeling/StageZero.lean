import StageZero.Main
import StageZero.Pipeline.Scripted
import StageZero.Toolchain.Standin
import StageZero.Proofs.Gate
import StageZero.Proofs.Accepted
import StageZero.Proofs.Spelling
import StageZero.Proofs.Generated
import StageZero.Proofs.Layout
import StageZero.Proofs.Shown
import StageZero.Proofs.Emission
import StageZero.Proofs.Course
import StageZero.Proofs.Scoping
import StageZero.Proofs.Lines
import StageZero.Proofs.Tiling
import StageZero.Proofs.Histories
import StageZero.Proofs.Registry
import StageZero.Proofs.Rejection
import StageZero.Proofs.Bounds
import StageZero.Proofs.LineEndings
import StageZero.Proofs.DebugFlags
import StageZero.Proofs.NormalForm
import StageZero.Proofs.Arrangement
import StageZero.Proofs.Readback
import StageZero.Proofs.Strings
import StageZero.Proofs.Conversions
import StageZero.Proofs.Prefixes
import StageZero.Proofs.Progress
import StageZero.Proofs.Outputs
import StageZero.Proofs.Recovery
import StageZero.Proofs.Extents
import StageZero.Proofs.LineMarks
import StageZero.Proofs.Cascading
import StageZero.Proofs.Reordering
import StageZero.Proofs.Prints
import StageZero.Proofs.Escapes
import StageZero.Proofs.Garbage
import StageZero.Proofs.Numerals
import StageZero.Proofs.Priority
import StageZero.Proofs.Indentation
