import StageZero.Proofs.Accepted
import StageZero.Proofs.Spelling

/-! Accepted texts: those in which no phase finds a fault. -/
namespace StageZero

/-- The tree that is read from a text. -/
def treeOf (file : FileId) (text : String) : Tree.File := (parse (scan file text).stream).file

/-- The program that is checked from the tree of a text. -/
def programOf (file : FileId) (text : String) : Program := (check file (treeOf file text)).value

structure Accepted (file : FileId) (text : String) : Prop where
  scanned : (scan file text).faults = []
  parsed : (parse (scan file text).stream).faults = []
  checked : (check file (treeOf file text)).faults = []

namespace Accepted
variable {file : FileId} {text : String}

theorem derived (accepted : Accepted file text) :
    Tree.Grammar.File (scan file text).stream.tokens (treeOf file text) :=
  Tree.functions_derives _ _ accepted.parsed

theorem typed (accepted : Accepted file text) : Typing.File (treeOf file text) (programOf file text) :=
  Program.file_of_clean (accepted.derived.whole (scan_clean accepted.scanned)) accepted.checked

theorem spellable (accepted : Accepted file text) : (treeOf file text).Each Symbol.Spellable :=
  accepted.derived.each (scan_spellable accepted.scanned)

/-- A text whose tokens derive a tree without type faults. -/
theorem of_derived {tree : Tree.File} (scanned : (scan file text).faults = [])
    (derived : Tree.Grammar.File (scan file text).stream.tokens tree) (checked : (check file tree).faults = []) :
    Accepted file text ∧ treeOf file text = tree := by
  obtain ⟨parsed, read⟩ := (Tree.functions_iff (scan file text).stream.stop _ _).mp derived
  have same : treeOf file text = tree := read
  exact ⟨⟨scanned, parsed, same ▸ checked⟩, same⟩

end Accepted
end StageZero
