import StageZero.Cxx.Emit
import StageZero.Proofs.Placement
import StageZero.Proofs.Shown

/-! How a text is laid out does not matter behind the scanner. Texts with the same symbols have streams that are alike
in every relation of spans that holds throughout, and what is alike is equal once its places are left out. -/
namespace StageZero

/-! ### Without places -/

def Hint.unplaced (hint : Hint) : Hint := { hint with span := Program.nowhere }

/-- A diagnostic as it is but for where it points. -/
def Diagnostic.unplaced (diagnostic : Diagnostic) : Diagnostic :=
  { diagnostic with span := Program.nowhere, hint := diagnostic.hint.map Hint.unplaced }

namespace Tree
open Program (nowhere)

mutual

def Expression.unplaced : Expression → Expression
  | .call callee arguments _ => .call callee (Expression.unplacedAll arguments) nowhere
  | .variable name _ => .variable name nowhere
  | .number value _ => .number value nowhere
  | .quotation text _ => .quotation text nowhere
  | .garbage _ => .garbage nowhere

def Expression.unplacedAll : List Expression → List Expression
  | [] => []
  | argument :: later => argument.unplaced :: Expression.unplacedAll later

end

def Statement.unplaced : Statement → Statement
  | .let name _ initial => .let name nowhere initial.unplaced
  | .return value _ => .return (value.map Expression.unplaced) nowhere
  | .expression value => .expression value.unplaced

def Named.unplaced (named : Named) : Named := { named with span := nowhere }

def Function.unplaced (function : Function) : Function :=
  ⟨function.name, nowhere, function.returnType.map Named.unplaced, function.body.map Statement.unplaced⟩

/-- A tree as it is but for where its parts stand. -/
def File.unplaced (file : File) : File := ⟨file.functions.map Function.unplaced⟩

end Tree

section
variable {R : Span → Span → Prop}

theorem map_eq_of_alike {α β : Type} {V : α → α → Prop} {f g : α → β}
    (same : ∀ item other, V item other → f item = g other) {items others : List α}
    (alike : List.Forall₂ V items others) : items.map f = others.map g := by
  rw [← List.forall₂_eq_eq_eq]
  exact List.rel_map same alike

theorem option_map_eq_of_alike {α β : Type} {V : α → α → Prop} {f : α → β}
    (same : ∀ item other, V item other → f item = f other) {value other : Option α} (alike : Option.Rel V value other) :
    value.map f = other.map f := by
  cases alike with
  | none => rfl
  | some first => exact congrArg some (same _ _ first)

theorem Diagnostic.Alike.unplaced {diagnostic other : Diagnostic} (alike : diagnostic.Alike R other) :
    diagnostic.unplaced = other.unplaced := by
  have hints : diagnostic.hint.map Hint.unplaced = other.hint.map Hint.unplaced :=
    option_map_eq_of_alike (fun _ _ same => congrArg (Hint.mk · Program.nowhere) same.message) alike.hint
  rw [Diagnostic.unplaced, Diagnostic.unplaced, alike.phase, alike.message, hints]

theorem diagnostics_unplaced {Cause : Type} [Wording Cause] {faults others : List (Fault Cause)}
    (alike : List.Forall₂ (Fault.Alike R) faults others) :
    (faults.map Fault.diagnostic).map Diagnostic.unplaced = (others.map Fault.diagnostic).map Diagnostic.unplaced := by
  rw [List.map_map, List.map_map]
  exact map_eq_of_alike (fun _ _ same => Diagnostic.Alike.unplaced same) alike

namespace Tree

theorem Expression.Alike.unplaced {tree other : Expression} (alike : tree.Alike R other) :
    tree.unplaced = other.unplaced := by
  refine Expression.Alike.induct (motive := fun tree other => tree.unplaced = other.unplaced)
    ?call ?name ?number ?quotation ?garbage alike
  case call =>
    intro callee items others span place alike near
    have all : Expression.unplacedAll items = Expression.unplacedAll others := by
      induction alike with
      | nil => rfl
      | cons first _ ih => rw [Expression.unplacedAll, Expression.unplacedAll, first.2, ih]
    rw [Expression.unplaced, Expression.unplaced, all]
  all_goals exact fun _ => rfl

theorem Statement.Alike.unplaced {statement other : Statement} (alike : statement.Alike R other) :
    statement.unplaced = other.unplaced := by
  cases alike with
  | «let» _ initial => rw [Statement.unplaced, Statement.unplaced, initial.unplaced]
  | returnNothing => rfl
  | «return» value _ => exact congrArg (fun value => Statement.return (some value) Program.nowhere) value.unplaced
  | expression value => exact congrArg Statement.expression value.unplaced

theorem Function.Alike.unplaced {function other : Function} (alike : function.Alike R other) :
    function.unplaced = other.unplaced := by
  have type : function.returnType.map Named.unplaced = other.returnType.map Named.unplaced :=
    option_map_eq_of_alike (fun _ _ same => congrArg (Named.mk · Program.nowhere) same.name) alike.returnType
  have body : function.body.map Statement.unplaced = other.body.map Statement.unplaced :=
    map_eq_of_alike (fun _ _ same => same.unplaced) alike.body
  rw [Function.unplaced, Function.unplaced, alike.name, type, body]

theorem File.Alike.unplaced {file other : File} (alike : file.Alike R other) : file.unplaced = other.unplaced :=
  congrArg File.mk (map_eq_of_alike (fun _ _ same => same.unplaced) alike)

end Tree

namespace Program

theorem Statement.Alike.unplaced {statement other : Statement} (alike : statement.Alike R other) :
    statement.unplaced = other.unplaced := by
  cases alike <;> rfl

theorem Function.Alike.unplaced {function other : Function} (alike : function.Alike R other) :
    function.unplaced = other.unplaced := by
  have body : function.body.map Statement.unplaced = other.body.map Statement.unplaced :=
    map_eq_of_alike (fun _ _ same => same.unplaced) alike.body
  rw [Function.unplaced, Function.unplaced, alike.name, alike.returnType, body]

end Program

theorem Program.Alike.unplaced {program other : Program} (alike : program.Alike R other) :
    program.unplaced = other.unplaced :=
  congrArg Program.mk (map_eq_of_alike (fun _ _ same => same.unplaced) alike)

/-! ### What is generated -/

namespace Cxx

theorem statementLine_eq_of_alike {statement other : Program.Statement} (alike : statement.Alike R other) :
    statementLine statement = statementLine other := by
  cases alike with
  | «let» | expression => rfl
  | @«return» value => cases value <;> rfl

theorem definition_eq_of_alike {sources others : Option Sources}
    (marked : ∀ row like, Program.Statement.Alike R row like → statement sources row = statement others like)
    {function other : Program.Function} (alike : function.Alike R other) :
    definition sources function = definition others other := by
  have rows : function.body.flatMap (statement sources) = other.body.flatMap (statement others) := by
    rw [List.flatMap_def, List.flatMap_def, map_eq_of_alike marked alike.body]
  rw [definition, definition, signature, signature, alike.name, alike.returnType, rows]

theorem entry_eq_of_alike {program other : Program} (alike : program.Alike R other) : entry program = entry other := by
  have found : Option.Rel (Program.Function.Alike R) (program.function? "main") (other.function? "main") :=
    Program.find?_alike (fun _ _ same => by rw [same.name]) alike
  unfold entry
  generalize program.function? "main" = main at found ⊢
  generalize other.function? "main" = like at found ⊢
  cases found with
  | none => rfl
  | some same =>
      dsimp only
      rw [same.returnType]

/-- Programs that are alike are written alike, if their statements have the same line marks. -/
theorem emit_eq_of_alike {sources others : Option Sources}
    (marked : ∀ row like, Program.Statement.Alike R row like → statement sources row = statement others like)
    {program other : Program} (alike : program.Alike R other) : emit sources program = emit others other := by
  have declarations : program.functions.map (fun function => Item.line (signature function ++ ";")) =
      other.functions.map fun function => Item.line (signature function ++ ";") :=
    map_eq_of_alike (fun _ _ same => by rw [signature, signature, same.name, same.returnType]) alike
  have definitions : program.functions.flatMap (definition sources) = other.functions.flatMap (definition others) := by
    rw [List.flatMap_def, List.flatMap_def, map_eq_of_alike (fun _ _ same => definition_eq_of_alike marked same) alike]
  rw [emit, emit, items, items, declarations, definitions, entry_eq_of_alike alike]

/-- Without line marks nothing is written of places. -/
theorem emit_none_eq_of_alike {program other : Program} (alike : program.Alike R other) :
    emit none program = emit none other := by
  refine emit_eq_of_alike (fun row like same => ?_) alike
  rw [statement, statement, statementLine_eq_of_alike same]

end Cxx
end

/-! ### Texts with the same symbols -/

/-- Any two spans. -/
def Span.Any (_first _other : Span) : Prop := True

theorem Span.any_covers : Span.Covers Span.Any := fun _ _ _ _ _ _ => trivial

theorem Stream.alike_of_marks {R : Span → Span → Prop} {stream other : Stream}
    (alike : List.Forall₂ (fun mark like => mark.symbol = like.symbol ∧ R mark.span like.span)
      stream.marks other.marks) : stream.Alike R other := by
  obtain ⟨tokens, stop⟩ := stream
  obtain ⟨others, finish⟩ := other
  -- one stream is at its end just where the other is, since only the end has no symbol
  induction tokens generalizing others with
  | nil =>
      cases others with
      | nil => exact ⟨.nil, (List.forall₂_cons.mp alike).1.2⟩
      | cons like others => exact absurd (List.forall₂_cons.mp alike).1.1 nofun
  | cons token tokens ih =>
      cases others with
      | nil => exact absurd (List.forall₂_cons.mp alike).1.1 nofun
      | cons like others =>
          obtain ⟨⟨symbol, near⟩, later⟩ := List.forall₂_cons.mp alike
          obtain ⟨tokensAlike, ends⟩ := ih others later
          exact ⟨.cons ⟨Option.some.inj symbol, near⟩ tokensAlike, ends⟩

theorem Stream.alike_of_symbols {stream other : Stream}
    (same : stream.marks.map Mark.symbol = other.marks.map Mark.symbol) : stream.Alike Span.Any other := by
  rw [← List.forall₂_eq_eq_eq, List.forall₂_map_left_iff, List.forall₂_map_right_iff] at same
  exact alike_of_marks (same.imp fun _ _ symbol => ⟨symbol, trivial⟩)

/-- Texts with the same symbols in the same order, whatever stands between them and wherever, are read and checked as the
same tree and the same program but for the places in them, with the same diagnostics but for theirs, and without line
marks the same code is generated for both. -/
theorem layout_irrelevant {file id : FileId} {text other : String}
    (same : (scan file text).stream.marks.map Mark.symbol = (scan id other).stream.marks.map Mark.symbol) :
    let parsed := parse (scan file text).stream
    let likewise := parse (scan id other).stream
    let checked := check file parsed.file
    let alike := check id likewise.file
    parsed.file.unplaced = likewise.file.unplaced ∧
    (parsed.faults.map Fault.diagnostic).map Diagnostic.unplaced =
      (likewise.faults.map Fault.diagnostic).map Diagnostic.unplaced ∧
    (checked.faults.map Fault.diagnostic).map Diagnostic.unplaced =
      (alike.faults.map Fault.diagnostic).map Diagnostic.unplaced ∧
    checked.value.unplaced = alike.value.unplaced ∧
    Cxx.emit none checked.value = Cxx.emit none alike.value := by
  intro parsed likewise checked alike
  have streams := Stream.alike_of_symbols same
  have read := parse_alike Span.any_covers streams
  have typed := check_alike_of_scan Span.any_covers trivial streams
  exact ⟨read.file.unplaced, diagnostics_unplaced read.faults, diagnostics_unplaced typed.faults,
    typed.value.unplaced, Cxx.emit_none_eq_of_alike typed.value⟩

/-- Two layouts of a text that defines a function twice and breaks off. -/
theorem layout_irrelevant_twice :
    let text := "function f() \x7b\x7d\nfunction f() \x7b return"
    let other := "  function f ( ) \x7b\x7d//\x7d\t\r\nfunction f()\x7breturn //"
    (scan ⟨0⟩ text).stream.marks.map Mark.symbol = (scan ⟨1⟩ other).stream.marks.map Mark.symbol ∧
      (treeOf ⟨0⟩ text).unplaced = (treeOf ⟨1⟩ other).unplaced ∧
      (programOf ⟨0⟩ text).unplaced = (programOf ⟨1⟩ other).unplaced := by
  intro text other
  have same : (scan ⟨0⟩ text).stream.marks.map Mark.symbol = (scan ⟨1⟩ other).stream.marks.map Mark.symbol := by
    decide +kernel
  obtain ⟨trees, _, _, programs, _⟩ := layout_irrelevant same
  exact ⟨same, trees, programs⟩

end StageZero
