import Mathlib.Data.List.TakeDrop
import StageZero.Config
import StageZero.Proofs.NormalForm

/-! Where a build puts what it writes. The outputs are called like the input, up to the last dot of its name,
and stand in the directory for outputs. It goes wrong for names of which too little is left before the dot to
call a file by it. -/
namespace StageZero
open Text (Octets)

namespace Path

/-- A name is a path of one part, unless it is empty. -/
theorem parts_segment {segment : Octets} (whole : slash ∉ segment) :
    parts ⟨segment⟩ = (Part.ofSegment? segment).toList := by
  have alone := parts_joined (List.forall_mem_singleton.mpr whole)
  have spelled : joined [segment] = segment := by simp [joined]
  rw [spelled] at alone
  rw [alone]
  cases h : Part.ofSegment? segment <;> simp [h]

theorem isRooted_segment {segment : Octets} (whole : slash ∉ segment) : isRooted ⟨segment⟩ = false := by
  cases segment with
  | nil => rfl
  | cons byte segment =>
      rw [List.mem_cons, not_or] at whole
      simpa [isRooted, eq_comm] using whole.1

theorem Proper.append {front back : Octets} (whole : slash ∉ front ++ back) (long : 2 < back.length) :
    Proper (front ++ back) := by
  refine ⟨?_, whole, ?_, ?_⟩
  all_goals
    intro same
    have lengths := congrArg List.length same
    simp only [List.length_append, List.length_cons, List.length_nil] at lengths
    omega

end Path

namespace Location
open StageZero.Path (Proper Part slash dot)

/-- A name with something behind its last dot, and something before it. -/
theorem eq_of_cut {name extension : Name} (cuts : (cut name).2 = some extension) :
    name = (cut name).1 ++ dot :: extension ∧ (cut name).1 ≠ [] := by
  have whole : _ ++ _ = name.reverse := List.takeWhile_append_dropWhile (p := fun byte => decide (byte ≠ dot))
  have stops := List.head?_dropWhile_not (fun byte => decide (byte ≠ dot)) name.reverse
  unfold cut at cuts ⊢
  rw [List.span_eq_takeWhile_dropWhile] at cuts ⊢
  generalize name.reverse.takeWhile _ = behind at cuts whole ⊢
  generalize name.reverse.dropWhile _ = found at cuts whole stops ⊢
  dsimp only at cuts ⊢
  split at cuts
  case h_1 => cases cuts
  case h_2 => cases cuts
  case h_3 byte before some =>
    obtain rfl : byte = dot := by simpa using stops
    cases cuts
    have reversed := congrArg List.reverse whole
    rw [List.reverse_reverse] at reversed
    refine ⟨?_, ?_⟩
    · simp [← reversed]
    · intro empty
      exact some (List.reverse_eq_nil_iff.mp empty)

/-- The directory that a location is in. The root is in none. -/
def directory? : Location → Option Location
  | .nowhere => none
  | .rooted names => if names = [] then none else some (.rooted names.dropLast)

@[simp] theorem directory?_below (names : List Name) (name : Name) :
    (rooted (names ++ [name])).directory? = some (rooted names) := by
  simp [directory?]

/-- The number of names on the way to a location. -/
def depth : Location → Nat
  | .nowhere => 0
  | .rooted names => names.length

theorem depth_lt_of_directory? {location directory : Location} (inside : location.directory? = some directory) :
    directory.depth < location.depth := by
  cases location with
  | nowhere => cases inside
  | rooted names =>
      cases names using List.reverseRecOn with
      | nil => cases inside
      | append_singleton names name =>
          rw [directory?_below] at inside
          cases inside
          simp [depth]

@[simp] theorem basename_below (names : List Name) (name : String) :
    (rooted (names ++ [Text.octets name])).basename = name := by
  simp [basename, lastName?]

variable {directory : List Name} {base : Path} {segment : Octets}

/-- What stands below a directory under a name is where the name leads to from there. -/
theorem ofPath_join_segment (directory : List Name) (filled : base.isEmpty = false) (whole : slash ∉ segment) :
    ofPath directory (base.join ⟨segment⟩) =
      .rooted ((Part.ofSegment? segment).toList.foldl follow (namesOf directory base)) := by
  have relative := Path.isRooted_segment whole
  rw [ofPath_of_filled directory (Path.isEmpty_join filled relative), namesOf_join directory filled relative,
    Path.parts_segment whole]

theorem ofPath_join_proper (directory : List Name) (filled : base.isEmpty = false) (proper : Proper segment) :
    ofPath directory (base.join ⟨segment⟩) = .rooted (namesOf directory base ++ [segment]) := by
  rw [ofPath_join_segment directory filled proper.whole, proper.ofSegment?]
  rfl

theorem proper_of_lastName {path : Path} {name : Name} (proper : ∀ name ∈ directory, Proper name)
    (last : (ofPath directory path).lastName? = some name) : Proper name := by
  unfold ofPath at last
  split at last
  case isTrue => cases last
  case isFalse => exact proper_namesOf proper path name (List.mem_of_getLast? last)

/-- The last name of a location with an extension. -/
theorem exists_lastName {location : Location} {extension : String} (carries : location.extension = some extension) :
    ∃ stem, location.lastName? = some (stem ++ dot :: Text.octets extension) ∧ stem ≠ [] ∧
      location.stem = (Text.text? stem).getD "" := by
  obtain ⟨name, last, cuts⟩ := Option.bind_eq_some_iff.mp carries
  obtain ⟨bytes, found, text⟩ := Option.bind_eq_some_iff.mp cuts
  obtain rfl := Text.text?_eq_some_iff.mp text
  obtain ⟨whole, some⟩ := eq_of_cut found
  refine ⟨(cut name).1, last.trans (congrArg Option.some whole), some, ?_⟩
  rw [stem, last, Option.bind_some]

end Location

namespace Config
open StageZero.Path (Proper slash dot)

/-- The outputs stand in the directory for outputs, each by its name, and neither is where the input or the other
one is. -/
structure Placed (directory : List Name) (config : Config) : Prop where
  named : config.outputName ++ ".jakt" = config.input.basename
  cppIn : (Location.ofPath directory config.cppPath).directory? = some (.ofPath directory config.tools.outputs)
  cppNamed : (Location.ofPath directory config.cppPath).basename = config.outputName ++ ".cpp"
  binaryIn : (Location.ofPath directory config.binaryPath).directory? = some (.ofPath directory config.tools.outputs)
  binaryNamed : (Location.ofPath directory config.binaryPath).basename = config.outputName
  cppApart : Location.ofPath directory config.cppPath ≠ config.input
  binaryApart : Location.ofPath directory config.binaryPath ≠ config.input
  outputsApart : Location.ofPath directory config.cppPath ≠ Location.ofPath directory config.binaryPath

variable {directory : List Name} {config : Config}

theorem Placed.of_proper (filled : config.tools.outputs.isEmpty = false)
    (last : config.input.lastName? = some (Text.octets (config.outputName ++ ".jakt")))
    (proper : Proper (Text.octets config.outputName)) : config.Placed directory := by
  have properCpp : Proper (Text.octets (config.outputName ++ ".cpp")) := by
    rw [Text.octets_append]
    refine .append ?_ (by decide)
    rw [List.mem_append, not_or]
    exact ⟨proper.whole, by decide⟩
  have outputsAt := Location.ofPath_of_filled directory filled
  have cppAt : Location.ofPath directory config.cppPath = _ := Location.ofPath_join_proper directory filled properCpp
  have binaryAt : Location.ofPath directory config.binaryPath = _ := Location.ofPath_join_proper directory filled proper
  have inputNamed : config.input.basename = config.outputName ++ ".jakt" := by
    simp [Location.basename, last]
  have cppNamed : (Location.ofPath directory config.cppPath).basename = config.outputName ++ ".cpp" := by
    simp [cppAt]
  have binaryNamed : (Location.ofPath directory config.binaryPath).basename = config.outputName := by
    simp [binaryAt]
  refine ⟨inputNamed.symm, ?_, cppNamed, ?_, binaryNamed, ?_, ?_, ?_⟩
  · simp [cppAt, outputsAt]
  · simp [binaryAt, outputsAt]
  · apply ne_of_apply_ne Location.basename
    rw [cppNamed, inputNamed]
    simp
  · apply ne_of_apply_ne Location.basename
    rw [binaryNamed, inputNamed]
    apply ne_of_apply_ne String.length
    simp
  · apply ne_of_apply_ne Location.basename
    rw [cppNamed, binaryNamed]
    apply ne_of_apply_ne String.length
    simp

/-- A name that is no name of a file leads back to the directory for outputs, or out of it. -/
theorem binary_cases (directory : List Name) (filled : config.tools.outputs.isEmpty = false)
    (whole : slash ∉ Text.octets config.outputName) :
    let outputs := Location.ofPath directory config.tools.outputs
    let binary := Location.ofPath directory config.binaryPath
    Proper (Text.octets config.outputName) ∨ binary = outputs ∨ outputs.directory? = some binary := by
  intro outputs binary
  have outputsAt : outputs = _ := Location.ofPath_of_filled directory filled
  have binaryAt : binary = _ := Location.ofPath_join_segment directory filled whole
  rcases Path.segment_cases whole with nothing | here | up | proper
  · rw [nothing] at binaryAt
    exact .inr (.inl (binaryAt.trans outputsAt.symm))
  · rw [here] at binaryAt
    exact .inr (.inl (binaryAt.trans outputsAt.symm))
  · rw [up] at binaryAt
    rw [binaryAt, outputsAt]
    by_cases root : Location.namesOf directory config.tools.outputs = []
    · rw [root]
      exact .inr (.inl rfl)
    · exact .inr (.inr (if_neg root))
  · exact .inl proper

/-- Neither a directory nor the one it is in is a file in it. -/
theorem Placed.notElsewhere (placed : config.Placed directory) :
    let outputs := Location.ofPath directory config.tools.outputs
    let binary := Location.ofPath directory config.binaryPath
    ¬ (binary = outputs ∨ outputs.directory? = some binary) := by
  intro outputs binary elsewhere
  have below : outputs.depth < binary.depth := Location.depth_lt_of_directory? placed.binaryIn
  rcases elsewhere with same | above
  · rw [same] at below
    exact Nat.lt_irrefl _ below
  · exact Nat.lt_asymm below (Location.depth_lt_of_directory? above)

variable {path : Path}

/-- The outputs are called by what stands before the extension of the input, or by nothing where that is no
text. -/
theorem name_cases (proper : ∀ name ∈ directory, Proper name) (accepted : ofInput directory path = .ok config) :
    (config.outputName = "" ∧ ∀ stem : String, config.input.lastName? ≠ some (Text.octets (stem ++ ".jakt"))) ∨
      (config.outputName ≠ "" ∧ slash ∉ Text.octets config.outputName ∧
        config.input.lastName? = some (Text.octets (config.outputName ++ ".jakt"))) := by
  unfold ofInput at accepted
  dsimp only at accepted
  split at accepted
  case isFalse => cases accepted
  case isTrue carries =>
    cases accepted
    obtain ⟨bytes, last, some, called⟩ := Location.exists_lastName carries
    have whole := (Location.proper_of_lastName proper last).whole
    rw [List.mem_append, not_or] at whole
    rw [outputName, last, called]
    cases text : Text.text? bytes with
    | none =>
        refine .inl ⟨rfl, ?_⟩
        intro stem named
        rw [Text.octets_append, Option.some.injEq] at named
        have read := Text.text?_eq_some_iff.mpr (List.append_cancel_right named).symm
        cases read.symm.trans text
    | some stem =>
        obtain rfl := Text.text?_eq_some_iff.mp text
        refine .inr ⟨?_, whole.1, ?_⟩
        · rintro rfl
          exact some rfl
        · rw [Option.getD_some, Text.octets_append]
          rfl

/-- The name of the input is a text in front of `.jakt`, and neither one dot nor two. -/
def Named (config : Config) : Prop :=
  ∃ stem : String, config.input.lastName? = some (Text.octets (stem ++ ".jakt")) ∧ stem ≠ "." ∧ stem ≠ ".."

theorem named_iff_proper (some : config.outputName ≠ "") (whole : slash ∉ Text.octets config.outputName)
    (last : config.input.lastName? = .some (Text.octets (config.outputName ++ ".jakt"))) :
    config.Named ↔ Proper (Text.octets config.outputName) := by
  constructor
  · rintro ⟨stem, named, notHere, notUp⟩
    rw [last, Option.some.injEq, Text.octets_inj, String.append_left_inj] at named
    rw [named]
    refine ⟨?_, named ▸ whole, ?_, ?_⟩
    · exact fun nothing => some (named.trans (Text.octets_inj.mp nothing))
    · exact fun here => notHere (Text.octets_inj.mp here)
    · exact fun up => notUp (Text.octets_inj.mp up)
  · intro proper
    refine ⟨config.outputName, last, ?_, ?_⟩
    · exact fun here => proper.notHere (congrArg Text.octets here)
    · exact fun up => proper.notUp (congrArg Text.octets up)

/-- Wherever an input is and whatever the directory for outputs, the outputs are in their places if and only if
the input's name is a text in front of `.jakt`, and neither one dot nor two. Otherwise the executable would
be where the directory for outputs is, or the directory that one is in. -/
theorem placed_iff (current input : Path) (tools : Tools) {config : Config}
    (accepted : ofInput (Location.namesOf [] current) input = .ok config) (filled : tools.outputs.isEmpty = false) :
    let directory := Location.namesOf [] current
    let built : Config := { config with tools }
    let outputs := Location.ofPath directory tools.outputs
    let binary := Location.ofPath directory built.binaryPath
    (built.Placed directory ↔ built.Named) ∧
      (¬ built.Placed directory ↔ binary = outputs ∨ outputs.directory? = some binary) := by
  intro directory built outputs binary
  have proper : ∀ name ∈ directory, Proper name := Location.proper_namesOf (List.forall_mem_nil _) current
  have reached : slash ∉ Text.octets built.outputName →
      Proper (Text.octets built.outputName) ∨ binary = outputs ∨ outputs.directory? = some binary :=
    binary_cases directory filled
  have outcome : built.Named ∧ built.Placed directory ∨
      ¬ built.Named ∧ (binary = outputs ∨ outputs.directory? = some binary) := by
    rcases name_cases proper accepted with ⟨nothing, other⟩ | ⟨some, whole, last⟩
    · right
      change built.outputName = "" at nothing
      rw [nothing] at reached
      refine ⟨fun ⟨stem, named, _⟩ => other stem named, (reached (by decide)).resolve_left ?_⟩
      exact fun proper => proper.filled rfl
    · have named : built.Named ↔ Proper (Text.octets built.outputName) := named_iff_proper some whole last
      rw [named]
      by_cases proper : Proper (Text.octets built.outputName)
      · exact .inl ⟨proper, .of_proper filled last proper⟩
      · exact .inr ⟨proper, (reached whole).resolve_left proper⟩
  rcases outcome with ⟨named, placed⟩ | ⟨unnamed, elsewhere⟩
  · exact ⟨iff_of_true placed named, iff_of_false (not_not_intro placed) placed.notElsewhere⟩
  · have lost : ¬ built.Placed directory := fun placed => placed.notElsewhere elsewhere
    exact ⟨iff_of_false lost unnamed, iff_of_true lost elsewhere⟩

/-- The directory for outputs may be the input's own. -/
theorem placed_iff_dotted :
    let directory := Location.namesOf [] (.ofString "/w")
    let tools : Tools := { outputs := .ofString "samples/." }
    ∃ config, ofInput directory (.ofString "samples/foo.test.jakt") = .ok config ∧ tools.outputs.isEmpty = false ∧
      ({ config with tools } : Config).Named ∧ ({ config with tools } : Config).Placed directory := by
  intro directory tools
  have accepted : ofInput directory (.ofString "samples/foo.test.jakt") =
      .ok ⟨.ofPath directory (.ofString "samples/foo.test.jakt"), {}, false, false, false, false, {}⟩ := by
    decide +kernel
  have filled : tools.outputs.isEmpty = false := by decide +kernel
  obtain ⟨placed, -⟩ := placed_iff (.ofString "/w") (.ofString "samples/foo.test.jakt") tools accepted filled
  have named : Named ⟨.ofPath directory (.ofString "samples/foo.test.jakt"), {}, false, false, false, false, tools⟩ :=
    ⟨"foo.test", by decide +kernel, by decide, by decide⟩
  exact ⟨_, accepted, filled, named, placed.mpr named⟩

/-- A dot is left of this name. The executable would be where the directory for outputs is. -/
theorem not_placed_dot :
    let directory := Location.namesOf [] (.ofString "/tmp")
    ∃ config, ofInput directory (.ofString "..jakt") = .ok config ∧ config.tools.outputs.isEmpty = false ∧
      config.binaryPath = .ofString "build/." ∧
      Location.ofPath directory config.binaryPath = Location.ofPath directory config.tools.outputs ∧
      ¬ config.Placed directory := by
  intro directory
  have accepted : ofInput directory (.ofString "..jakt") =
      .ok ⟨.ofPath directory (.ofString "..jakt"), {}, false, false, false, false, {}⟩ := by
    decide +kernel
  refine ⟨_, accepted, by decide +kernel, by decide +kernel, by decide +kernel, ?_⟩
  exact fun placed => placed.notElsewhere (.inl (by decide +kernel))

end Config
end StageZero
