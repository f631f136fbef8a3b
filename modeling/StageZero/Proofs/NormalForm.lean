import Mathlib.Data.List.Basic
import Mathlib.Data.List.Induction
import StageZero.Path.Location

/-! The normal form of paths, against where the segments of a path lead. A location is spelled without dots
and empty segments, its spelling is its own normal form, and normal forms can be taken step by step. -/
namespace StageZero

namespace Path
open Text (Octets)

/-! ### Segments -/

theorem split_eq_splitOn (bytes : Octets) : split bytes = bytes.splitOn slash := by
  induction bytes with
  | nil => exact (List.splitOn_nil slash).symm
  | cons byte rest ih =>
      rw [List.splitOn_cons_eq_if_modifyHead, ← ih, split]
      by_cases same : byte = slash
      · rw [if_pos same, if_pos (beq_iff_eq.mpr same)]
      · rw [if_neg same, if_neg (mt beq_iff_eq.mp same)]
        cases shape : split rest with
        | nil => exact absurd shape (split_ne_nil rest)
        | cons segment later => rfl

theorem split_append_slash (front behind : Octets) : split (front ++ slash :: behind) = split front ++ split behind := by
  rw [split_eq_splitOn, split_eq_splitOn, split_eq_splitOn, List.splitOn_append_cons_self]

theorem split_joined {segments : List Octets} (whole : ∀ segment ∈ segments, slash ∉ segment)
    (some : segments ≠ []) : split (joined segments) = segments := by
  rw [split_eq_splitOn, joined, List.splitOn_intercalate slash whole some]

theorem slash_notMem_split (bytes : Octets) : ∀ segment ∈ split bytes, slash ∉ segment := by
  fun_induction split bytes with
  | case1 => exact List.forall_mem_singleton.mpr List.not_mem_nil
  | case2 rest ih => exact List.forall_mem_cons.mpr ⟨List.not_mem_nil, ih⟩
  | case3 byte rest _ nothing => exact absurd nothing (split_ne_nil rest)
  | case4 byte rest other segment later shape ih =>
      rw [shape] at ih
      obtain ⟨first, later⟩ := List.forall_mem_cons.mp ih
      refine List.forall_mem_cons.mpr ⟨?_, later⟩
      rw [List.mem_cons, not_or]
      exact ⟨Ne.symm other, first⟩

/-! ### Parts -/

/-- A segment that names something in a directory. -/
structure Proper (segment : Octets) : Prop where
  filled : segment ≠ []
  whole : slash ∉ segment
  notHere : segment ≠ [dot]
  notUp : segment ≠ [dot, dot]

theorem Proper.ofSegment? {segment : Octets} (proper : Proper segment) : Part.ofSegment? segment = some (.name segment) := by
  rw [Part.ofSegment?, if_neg proper.filled, if_neg proper.notHere, if_neg proper.notUp]

theorem ofSegment?_up : Part.ofSegment? [dot, dot] = some .up := rfl

/-- Every segment means nothing, is one or two dots, or names something. -/
theorem segment_cases {segment : Octets} (whole : slash ∉ segment) :
    segment = [] ∨ segment = [dot] ∨ segment = [dot, dot] ∨ Proper segment := by
  by_cases some : segment = []
  · exact .inl some
  by_cases here : segment = [dot]
  · exact .inr (.inl here)
  by_cases up : segment = [dot, dot]
  · exact .inr (.inr (.inl up))
  exact .inr (.inr (.inr ⟨some, whole, here, up⟩))

theorem proper_of_name_mem_parts {path : Path} {bytes : Octets} (member : .name bytes ∈ path.parts) :
    Proper bytes := by
  obtain ⟨segment, there, means⟩ := List.mem_filterMap.mp member
  rcases segment_cases (slash_notMem_split path.bytes segment there) with rfl | rfl | rfl | proper
  · cases means
  · cases means
  · cases means
  · rw [proper.ofSegment?] at means
    cases means
    exact proper

/-- A path from the root is read as what stands behind its slash. -/
theorem parts_slash (bytes : Octets) : parts ⟨slash :: bytes⟩ = parts ⟨bytes⟩ := rfl

theorem parts_append_slash (front behind : Octets) :
    parts ⟨front ++ slash :: behind⟩ = parts ⟨front⟩ ++ parts ⟨behind⟩ := by
  rw [parts, split_append_slash, List.filterMap_append]
  rfl

/-- A slash at the end leads nowhere else. -/
theorem parts_concat_slash (front : Octets) : parts ⟨front ++ [slash]⟩ = parts ⟨front⟩ := by
  rw [parts_append_slash]
  exact List.append_nil _

theorem parts_joined {segments : List Octets} (whole : ∀ segment ∈ segments, slash ∉ segment) :
    parts ⟨joined segments⟩ = segments.filterMap Part.ofSegment? := by
  by_cases some : segments = []
  · rw [some]
    rfl
  · rw [parts, split_joined whole some]

/-- The parts of a path below another are those of the two, one behind the other. -/
theorem parts_join (base : Path) {path : Path} (relative : path.isRooted = false) :
    (base.join path).parts = base.parts ++ path.parts := by
  obtain ⟨front⟩ := base
  rw [join, relative, if_neg Bool.false_ne_true]
  split
  case isTrue ended =>
    rcases Bool.or_eq_true_iff.mp ended with empty | slashed
    · obtain rfl : front = [] := List.isEmpty_iff.mp empty
      rfl
    · obtain ⟨before, rfl⟩ := List.getLast?_eq_some_iff.mp (of_decide_eq_true slashed)
      dsimp only
      rw [List.append_assoc, List.singleton_append, parts_append_slash, parts_concat_slash]
  case isFalse => exact parts_append_slash _ _

theorem isRooted_join {base path : Path} (some : base.isEmpty = false) (relative : path.isRooted = false) :
    (base.join path).isRooted = base.isRooted := by
  obtain ⟨front⟩ := base
  cases front with
  | nil => cases some
  | cons byte front =>
      rw [join, relative, if_neg Bool.false_ne_true]
      split <;> rfl

theorem isEmpty_join {base path : Path} (some : base.isEmpty = false) (relative : path.isRooted = false) :
    (base.join path).isEmpty = false := by
  obtain ⟨front⟩ := base
  cases front with
  | nil => cases some
  | cons byte front =>
      rw [join, relative, if_neg Bool.false_ne_true]
      split <;> rfl

/-! ### Absolute spellings -/

/-- What an absolute spelling keeps of a part. -/
def Part.spelled? (part : Part) : Option Octets := if part = .here then none else some part.bytes

theorem slash_notMem_spelled (path : Path) : ∀ segment ∈ path.parts.filterMap Part.spelled?, slash ∉ segment := by
  intro segment member
  obtain ⟨part, there, spelled⟩ := List.mem_filterMap.mp member
  cases part with
  | here => cases spelled
  | up =>
      cases spelled
      decide
  | name bytes =>
      cases spelled
      exact (proper_of_name_mem_parts there).whole

/-- A path from the root with the names of a directory, one or two slashes in front and perhaps one behind. -/
theorem absolute_cases {path : Path} (directory : List Name) (filled : path.isEmpty = false) :
    let segments := (if path.isRooted then [] else directory) ++ path.parts.filterMap Part.spelled?
    ∃ bytes, (bytes = joined segments ∨ bytes = slash :: joined segments) ∧
      (path.absolute directory = ⟨slash :: bytes⟩ ∨ path.absolute directory = ⟨slash :: (bytes ++ [slash])⟩) := by
  intro segments
  rw [absolute, filled, if_neg Bool.false_ne_true]
  dsimp only
  by_cases two : path.bytes.take 2 = [slash, slash] ∧ path.bytes[2]? ≠ some slash
  · rw [if_pos two]
    exact ⟨slash :: joined segments, .inr rfl, (ite_eq_or_eq _ _ _).symm⟩
  · rw [if_neg two]
    exact ⟨joined segments, .inl rfl, (ite_eq_or_eq _ _ _).symm⟩

theorem isRooted_absolute {path : Path} {directory : List Name} (filled : path.isEmpty = false) :
    (path.absolute directory).isRooted = true := by
  obtain ⟨bytes, -, same | same⟩ := absolute_cases directory filled <;> rw [same] <;> rfl

theorem isEmpty_absolute {path : Path} {directory : List Name} (filled : path.isEmpty = false) :
    (path.absolute directory).isEmpty = false := by
  obtain ⟨bytes, -, same | same⟩ := absolute_cases directory filled <;> rw [same] <;> rfl

theorem parts_absolute {path : Path} {directory : List Name}
    (whole : ∀ name ∈ if path.isRooted then [] else directory, slash ∉ name) (filled : path.isEmpty = false) :
    (path.absolute directory).parts =
      ((if path.isRooted then [] else directory) ++ path.parts.filterMap Part.spelled?).filterMap Part.ofSegment? := by
  obtain ⟨bytes, spelled, same⟩ := absolute_cases directory filled
  rw [← parts_joined (List.forall_mem_append.mpr ⟨whole, slash_notMem_spelled path⟩)]
  have inside : parts ⟨bytes⟩ = parts ⟨joined
      ((if path.isRooted then [] else directory) ++ path.parts.filterMap Part.spelled?)⟩ := by
    rcases spelled with rfl | rfl <;> rfl
  rcases same with same | same
  · rw [same, parts_slash, inside]
  · rw [same, parts_slash, parts_concat_slash, inside]

end Path

namespace Location
open Text (Octets)
open StageZero.Path (Proper slash dot split joined parts)

/-! ### Where segments lead -/

/-- Some segments lead from one directory to another, one after the other. Two dots lead back, but not
out of the root. -/
inductive Leads : List Name → List Octets → List Name → Prop
  | arrived {names} : Leads names [] names
  | idle {names segment later result} : segment = [] ∨ segment = [dot] → Leads names later result →
      Leads names (segment :: later) result
  | root {later result} : Leads [] later result → Leads [] ([dot, dot] :: later) result
  | back {names name later result} : Leads names later result →
      Leads (names ++ [name]) ([dot, dot] :: later) result
  | down {names segment later result} : Proper segment → Leads (names ++ [segment]) later result →
      Leads names (segment :: later) result

/-- To follow the parts of some segments is to go where the segments lead. -/
theorem leads_foldl {segments : List Octets} (whole : ∀ segment ∈ segments, slash ∉ segment) (names : List Name) :
    Leads names segments ((segments.filterMap Path.Part.ofSegment?).foldl follow names) := by
  induction segments generalizing names with
  | nil => exact .arrived
  | cons segment later ih =>
      obtain ⟨first, wholeLater⟩ := List.forall_mem_cons.mp whole
      have behind := ih wholeLater
      rcases Path.segment_cases first with rfl | rfl | rfl | proper
      · exact .idle (.inl rfl) (behind names)
      · exact .idle (.inr rfl) (behind names)
      · cases names using List.reverseRecOn with
        | nil => exact .root (behind [])
        | append_singleton names name =>
            have dropped : follow (names ++ [name]) .up = names := List.dropLast_concat
            rw [List.filterMap_cons_some Path.ofSegment?_up, List.foldl_cons, dropped]
            exact .back (behind names)
      · rw [List.filterMap_cons_some proper.ofSegment?]
        exact .down proper (behind _)

/-- Segments lead to one place. -/
theorem Leads.eq_foldl {names result : List Name} {segments : List Octets} (leads : Leads names segments result) :
    (segments.filterMap Path.Part.ofSegment?).foldl follow names = result := by
  induction leads with
  | arrived => rfl
  | idle nothing _ ih => rcases nothing with rfl | rfl <;> exact ih
  | root _ ih => exact ih
  | @back names name _ _ _ ih =>
      have dropped : follow (names ++ [name]) .up = names := List.dropLast_concat
      rw [List.filterMap_cons_some Path.ofSegment?_up, List.foldl_cons, dropped, ih]
  | down proper _ ih =>
      rw [List.filterMap_cons_some proper.ofSegment?]
      exact ih

theorem Leads.append {names between result : List Name} {front back : List Octets} (first : Leads names front between)
    (second : Leads between back result) : Leads names (front ++ back) result := by
  induction first with
  | arrived => exact second
  | idle nothing _ ih => exact .idle nothing (ih second)
  | root _ ih => exact .root (ih second)
  | back _ ih => exact .back (ih second)
  | down proper _ ih => exact .down proper (ih second)

/-- Segments lead from proper names to proper names. -/
theorem Leads.proper {names result : List Name} {segments : List Octets} (leads : Leads names segments result)
    (start : ∀ name ∈ names, Proper name) : ∀ name ∈ result, Proper name := by
  induction leads with
  | arrived => exact start
  | idle _ _ ih => exact ih start
  | root _ ih => exact ih start
  | back _ ih => exact ih (List.forall_mem_append.mp start).1
  | down proper _ ih => exact ih (List.forall_mem_append.mpr ⟨start, List.forall_mem_singleton.mpr proper⟩)

/-- Proper names lead down to themselves. -/
theorem leads_names (start : List Name) {names : List Name} (proper : ∀ name ∈ names, Proper name) :
    Leads start names (start ++ names) := by
  induction names generalizing start with
  | nil => rw [List.append_nil]; exact .arrived
  | cons name names ih =>
      obtain ⟨first, later⟩ := List.forall_mem_cons.mp proper
      have below := ih (start ++ [name]) later
      rw [List.append_assoc, List.singleton_append] at below
      exact .down first below

/-! ### Locations -/

variable {directory names : List Name} {path : Path}

/-- The segments of a path lead to its location. -/
theorem leads_namesOf (directory : List Name) (path : Path) :
    Leads (if path.isRooted then [] else directory) (split path.bytes) (namesOf directory path) :=
  leads_foldl (Path.slash_notMem_split path.bytes) _

theorem leads_iff_namesOf (directory : List Name) (path : Path) (names : List Name) :
    Leads (if path.isRooted then [] else directory) (split path.bytes) names ↔ namesOf directory path = names := by
  constructor
  · exact Leads.eq_foldl
  · rintro rfl
    exact leads_namesOf directory path

theorem proper_namesOf (proper : ∀ name ∈ directory, Proper name) (path : Path) :
    ∀ name ∈ namesOf directory path, Proper name := by
  refine (leads_namesOf directory path).proper ?_
  split
  case isTrue => exact List.forall_mem_nil _
  case isFalse => exact proper

theorem ofPath_of_filled (directory : List Name) {path : Path} (filled : path.isEmpty = false) :
    ofPath directory path = .rooted (namesOf directory path) := by
  rw [ofPath, filled, if_neg Bool.false_ne_true]

theorem parts_names {names : List Name} (proper : ∀ name ∈ names, Proper name) :
    names.filterMap Path.Part.ofSegment? = names.map .name :=
  List.filterMap_eq_map_iff_forall_eq_some.mpr fun name member => (proper name member).ofSegment?

/-- A location is spelled by its names alone. -/
theorem parts_path (proper : ∀ name ∈ names, Proper name) : (rooted names).path.parts = names.map .name := by
  rw [path, Path.parts_slash, Path.parts_joined fun name member => (proper name member).whole, parts_names proper]

/-- The spelling of a location is read as that location, wherever it is read. -/
theorem namesOf_path (proper : ∀ name ∈ names, Proper name) (elsewhere : List Name) :
    namesOf elsewhere (rooted names).path = names := by
  have rooted : (rooted names).path.isRooted = true := rfl
  have down := (leads_names [] proper).eq_foldl
  rw [parts_names proper, List.nil_append] at down
  rw [namesOf, parts_path proper, rooted, if_pos rfl, down]

theorem namesOf_of_isRooted (rooted : path.isRooted = true) (elsewhere : List Name) :
    namesOf elsewhere path = namesOf directory path := by
  rw [namesOf, namesOf, if_pos rooted, if_pos rooted]

/-- A path below another is followed from where the other leads. -/
theorem namesOf_join (directory : List Name) {base below : Path} (filled : base.isEmpty = false)
    (relative : below.isRooted = false) :
    namesOf directory (base.join below) = below.parts.foldl follow (namesOf directory base) := by
  rw [namesOf, Path.isRooted_join filled relative, Path.parts_join base relative, List.foldl_append, namesOf]

/-! ### Absolute spellings -/

/-- What is left of parts that are spelled out leads to the same place. -/
theorem foldl_spelled (names : List Name) {parts : List Path.Part}
    (proper : ∀ bytes, .name bytes ∈ parts → Proper bytes) :
    ((parts.filterMap Path.Part.spelled?).filterMap Path.Part.ofSegment?).foldl follow names =
      parts.foldl follow names := by
  induction parts generalizing names with
  | nil => rfl
  | cons part later ih =>
      have behind := fun start => ih start fun bytes member => proper bytes (List.mem_cons_of_mem _ member)
      cases part with
      | here => exact behind names
      | up => exact behind _
      | name bytes =>
          have first := (proper bytes (List.mem_cons_self ..)).ofSegment?
          have spelled : Path.Part.spelled? (.name bytes) = some bytes := rfl
          rw [List.filterMap_cons_some spelled, List.filterMap_cons_some first]
          exact behind _

/-- The absolute spelling of a path leads from the root to where the path leads. -/
theorem namesOf_absolute (proper : ∀ name ∈ directory, Proper name) (elsewhere : List Name)
    (filled : path.isEmpty = false) : namesOf elsewhere (path.absolute directory) = namesOf directory path := by
  have baseProper : ∀ name ∈ if path.isRooted then [] else directory, Proper name := by
    split
    case isTrue => exact List.forall_mem_nil _
    case isFalse => exact proper
  have down := (leads_names [] baseProper).eq_foldl
  rw [List.nil_append] at down
  rw [namesOf, Path.isRooted_absolute filled, if_pos rfl,
    Path.parts_absolute (fun name member => (baseProper name member).whole) filled, List.filterMap_append,
    List.foldl_append, down, foldl_spelled _ fun _ => Path.proper_of_name_mem_parts, namesOf]

/-! ### The normal form -/

/-- What names the normal form of a path, read in some directory, is made of. -/
structure Normal (directory : List Name) (path : Path) (names : List Name) : Prop where
  /-- The segments of the path lead to the names, from the root or from the directory. -/
  leads : Leads (if path.isRooted then [] else directory) (split path.bytes) names
  /-- The normal form is absolute, and its names stand between single slashes. -/
  spelled : (ofPath directory path).path.bytes = slash :: joined names
  proper : ∀ name ∈ names, Proper name
  parts : (ofPath directory path).path.parts = names.map .name
  again : ∀ elsewhere, ofPath elsewhere (ofPath directory path).path = ofPath directory path
  /-- It does not matter whether the path is made absolute before. -/
  absolute : ∀ elsewhere, ofPath elsewhere (path.absolute directory) = ofPath directory path
  rooted : path.isRooted = true → ∀ elsewhere, ofPath elsewhere path = ofPath directory path
  equal : ∀ other : Path, other.isEmpty = false →
    (ofPath directory path = ofPath directory other ↔
      Leads (if other.isRooted then [] else directory) (split other.bytes) names)
  compared : ∀ other : Path, other.isEmpty = false →
    (compare (ofPath directory path) (ofPath directory other) = .eq ↔
      Leads (if other.isRooted then [] else directory) (split other.bytes) names)
  below : ∀ below : Path, below.isRooted = false →
    ofPath directory (path.join below) = ofPath directory ((ofPath directory path).path.join below)

theorem compare_rooted (names others : List Name) : compare (rooted names) (rooted others) = compare names others := rfl

theorem normal_namesOf (proper : ∀ name ∈ directory, Proper name) (filled : path.isEmpty = false) :
    Normal directory path (namesOf directory path) := by
  have located := ofPath_of_filled directory filled
  have below := proper_namesOf proper path
  have spelledFilled : (rooted (namesOf directory path)).path.isEmpty = false := rfl
  refine ⟨leads_namesOf directory path, ?_, below, ?_, ?_, ?_, ?_, ?_, ?_, ?_⟩
  · rw [located]
    rfl
  · rw [located, parts_path below]
  · intro elsewhere
    rw [located, ofPath_of_filled elsewhere spelledFilled, namesOf_path below]
  · intro elsewhere
    rw [located, ofPath_of_filled elsewhere (Path.isEmpty_absolute filled), namesOf_absolute proper elsewhere filled]
  · intro fromRoot elsewhere
    rw [located, ofPath_of_filled elsewhere filled, namesOf_of_isRooted fromRoot]
  · intro other otherFilled
    rw [located, ofPath_of_filled directory otherFilled, leads_iff_namesOf, rooted.injEq]
    exact eq_comm
  · intro other otherFilled
    rw [located, ofPath_of_filled directory otherFilled, leads_iff_namesOf, compare_rooted,
      Std.LawfulEqOrd.compare_eq_iff_eq]
    exact eq_comm
  · intro more relative
    rw [located, ofPath_of_filled directory (Path.isEmpty_join filled relative),
      ofPath_of_filled directory (Path.isEmpty_join spelledFilled relative), namesOf_join directory filled relative,
      namesOf_join directory spelledFilled relative, namesOf_path below]

/-- Whatever the current directory and the path are, the path has a normal form. -/
theorem ofPath_normal (current path : Path) (filled : path.isEmpty = false) :
    Leads [] (split current.bytes) (namesOf [] current) ∧ ∃ names, Normal (namesOf [] current) path names := by
  have reached := leads_namesOf [] current
  rw [ite_self] at reached
  exact ⟨reached, _, normal_namesOf (reached.proper (List.forall_mem_nil _)) filled⟩

theorem ofPath_normal_dotted :
    let current : Path := .ofString "/w/./x/../y"
    let path : Path := .ofString "..//./a/../../../b/."
    path.isEmpty = false ∧ namesOf (namesOf [] current) path = [[0x62]] ∧
      ∃ names, Normal (namesOf [] current) path names :=
  ⟨by decide +kernel, by decide +kernel, (ofPath_normal _ _ (by decide +kernel)).2⟩

end Location
end StageZero
