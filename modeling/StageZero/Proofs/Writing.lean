import StageZero.Disk.Write

/-! What is written to a disk is read from it. A write changes one node, which is no directory before or
behind it, so every path leads where it led. -/
namespace StageZero.Disk

variable {disk : Disk} {names other : List Name} {node : Node}

theorem lookup_filter {entries : List (List Name × Node)} (different : other ≠ names) :
    (entries.filter fun entry => entry.1 ≠ names).lookup other = entries.lookup other := by
  induction entries with
  | nil => rfl
  | cons entry entries ih =>
      obtain ⟨under, found⟩ := entry
      by_cases same : under = names
      · have elsewhere : (other == under) = false := beq_false_of_ne fun here => different (here.trans same)
        rw [List.filter_cons_of_neg (by simpa using same), ih, List.lookup_cons, elsewhere]
      · rw [List.filter_cons_of_pos (by simpa using same), List.lookup_cons, List.lookup_cons, ih]

theorem node?_put_of_ne (different : other ≠ names) : (disk.put names node).node? other = disk.node? other := by
  have elsewhere : (other == names) = false := beq_false_of_ne different
  rw [node?, node?, put, List.lookup_cons, elsewhere, lookup_filter different]

theorem entry?_ok {name : Name} {found : Option Node} (entry : disk.entry? names name = .ok found) :
    ¬ longestName < name.length ∧ disk.node? (names ++ [name]) = found := by
  unfold entry? at entry
  split at entry
  case isTrue => cases entry
  case isFalse short => exact ⟨short, Except.ok.inj entry⟩

/-- A node that is put where no directory stands hides no directory. -/
theorem enter_put {next : List Name} {part : Path.Part} (noDirectory : disk.node? names ≠ some .directory)
    (entered : disk.enter other part = .ok next) : (disk.put names node).enter other part = .ok next := by
  cases part with
  | here | up => exact entered
  | name name =>
      unfold enter at entered ⊢
      dsimp only at entered ⊢
      split at entered
      case h_3 found =>
        obtain ⟨short, stands⟩ := entry?_ok found
        have different : other ++ [name] ≠ names := by
          rintro rfl
          exact noDirectory stands
        rw [ entry?, if_neg short, node?_put_of_ne different, stands]
        exact entered
      all_goals cases entered

theorem walk_put {next : List Name} {parts : List Path.Part} (noDirectory : disk.node? names ≠ some .directory)
    (walked : disk.walk other parts = .ok next) : (disk.put names node).walk other parts = .ok next := by
  induction parts generalizing other with
  | nil => exact walked
  | cons part parts ih =>
      unfold walk at walked ⊢
      split at walked
      case h_1 => cases walked
      case h_2 onward entered =>
        rw [enter_put noDirectory entered]
        exact ih walked

theorem target_put {directory : List Name} {path : Path} {target : Target}
    (noDirectory : disk.node? names ≠ some .directory) (leads : disk.target directory path = .ok target) :
    (disk.put names node).target directory path = .ok target := by
  unfold Disk.target at leads ⊢
  split at leads
  case isTrue => cases leads
  case isFalse noZero =>
    split at leads
    case isTrue => cases leads
    case isFalse short =>
      split at leads
      case isTrue => cases leads
      case isFalse some =>
        dsimp only at leads ⊢
        rw [if_neg noZero, if_neg short, if_neg some]
        split at leads
        case h_1 => cases leads
        case h_2 walked =>
          rw [walk_put noDirectory walked]
          exact leads

/-- A write puts a file under the name that its path leads to, where no directory stands. -/
theorem write_eq_put {next : Disk} {directory : List Name} {path : Path} {content : Content} {executable : Bool}
    (written : disk.write directory path content executable = .ok next) :
    ∃ names name marked, disk.target directory path = .ok (.name names name false) ∧
      ¬ longestName < name.length ∧ disk.node? (names ++ [name]) ≠ some .directory ∧
      next = disk.put (names ++ [name]) (.file content marked) := by
  unfold write at written
  split at written
  case h_4 names name leads =>
    refine ⟨names, name, ?_⟩
    split at written
    case h_3 marked found =>
      obtain ⟨short, stands⟩ := entry?_ok found
      exact ⟨_, leads, short, stands ▸ nofun, (Except.ok.inj written).symm⟩
    case h_4 found =>
      obtain ⟨short, stands⟩ := entry?_ok found
      exact ⟨_, leads, short, stands ▸ nofun, (Except.ok.inj written).symm⟩
    all_goals cases written
  all_goals cases written

theorem read_of_write {next : Disk} {directory : List Name} {path : Path} {content : Content} {executable : Bool}
    (written : disk.write directory path content executable = .ok next) :
    next.read directory path = .ok content.read := by
  obtain ⟨names, name, marked, leads, short, noDirectory, rfl⟩ := write_eq_put written
  have stands := node?_put disk (names ++ [name]) (.file content marked) (List.append_ne_nil_of_right_ne_nil _ nofun)
  have found : Disk.entry? (disk.put (names ++ [name]) (.file content marked)) names name =
      .ok (some (.file content marked)) := by
    rw [ entry?, if_neg short, stands]
  rw [read, file, target_put noDirectory leads]
  dsimp only
  rw [found]
  rfl

/-- What a text file holds when it has been written. -/
theorem read_of_writeText {directory : List Name} {path : Path} {text : String}
    (written : (disk.writeText directory path text).failure = none) :
    (disk.writeText directory path text).disk.read directory path = .ok (Text.octets text) := by
  unfold writeText at written ⊢
  dsimp only at written ⊢
  split at written
  case h_1 => cases written
  case h_2 =>
    split at written
    case h_2 => cases written
    case h_1 put => exact read_of_write put

end StageZero.Disk
