import StageZero.Proofs.Histories

/-! What a context knows about its files. Through every history the table of ids and the list of files are kept
in step: ids count up from zero in the order in which locations were first registered, each location has one,
and a file that was read once stays as it was read. -/
namespace StageZero
variable {Memory : Type}

/-! ### The table and the files -/

/-- The table that the files of a context need. -/
def Sources.table (sources : Sources) : List (Location × FileId) :=
  sources.mapIdx fun place file => (file.location, ⟨place⟩)

theorem Sources.table_concat (sources : Sources) (file : SourceFile) :
    table (sources ++ [file]) = sources.table ++ [(file.location, ⟨sources.length⟩)] := List.mapIdx_concat

theorem Sources.table_ids (sources : Sources) :
    sources.table.map Prod.snd = (List.range sources.length).map FileId.mk := by
  induction sources using List.reverseRecOn with
  | nil => rfl
  | append_singleton sources file ih =>
      rw [table_concat, List.map_append, ih, List.length_append, List.length_singleton, List.range_succ,
        List.map_append]
      rfl

/-- To look into the table is to search the files. -/
theorem Sources.lookup_table (sources : Sources) (location : Location) :
    sources.table.lookup location = sources.id? location := by
  -- from the right, where the files and the table grow
  induction sources using List.reverseRecOn with
  | nil => rfl
  | append_singleton sources file ih =>
      rw [table_concat, List.lookup_append, ih, id?, id?, List.findIdx?_append]
      by_cases same : file.location = location
      · cases sources.findIdx? fun file => file.location = location <;> simp [same]
      · cases sources.findIdx? fun file => file.location = location <;> simp [same, Ne.symm same]

theorem Sources.id?_eq_none_iff (sources : Sources) (location : Location) :
    sources.id? location = none ↔ location ∉ sources.map SourceFile.location := by
  simp [id?, List.findIdx?_eq_none_iff]

theorem Sources.id?_eq_some_iff {sources : Sources} (distinct : (sources.map SourceFile.location).Nodup)
    (location : Location) (id : FileId) :
    sources.id? location = some id ↔ ∃ file, sources.file? id = some file ∧ file.location = location := by
  obtain ⟨place⟩ := id
  simp only [id?, Option.map_eq_some_iff, FileId.mk.injEq, exists_eq_right, List.findIdx?_eq_some_iff_getElem,
    decide_eq_true_eq, file?]
  constructor
  · rintro ⟨inside, found, _⟩
    exact ⟨sources[place], List.getElem?_eq_getElem inside, found⟩
  · rintro ⟨file, found, rfl⟩
    obtain ⟨inside, rfl⟩ := List.getElem?_eq_some_iff.mp found
    have apart := List.pairwise_iff_getElem.mp (List.pairwise_map.mp distinct)
    exact ⟨inside, rfl, fun earlier before => apart earlier place (before.trans inside) inside before⟩

/-! ### What was granted -/

namespace Call

/-- The id that a call gives a location. -/
def grant? (directory : List Name) : Call → Option (Location × FileId)
  | .register path (.ok id) => some (Location.ofPath directory path, id)
  | .register _ (.error _) | .setCurrent _ | .record _ => none

/-- All ids that calls gave locations, in order. -/
def grants (directory : List Name) (calls : List Call) : List (Location × FileId) :=
  calls.filterMap (grant? directory)

def choice? : Call → Option FileId
  | .setCurrent file => some file
  | .register .. | .record _ => none

/-- The last file that was made the current one. -/
def chosen (calls : List Call) : Option FileId := (calls.filterMap choice?).getLast?

theorem grants_concat (directory : List Name) (calls : List Call) (call : Call) :
    grants directory (calls ++ [call]) = grants directory calls ++ (call.grant? directory).toList := by
  rw [grants, List.filterMap_append]
  cases granted : call.grant? directory <;> simp [grants, granted]

theorem chosen_concat (calls : List Call) (call : Call) :
    chosen (calls ++ [call]) = call.choice?.or (chosen calls) := by
  rw [chosen, List.filterMap_append]
  cases choice : call.choice? <;> simp [chosen, choice]

end Call

/-! ### Elements without repetitions -/

section Repetitions
variable {α : Type} [BEq α] [LawfulBEq α] {items : List α} {item : α}

theorem eraseDups_concat_of_mem (member : item ∈ items) : (items ++ [item]).eraseDups = items.eraseDups := by
  rw [List.eraseDups_append]
  simp [List.removeAll, member]

theorem eraseDups_concat_of_notMem (fresh : item ∉ items) :
    (items ++ [item]).eraseDups = items.eraseDups ++ [item] := by
  rw [List.eraseDups_append]
  simp [List.removeAll, List.eraseDups_cons, fresh]

theorem eraseDups_map {β : Type} [BEq β] [LawfulBEq β] {f : α → β} {items : List α}
    (apart : ∀ a ∈ items, ∀ b ∈ items, f a = f b → a = b) : (items.map f).eraseDups = items.eraseDups.map f := by
  induction items using List.reverseRecOn with
  | nil => rfl
  | append_singleton items item ih =>
      have inside {a : α} (member : a ∈ items) : a ∈ items ++ [item] := List.mem_append_left _ member
      have last : item ∈ items ++ [item] := List.mem_append_right _ (List.mem_singleton.mpr rfl)
      have before := ih fun a first b second => apart a (inside first) b (inside second)
      rw [List.map_append, List.map_singleton]
      by_cases member : item ∈ items
      · rw [eraseDups_concat_of_mem member, eraseDups_concat_of_mem (List.mem_map_of_mem member), before]
      · have fresh : f item ∉ items.map f := by
          intro mapped
          obtain ⟨other, here, same⟩ := List.mem_map.mp mapped
          exact member (apart other (inside here) item last same ▸ here)
        rw [eraseDups_concat_of_notMem member, eraseDups_concat_of_notMem fresh, before, List.map_append,
          List.map_singleton]

end Repetitions

/-! ### What calls make of a context -/

/-- The state of a context after some calls, none having been made on it before them. -/
structure Context.Books (directory : List Name) (calls : List Call) (context : Context) : Prop where
  table : context.ids = context.files.table
  distinct : (context.files.map SourceFile.location).Nodup
  granted : (Call.grants directory calls).eraseDups = context.files.table
  current : context.current = Call.chosen calls

namespace Context.Books

variable {directory : List Name} {calls : List Call} {context : Context}

theorem empty (directory : List Name) (flags : DebugFlags) : Books directory [] { flags := flags } :=
  ⟨rfl, .nil, rfl, rfl⟩

theorem id?_eq (books : Books directory calls context) (location : Location) :
    context.id? location = context.files.id? location := by
  rw [id?, books.table, Sources.lookup_table]

theorem inverse (books : Books directory calls context) (location : Location) (id : FileId) :
    context.id? location = some id ↔ ∃ file, context.files.file? id = some file ∧ file.location = location := by
  rw [books.id?_eq, Sources.id?_eq_some_iff books.distinct]

/-- What a location was granted is what it has. -/
theorem mem_grants (books : Books directory calls context) (location : Location) (id : FileId) :
    (location, id) ∈ Call.grants directory calls ↔ context.id? location = some id := by
  rw [books.inverse, ← List.mem_eraseDups, books.granted, Sources.table, List.mem_mapIdx]
  obtain ⟨place⟩ := id
  constructor
  · rintro ⟨_, inside, same⟩
    cases same
    exact ⟨_, List.getElem?_eq_getElem inside, rfl⟩
  · rintro ⟨file, found, rfl⟩
    obtain ⟨inside, rfl⟩ := List.getElem?_eq_some_iff.mp found
    exact ⟨place, inside, rfl⟩

/-- A call that gives no location what it does not have leaves the files as they are. -/
theorem call (books : Books directory calls context) {call : Call} {next : Context}
    (known : ∀ location id, call.grant? directory = some (location, id) → context.id? location = some id)
    (files : next.files = context.files) (ids : next.ids = context.ids)
    (current : next.current = call.choice?.or context.current) : Books directory (calls ++ [call]) next where
  table := by rw [ids, files, books.table]
  distinct := files ▸ books.distinct
  granted := by
    rw [Call.grants_concat, files, ← books.granted]
    cases granted : call.grant? directory with
    | none => rw [Option.toList_none, List.append_nil]
    | some grant => exact eraseDups_concat_of_mem ((books.mem_grants _ _).mpr (known _ _ granted))
  current := by rw [Call.chosen_concat, current, books.current]

/-- A call that gives a new location the next id. -/
theorem enter (books : Books directory calls context) {path : Path}
    (unknown : context.id? (Location.ofPath directory path) = none) (contents : String) :
    let entered := context.enter (Location.ofPath directory path) contents
    Books directory (calls ++ [.register path (.ok entered.1)]) entered.2 where
  table := by
    change context.ids ++ _ = Sources.table (context.files ++ _)
    rw [books.table, Sources.table_concat]
  distinct := by
    rw [books.id?_eq, Sources.id?_eq_none_iff] at unknown
    change (List.map SourceFile.location (context.files ++ [_])).Nodup
    rw [List.map_append]
    exact List.nodup_append.mpr ⟨books.distinct, List.pairwise_singleton _ _, by simpa using unknown⟩
  granted := by
    change (Call.grants directory (calls ++ _)).eraseDups = Sources.table (context.files ++ _)
    rw [Call.grants_concat, Sources.table_concat, ← books.granted]
    -- had the location been granted the next id before, it would be known
    refine eraseDups_concat_of_notMem fun member => ?_
    rw [books.mem_grants, unknown] at member
    cases member
  current := by
    rw [Call.chosen_concat]
    exact books.current

theorem turns (books : Books directory calls context) {call : Call} {next : Context}
    (turns : call.Turns directory context next) : Books directory (calls ++ [call]) next := by
  cases turns with
  | known known => exact books.call (fun _ _ granted => by cases granted; exact known) rfl rfl rfl
  | entered contents unknown => exact books.enter unknown contents
  | refused | setCurrent | record => exact books.call (fun _ _ => nofun) rfl rfl rfl

theorem leads {session last : Session Memory} {made : List Call} (leads : session.Leads made last)
    (books : Books session.directory calls session.context) :
    Books last.directory (calls ++ made) last.context := by
  induction leads generalizing calls with
  | stay session => rwa [List.append_nil]
  | aside _ context here ih => exact ih (here ▸ context ▸ books)
  | call does _ ih =>
      obtain ⟨same, turns⟩ := does.turns
      have next := books.turns turns
      rw [List.append_cons]
      rw [same] at ih
      exact ih next

/-- No id was given to two locations. -/
theorem ids (books : Books directory calls context) :
    ((Call.grants directory calls).map Prod.snd).eraseDups = (List.range context.files.length).map FileId.mk := by
  rw [eraseDups_map, books.granted]
  · exact Sources.table_ids context.files
  · rintro ⟨first, id⟩ granted ⟨second, _⟩ grantedToo rfl
    rw [books.mem_grants, books.inverse] at granted grantedToo
    obtain ⟨file, found, rfl⟩ := granted
    obtain ⟨other, foundToo, rfl⟩ := grantedToo
    rw [found] at foundToo
    cases foundToo
    rfl

end Context.Books

/-- Files are only ever added, behind those that are there. -/
theorem Session.Leads.files {session last : Session Memory} {calls : List Call} (leads : session.Leads calls last) :
    session.context.files <+: last.context.files := by
  refine leads.along (R := fun before after => before.files <+: after.files) (fun _ => List.prefix_rfl)
    List.IsPrefix.trans fun turns => ?_
  cases turns with
  | entered => exact List.prefix_append ..
  | known | refused | setCurrent | record => exact List.prefix_rfl

theorem Context.currentSource_eq_ok_iff {context : Context} {id : FileId} {file : SourceFile} :
    context.currentSource = .ok (id, file) ↔ context.current = some id ∧ context.files.file? id = some file := by
  unfold currentSource
  cases context.current with
  | none => simp
  | some chosen =>
      dsimp only
      cases found : context.files.file? chosen with
      | none =>
          refine ⟨nofun, ?_⟩
          rintro ⟨⟨⟩, registered⟩
          cases found.symm.trans registered
      | some source =>
          constructor
          · rintro ⟨⟩
            exact ⟨rfl, found⟩
          · rintro ⟨⟨⟩, registered⟩
            cases found.symm.trans registered
            rfl

theorem Disk.readText_error_iff {disk : Disk} {directory : List Name} {path : Path} :
    (∃ cause, disk.readText directory path = .error cause) ↔
      ∀ bytes, disk.read directory path = .ok bytes → Text.text? bytes = none := by
  unfold readText
  cases disk.read directory path with
  | error cause => exact ⟨fun _ _ => nofun, fun _ => ⟨cause, rfl⟩⟩
  | ok bytes =>
      dsimp only
      cases text : Text.text? bytes with
      | none =>
          refine ⟨?_, fun _ => ⟨_, rfl⟩⟩
          rintro _ _ ⟨⟩
          exact text
      | some contents =>
          constructor
          · rintro ⟨_, ⟨⟩⟩
          · intro unreadable
            cases text.symm.trans (unreadable bytes rfl)

/-- What a session knows about files after a history in which these calls were made. -/
structure Session.Registry (session : Session Memory) (calls : List Call) : Prop where
  /-- The locations that were given ids, in the order in which each was first given one, have the ids from zero on. -/
  granted : (Call.grants session.directory calls).eraseDups =
    session.context.files.mapIdx fun place file => (file.location, ⟨place⟩)
  ids : ((Call.grants session.directory calls).map Prod.snd).eraseDups =
    (List.range session.context.files.length).map FileId.mk
  /-- The table of ids and the files are inverse to each other. -/
  inverse : ∀ location id, session.context.id? location = some id ↔
    ∃ file, session.context.files.file? id = some file ∧ file.location = location
  distinct : (session.context.files.map SourceFile.location).Nodup
  /-- A known path is given the id it has, and nothing changes, whatever has become of the file. -/
  known : ∀ path id, session.context.id? (Location.ofPath session.directory path) = some id → ∀ disk,
    Step.register path { session with disk := disk } = (.ok (.ok id), { session with disk := disk })
  /-- A path is refused if it is unknown and no bytes can be read from it or those that can are not text. -/
  refuses : ∀ path, (∃ complaint, (Step.register path session).1 = .ok (.error complaint)) ↔
    session.context.id? (Location.ofPath session.directory path) = none ∧
      ∀ bytes, session.disk.read session.directory (Location.ofPath session.directory path).path = .ok bytes →
        Text.text? bytes = none
  refused : ∀ path complaint, (Step.register path session).1 = .ok (.error complaint) →
    (Step.register path session).2 = session
  current : ∀ id file, session.context.currentSource = .ok (id, file) ↔
    Call.chosen calls = some id ∧ session.context.files.file? id = some file

theorem Context.Books.registry {session : Session Memory} {calls : List Call}
    (books : Books session.directory calls session.context) : session.Registry calls where
  granted := books.granted
  ids := books.ids
  inverse := books.inverse
  distinct := books.distinct
  known path id has disk := by
    obtain ⟨other, hasToo, registered⟩ | ⟨_, unknown, _⟩ | ⟨_, unknown, _⟩ :=
      Step.register_cases path { session with disk := disk }
    · cases has.symm.trans hasToo
      exact registered
    · cases has.symm.trans unknown
    · cases has.symm.trans unknown
  refuses path := by
    rw [← Disk.readText_error_iff]
    obtain ⟨id, known, registered⟩ | ⟨contents, _, read, registered⟩ | ⟨cause, unknown, read, registered⟩ :=
      Step.register_cases path session
    · rw [registered, known]
      simp
    · rw [registered, read]
      simp
    · rw [registered, unknown, read]
      simp
  refused path complaint answered := by
    obtain ⟨id, _, registered⟩ | ⟨contents, _, _, registered⟩ | ⟨cause, _, _, registered⟩ :=
      Step.register_cases path session
    all_goals rw [registered] at answered ⊢
    cases answered
  current id file := by rw [← books.current, Context.currentSource_eq_ok_iff]

/-- The contract of registration, after every history of a session that begins without files: what is known is in
step, and what is known of a file never changes, whatever happens later. -/
theorem history_registry {flags : DebugFlags} {disk : Disk} {directory : List Name} {shown : List String}
    {memory : Memory} {history later : List (Happening Memory)} {calls more : List Call}
    {middle last : Session Memory}
    (lived : Session.Lives ⟨{ flags := flags }, disk, directory, shown, memory⟩ history calls middle)
    (onward : middle.Lives later more last) :
    middle.Registry calls ∧
      ∀ id file, middle.context.files.file? id = some file → last.context.files.file? id = some file := by
  have books : Context.Books middle.directory calls middle.context :=
    Context.Books.leads lived.leads (.empty directory flags)
  refine ⟨books.registry, fun id file found => ?_⟩
  obtain ⟨added, files⟩ := onward.leads.files
  rw [Sources.file?] at found ⊢
  rw [← files, List.getElem?_append_left (List.getElem?_eq_some_iff.mp found).1, found]

/-- A file that is registered as `a` and as `b/../a`, in a file system that is then lost. -/
theorem history_registry_spellings :
    let path : Path := ⟨[0x61]⟩
    let other : Path := ⟨[0x62, 0x2F, 0x2E, 0x2E, 0x2F, 0x61]⟩
    let start : Session Unit := ⟨{}, Disk.empty.put [[0x61]] (.file (.bytes [0x78]) false), [], [], ()⟩
    let entered : Session Unit := { start with context := (start.context.enter (.rooted [[0x61]]) "x").2 }
    let calls := [.register path (.ok ⟨0⟩), .register other (.ok ⟨0⟩)]
    let lost : Session Unit := { entered with disk := .empty }
    start.Lives [.register path, .register other] calls entered ∧ entered.Lives [.disk .empty] [] lost ∧
      entered.Registry calls ∧
      ∀ id file, entered.context.files.file? id = some file → lost.context.files.file? id = some file := by
  intro path other start entered calls lost
  have first : Step.register path start = (.ok (.ok ⟨0⟩), entered) := rfl
  have again : Step.register other entered = (.ok (.ok ⟨0⟩), entered) := rfl
  have lived : start.Lives [.register path, .register other] calls entered :=
    .register first (.register again (.stay entered))
  have onward : entered.Lives [.disk .empty] [] lost := .disk (.stay lost)
  exact ⟨lived, onward, history_registry lived onward⟩

end StageZero
