import Mathlib.Data.List.Perm.Basic
import StageZero.Proofs.Phrases

/-! Command lines that ask for the same. A choice of switches, settings and a file can be spelled in many
ways, in any order and with short keys in one word, and each of them asks for what was chosen. -/
namespace StageZero

/-! ### What is spelled -/

/-- Words that stand next to each other, and what they ask for. -/
inductive Spells : List String → List Wish → Prop
  /-- The letters of some switches in one word, as `-lpt`. -/
  | letters {switches letters} : Letters switches letters → letters ≠ [] →
      Spells [String.ofList ('-' :: letters)] (switches.map .on)
  /-- Perhaps some switches and a setting with its value, as `-lpobin`. -/
  | attached {switches letters setting value} : Letters switches letters →
      Spells [String.ofList ('-' :: (letters ++ setting.letter :: value.toList))]
        (switches.map .on ++ [.set setting value])
  /-- The same with a sign in front of the value, as `-lpo=bin`. -/
  | equal {switches letters setting value} : Letters switches letters →
      Spells [String.ofList ('-' :: (letters ++ setting.letter :: '=' :: value.toList))]
        (switches.map .on ++ [.set setting value])
  /-- The same with the value in the next word, as `-lpo bin`. -/
  | apart {switches letters setting value} : Letters switches letters →
      Spells [String.ofList ('-' :: (letters ++ [setting.letter])), value] (switches.map .on ++ [.set setting value])
  /-- A switch by its name, as `--debug-print`. -/
  | name {switch name} : Switch.name? switch = some name → Spells ["--" ++ name] [.on switch]
  /-- A setting by its name, as `--binary-dir=bin`. -/
  | nameEqual {setting value} : Spells ["--" ++ setting.name ++ "=" ++ value] [.set setting value]
  /-- The same with the value in the next word, as `--binary-dir bin`. -/
  | nameApart {setting value} : Spells ["--" ++ setting.name, value] [.set setting value]
  | file {text} : Spells [text] [.file text]

/-- The words of a command line behind the program, and what they ask for. -/
inductive Arranges : List String → List Wish → Prop
  | nothing : Arranges [] []
  | more {words wishes later others} : Spells words wishes → Arranges later others →
      Arranges (words ++ later) (wishes ++ others)

/-- What a command line is to ask for: some of the switches, values for some of the settings, and a file. -/
structure Choice where
  on : Switch → Bool
  value? : Setting → Option String
  file : String

namespace Choice

def wishes (choice : Choice) : List Wish :=
  (Switch.all.filter choice.on).map .on ++
    Setting.all.filterMap (fun setting => (choice.value? setting).map (.set setting)) ++ [.file choice.file]

/-- The configuration that a choice means. What is not chosen is off or keeps its default. -/
def config (choice : Choice) (directory : List Name) : Config where
  input := .ofPath directory (.ofString choice.file)
  flags :=
    { lexer := choice.on .showTokens
      parser := choice.on .showTree
      typechecker := choice.on .showProgram
      summary := choice.on .summary }
  lineMarks := choice.on .lineMarks
  build := choice.on .build || choice.on .run
  run := choice.on .run
  prettify := choice.on .prettify
  tools :=
    { compiler := .ofString ((choice.value? .compiler).getD "clang++")
      formatter := .ofString ((choice.value? .formatter).getD "clang-format")
      style := (choice.value? .style).map .ofString
      runtime := .ofString ((choice.value? .runtime).getD "runtime")
      outputs := .ofString ((choice.value? .outputs).getD "build") }

end Choice

/-! ### Wishes that can be granted -/

/-- A value that stands for itself behind its key: it is neither empty nor mistaken for a key or for the sign in
front of a value. -/
def Evident (value : String) : Prop := ∃ c rest, value.toList = c :: rest ∧ c ≠ '-' ∧ c ≠ '='

/-- A file that is not mistaken for a key. -/
def Plainly (text : String) : Prop := ∃ c rest, text.toList = c :: rest ∧ c ≠ '-'

namespace Wish

def Clear : Wish → Prop
  | .on _ => True
  | .set _ value => Evident value
  | .file text => Plainly text

/-- Wishes of which none repeats another. -/
structure Sound (wishes : List Wish) : Prop where
  clear : ∀ wish ∈ wishes, wish.Clear
  single : wishes.Pairwise Other

theorem Sound.perm {wishes others : List Wish} (sound : Sound wishes) (perm : wishes.Perm others) : Sound others :=
  ⟨fun wish member => sound.clear wish (perm.mem_iff.mpr member), (perm.pairwise_iff Other.symm).mp sound.single⟩

end Wish

open Wish (Sound)

/-! ### Words that spell wishes -/

theorem Evident.separate {value : String} (evident : Evident value) : Separate value := by
  obtain ⟨c, rest, shape, dash, -⟩ := evident
  refine ⟨?_, fun first => ?_⟩
  · rintro rfl
    cases shape
  · rw [shape] at first
    cases first
    exact absurd rfl dash

theorem Plainly.separate {text : String} (plain : Plainly text) : Separate text := by
  obtain ⟨c, rest, shape, dash⟩ := plain
  refine ⟨?_, fun first => ?_⟩
  · rintro rfl
    cases shape
  · rw [shape] at first
    cases first
    exact absurd rfl dash

/-- Words that spell wishes are a phrase if values and files stand for themselves. -/
theorem Spells.phrase {words : List String} {asked : List Wish} (spells : Spells words asked)
    (clear : ∀ wish ∈ asked, wish.Clear) : Phrase words asked := by
  have evident {wishes : List Wish} {setting : Setting} {value : String}
      (clear : ∀ wish ∈ wishes ++ [.set setting value], wish.Clear) : Evident value :=
    clear _ (List.mem_append_right wishes (List.mem_singleton_self _))
  cases spells with
  | letters lettered some => exact .letters lettered some
  | @attached switches letters setting value lettered =>
      obtain ⟨c, rest, shape, -, sign⟩ := evident clear
      have whole : value = String.ofList (c :: rest) := by rw [← shape, String.ofList_toList]
      rw [shape, whole]
      exact .attached lettered sign
  | equal lettered => exact .equal lettered (evident clear).separate.1
  | apart lettered => exact .apart lettered (evident clear).separate
  | name long => exact .name long
  | nameEqual => exact .nameEqual (@evident [] _ _ clear).separate.1
  | nameApart => exact .nameApart (@evident [] _ _ clear).separate
  | @file text =>
      have plain : Plainly text := clear _ (List.mem_singleton_self _)
      exact .file plain.separate

theorem Arranges.phrases {words : List String} {asked : List Wish} (arranges : Arranges words asked)
    (clear : ∀ wish ∈ asked, wish.Clear) : Phrases words asked := by
  induction arranges with
  | nothing => exact .nothing
  | more spells _ ih =>
      obtain ⟨first, later⟩ := List.forall_mem_append.mp clear
      exact .more (spells.phrase first) (ih later)

/-- A command line has all its wishes granted. -/
theorem Request.ofWords_arranged {words : List String} {wishes : List Wish} (arranges : Arranges words wishes)
    (sound : Sound wishes) : ofWords words = .ok (ofWishes wishes) :=
  ofWords_phrases (arranges.phrases sound.clear) sound.single

/-! ### Choices -/

namespace Choice

variable {choice : Choice} {wishes : List Wish}

/-- What a choice has to keep to. -/
structure Valid (choice : Choice) (directory : List Name) : Prop where
  values : ∀ setting value, choice.value? setting = some value → Evident value
  file : choice.file.toList.head? ≠ some '-'
  extension : (Location.ofPath directory (.ofString choice.file)).extension = some "jakt"

theorem mem_switch {switch : Switch} : .on switch ∈ choice.wishes ↔ choice.on switch = true := by
  have every : switch ∈ Switch.all := by cases switch <;> decide
  simp [wishes, every]

theorem mem_setting {setting : Setting} {value : String} :
    .set setting value ∈ choice.wishes ↔ choice.value? setting = some value := by
  have every : setting ∈ Setting.all := by cases setting <;> decide
  simp [wishes, every]

theorem mem_file {text : String} : .file text ∈ choice.wishes ↔ text = choice.file := by
  simp [wishes]

theorem Valid.plainly {directory : List Name} (valid : choice.Valid directory) : Plainly choice.file := by
  cases shape : choice.file.toList with
  | nil =>
      have extension := valid.extension
      rw [String.toList_eq_nil_iff.mp shape] at extension
      cases extension
  | cons c rest =>
      refine ⟨c, rest, shape, ?_⟩
      rintro rfl
      exact valid.file (shape ▸ rfl)

theorem Valid.sound {directory : List Name} (valid : choice.Valid directory) : Sound choice.wishes := by
  constructor
  · intro wish member
    cases wish with
    | on => trivial
    | set setting value => exact valid.values setting value (mem_setting.mp member)
    | file text => exact mem_file.mp member ▸ valid.plainly
  · have switches : Switch.all.Nodup := by decide
    have settings : Setting.all.Nodup := by decide
    refine List.pairwise_append.mpr ⟨List.pairwise_append.mpr ⟨?_, ?_, ?_⟩, List.pairwise_singleton .., ?_⟩
    · exact List.pairwise_map.mpr (switches.filter _)
    · refine List.pairwise_filterMap.mpr (settings.imp ?_)
      intro setting other apart wish asked again otherAsked
      obtain ⟨value, -, rfl⟩ := Option.map_eq_some_iff.mp asked
      obtain ⟨otherValue, -, rfl⟩ := Option.map_eq_some_iff.mp otherAsked
      exact apart
    · intro wish member other otherMember
      obtain ⟨switch, -, rfl⟩ := List.mem_map.mp member
      obtain ⟨setting, -, asked⟩ := List.mem_filterMap.mp otherMember
      obtain ⟨value, -, rfl⟩ := Option.map_eq_some_iff.mp asked
      trivial
    · intro wish member other otherMember
      rw [List.mem_singleton.mp otherMember]
      cases wish <;> trivial

variable (perm : wishes.Perm choice.wishes)
include perm

theorem isOn_of_perm (switch : Switch) : (Request.ofWishes wishes).isOn switch = choice.on switch := by
  rw [Request.isOn, Bool.eq_iff_iff, decide_eq_true_iff, Request.mem_switches_iff, perm.mem_iff, mem_switch]

theorem value?_of_perm (setting : Setting) : (Request.ofWishes wishes).value? setting = choice.value? setting := by
  cases found : (Request.ofWishes wishes).value? setting with
  | none =>
      refine (Option.eq_none_iff_forall_ne_some.mpr fun value chosen => ?_).symm
      exact Request.value?_eq_none_iff.mp found value (perm.mem_iff.mpr (mem_setting.mpr chosen))
  | some value =>
      obtain ⟨before, behind, settings, -⟩ := List.lookup_eq_some_iff.mp found
      have member : (setting, value) ∈ (Request.ofWishes wishes).settings :=
        settings ▸ List.mem_append_right _ (List.mem_cons_self ..)
      exact (mem_setting.mp (perm.mem_iff.mp (Request.mem_settings_iff.mp member))).symm

theorem files_of_perm : (Request.ofWishes wishes).files = [choice.file] := by
  have switches : (Switch.all.filter choice.on |>.map Wish.on).filterMap Wish.file? = [] :=
    List.filterMap_eq_nil_iff.mpr (List.forall_mem_map.mpr fun _ _ => rfl)
  have settings : (Setting.all.filterMap fun setting => (choice.value? setting).map (Wish.set setting)).filterMap
      Wish.file? = [] := by
    refine List.filterMap_eq_nil_iff.mpr fun wish member => ?_
    obtain ⟨setting, -, asked⟩ := List.mem_filterMap.mp member
    obtain ⟨value, -, rfl⟩ := Option.map_eq_some_iff.mp asked
    rfl
  have files : choice.wishes.filterMap Wish.file? = [choice.file] := by
    rw [Choice.wishes, List.filterMap_append, List.filterMap_append, switches, settings]
    rfl
  exact List.perm_singleton.mp (files ▸ perm.filterMap Wish.file?)

/-- A request for what is chosen is configured as the choice means. -/
theorem config_of_perm {directory : List Name} (valid : choice.Valid directory) :
    (Request.ofWishes wishes).config directory = .ok (choice.config directory) := by
  have input : Config.ofInput directory (.ofString choice.file) =
      .ok ⟨.ofPath directory (.ofString choice.file), {}, false, false, false, false, {}⟩ := if_pos valid.extension
  simp only [Request.config, files_of_perm perm, input, Request.flags, Request.tools, Request.path?,
    isOn_of_perm perm, value?_of_perm perm, Choice.config, Option.getD_map]

end Choice

theorem Arranges.words_ne_nil {words : List String} {wishes : List Wish} (arranges : Arranges words wishes)
    (some : wishes ≠ []) : words ≠ [] := by
  cases arranges with
  | nothing => exact absurd rfl some
  | more spells => cases spells <;> exact List.cons_ne_nil _ _

/-- However a choice is spelled and ordered on a command line, it is resolved to what it means. -/
theorem resolve_arranged {directory : List Name} {choice : Choice} (valid : choice.Valid directory)
    (program : String) {words : List String} {wishes : List Wish} (arranges : Arranges words wishes)
    (perm : wishes.Perm choice.wishes) :
    resolve directory (program :: words) = .ok (.compile (choice.config directory)) := by
  have asked : wishes ≠ [] :=
    List.ne_nil_of_mem (perm.mem_iff.mpr (Choice.mem_file.mpr rfl))
  obtain ⟨first, later, rfl⟩ := List.exists_cons_of_ne_nil (arranges.words_ne_nil asked)
  have read := Request.ofWords_arranged arranges (valid.sound.perm perm.symm)
  simp only [resolve, read, Choice.config_of_perm perm valid]
  rfl

theorem resolve_arranged_grouped :
    let choice : Choice :=
      ⟨fun switch => switch ∈ [.showTokens, .run, .summary],
        fun | .outputs => some "out" | .compiler => some "g++" | _ => none, "a/../b.jakt"⟩
    choice.Valid [] ∧ resolve [] ["jakt", "-ro", "out", "a/../b.jakt", "--debug-print", "-lC=g++"] =
      .ok (.compile (choice.config [])) := by
  intro choice
  have valid : choice.Valid [] := by
    refine ⟨?_, by decide, by decide +kernel⟩
    intro setting value chosen
    cases setting <;> cases chosen
    · exact ⟨'o', ['u', 't'], by decide, by decide, by decide⟩
    · exact ⟨'g', ['+', '+'], by decide, by decide, by decide⟩
  have first : Spells ["-ro", "out"] [.on .run, .set .outputs "out"] :=
    @Spells.apart [.run] ['r'] .outputs "out" (.cons rfl .nil)
  have second : Spells ["a/../b.jakt"] [.file "a/../b.jakt"] := .file
  have third : Spells ["--debug-print"] [.on .summary] := @Spells.name .summary "debug-print" rfl
  have fourth : Spells ["-lC=g++"] [.on .showTokens, .set .compiler "g++"] :=
    @Spells.equal [.showTokens] ['l'] .compiler "g++" (.cons rfl .nil)
  refine ⟨valid, resolve_arranged valid "jakt" (.more first (.more second (.more third (.more fourth .nothing)))) ?_⟩
  decide

end StageZero
