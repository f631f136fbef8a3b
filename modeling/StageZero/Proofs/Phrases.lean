import Mathlib.Data.List.Forall2
import StageZero.CommandLine.Resolve
import StageZero.Proofs.Spelling

/-! The phrases of a command line: words that belong together, and what they ask for. Reading grants what a phrase asks
for, unless that was asked for before, and goes on with the words behind it. -/
namespace StageZero

/-! ### What is asked for -/

inductive Wish where
  | on (switch : Switch)
  | set (setting : Setting) (value : String)
  | file (text : String)
deriving DecidableEq

/-- Letters of switches. -/
abbrev Letters (switches : List Switch) (letters : List Char) : Prop :=
  List.Forall₂ (fun switch letter => Switch.letter? switch = some letter) switches letters

namespace Wish

/-- Two wishes of which neither repeats the other. -/
def Other : Wish → Wish → Prop
  | .on switch, .on again => switch ≠ again
  | .set setting _, .set again _ => setting ≠ again
  | _, _ => True

theorem Other.symm {a b : Wish} (other : Other a b) : Other b a := by
  cases a <;> cases b
  case on.on | set.set => exact Ne.symm other
  all_goals trivial

/-- Wishes of which none repeats another. -/
def Single (wishes : List Wish) : Prop := wishes.Pairwise Other

theorem Single.left {wishes more : List Wish} (single : Single (wishes ++ more)) : Single wishes :=
  (List.pairwise_append.mp single).1

theorem Single.last {wishes : List Wish} {wish : Wish} (single : Single (wishes ++ [wish])) :
    ∀ earlier ∈ wishes, Other earlier wish := fun earlier member =>
  (List.pairwise_append.mp single).2.2 earlier member wish (List.mem_singleton_self _)

def switch? : Wish → Option Switch
  | .on switch => some switch
  | .set .. | .file _ => none

def setting? : Wish → Option (Setting × String)
  | .set setting value => some (setting, value)
  | .on _ | .file _ => none

def file? : Wish → Option String
  | .file text => some text
  | .on _ | .set .. => none

end Wish

open Wish (Single)

/-! ### Phrases -/

/-- A text that can stand in a word of its own as a value or a file. It is not empty, and does not look like a key: one
dash is no key. -/
def Separate (text : String) : Prop := text ≠ "" ∧ (text.toList.head? = some '-' → text.toList = ['-'])

/-- Words that belong together, and what they ask for. -/
inductive Phrase : List String → List Wish → Prop
  /-- The letters of some switches in one word, as `-lpt`. -/
  | letters {switches letters} : Letters switches letters → letters ≠ [] →
      Phrase [String.ofList ('-' :: letters)] (switches.map .on)
  /-- Perhaps some switches and a setting, and all that is left of the word as its value, as `-lpobin`. -/
  | attached {switches letters setting c value} : Letters switches letters → c ≠ '=' →
      Phrase [String.ofList ('-' :: (letters ++ setting.letter :: c :: value))]
        (switches.map .on ++ [.set setting (String.ofList (c :: value))])
  /-- The same with a sign in front of the value, as `-lpo=bin`. -/
  | equal {switches letters setting value} : Letters switches letters → value ≠ "" →
      Phrase [String.ofList ('-' :: (letters ++ setting.letter :: '=' :: value.toList))]
        (switches.map .on ++ [.set setting value])
  /-- The same with the value in the next word, as `-lpo bin`. -/
  | apart {switches letters setting value} : Letters switches letters → Separate value →
      Phrase [String.ofList ('-' :: (letters ++ [setting.letter])), value] (switches.map .on ++ [.set setting value])
  /-- A switch by its name, as `--debug-print`. -/
  | name {switch name} : Switch.name? switch = some name → Phrase ["--" ++ name] [.on switch]
  /-- A setting by its name, as `--binary-dir=bin`. -/
  | nameEqual {setting value} : value ≠ "" → Phrase ["--" ++ setting.name ++ "=" ++ value] [.set setting value]
  /-- The same with the value in the next word, as `--binary-dir bin`. -/
  | nameApart {setting value} : Separate value → Phrase ["--" ++ setting.name, value] [.set setting value]
  | file {text} : Separate text → Phrase [text] [.file text]

/-- Phrases one after the other. -/
inductive Phrases : List String → List Wish → Prop
  | nothing : Phrases [] []
  | more {words wishes later others} : Phrase words wishes → Phrases later others →
      Phrases (words ++ later) (wishes ++ others)

/-! ### Granting -/

namespace Request

/-- The request of some wishes, in their order. -/
def ofWishes (wishes : List Wish) : Request :=
  ⟨wishes.filterMap Wish.switch?, wishes.filterMap Wish.setting?, wishes.filterMap Wish.file?⟩

variable {wishes : List Wish}

theorem mem_switches_iff {switch : Switch} : switch ∈ (ofWishes wishes).switches ↔ .on switch ∈ wishes := by
  rw [ofWishes, List.mem_filterMap]
  constructor
  · rintro ⟨wish, member, same⟩
    cases wish <;> cases same
    exact member
  · exact fun member => ⟨_, member, rfl⟩

theorem mem_settings_iff {setting : Setting} {value : String} :
    (setting, value) ∈ (ofWishes wishes).settings ↔ .set setting value ∈ wishes := by
  rw [ofWishes, List.mem_filterMap]
  constructor
  · rintro ⟨wish, member, same⟩
    cases wish <;> cases same
    exact member
  · exact fun member => ⟨_, member, rfl⟩

theorem value?_eq_none_iff {setting : Setting} :
    (ofWishes wishes).value? setting = none ↔ ∀ value, .set setting value ∉ wishes := by
  rw [value?, List.lookup_eq_none_iff]
  constructor
  · intro absent value member
    exact absurd rfl (bne_iff_ne.mp (absent _ (mem_settings_iff.mpr member)))
  · rintro absent ⟨found, value⟩ member
    rw [bne_iff_ne]
    rintro rfl
    exact absent value (mem_settings_iff.mp member)

theorem turnOn_wish {switch : Switch} (single : Single (wishes ++ [.on switch])) :
    (ofWishes wishes).turnOn switch = .ok (ofWishes (wishes ++ [.on switch])) := by
  have fresh : switch ∉ (ofWishes wishes).switches := fun member =>
    single.last _ (mem_switches_iff.mp member) rfl
  rw [turnOn, if_neg fresh]
  simp [ofWishes, Wish.switch?, Wish.setting?, Wish.file?]

theorem give_wish {setting : Setting} {value : String} (filled : value ≠ "")
    (single : Single (wishes ++ [.set setting value])) :
    (ofWishes wishes).give setting value = .ok (ofWishes (wishes ++ [.set setting value])) := by
  have fresh : (ofWishes wishes).value? setting = none :=
    value?_eq_none_iff.mpr fun _ member => single.last _ member rfl
  rw [give, fresh, Option.isSome_none, if_neg Bool.false_ne_true, if_neg filled]
  simp [ofWishes, Wish.switch?, Wish.setting?, Wish.file?]

theorem addFiles_wishes {files : List String} (filled : "" ∉ files) :
    (ofWishes wishes).addFiles files = .ok (ofWishes (wishes ++ files.map .file)) := by
  have none : (files.map Wish.file).filterMap Wish.switch? = [] :=
    List.filterMap_eq_nil_iff.mpr (List.forall_mem_map.mpr fun _ _ => rfl)
  have unset : (files.map Wish.file).filterMap Wish.setting? = [] :=
    List.filterMap_eq_nil_iff.mpr (List.forall_mem_map.mpr fun _ _ => rfl)
  have every : (files.map Wish.file).filterMap Wish.file? = files := by
    rw [List.filterMap_map]
    exact List.filterMap_some
  rw [addFiles, if_neg filled]
  simp only [ofWishes, List.filterMap_append, none, unset, every, List.append_nil]

theorem addFiles_append {request between next : Request} {files more : List String}
    (first : request.addFiles files = .ok between) (second : between.addFiles more = .ok next) :
    request.addFiles (files ++ more) = .ok next := by
  unfold addFiles at first second ⊢
  split at first
  · cases first
  · rename_i filled
    cases first
    split at second
    · cases second
    · rename_i moreFilled
      cases second
      rw [if_neg (mt List.mem_append.mp (not_or.mpr ⟨filled, moreFilled⟩)), List.append_assoc]

end Request

/-! ### Words -/

namespace Word

theorem ofChars_short {letter : Char} (other : letter ≠ '-') (letters : List Char) :
    ofChars ('-' :: letter :: letters) = .short (letter :: letters) := by
  unfold ofChars
  split <;> simp_all

theorem ofChars_plain {text : List Char} (other : text.head? = some '-' → text = ['-']) :
    ofChars text = .plain (String.ofList text) := by
  unfold ofChars
  split <;> simp_all

theorem name_inside {name : List Char} (plain : '=' ∉ name) : ∀ c ∈ name, decide (c ≠ '=') = true := by
  intro c member
  refine decide_eq_true ?_
  rintro rfl
  exact plain member

/-- A name behind two dashes. -/
theorem ofChars_name {name : List Char} (some : name ≠ []) (plain : '=' ∉ name) :
    ofChars ('-' :: '-' :: name) = .long (String.ofList name) none := by
  obtain ⟨first, letters, rfl⟩ := List.exists_cons_of_ne_nil some
  have alone := Token.run_append (name_inside plain) (fun _ none => nomatch none : ∀ c ∈ ([] : List Char).head?, _)
  rw [List.append_nil] at alone
  rw [ofChars, alone.1, alone.2]
  exact nofun

/-- A name goes on up to the first equals sign. -/
theorem ofChars_nameEqual {name : List Char} (plain : '=' ∉ name) (value : List Char) :
    ofChars ('-' :: '-' :: (name ++ '=' :: value)) = .long (String.ofList name) (some (String.ofList value)) := by
  have behind : ∀ c ∈ ('=' :: value).head?, decide (c ≠ '=') = false := by
    rintro _ ⟨rfl⟩
    rfl
  obtain ⟨run, left⟩ := Token.run_append (name_inside plain) behind
  rw [ofChars, run, left]
  simp

end Word

/-! ### Keys -/

theorem Letters.dashless {switches : List Switch} {letters : List Char} (lettered : Letters switches letters) :
    ∀ letter ∈ letters, letter ≠ '-' := by
  induction lettered with
  | nil => exact List.forall_mem_nil _
  | @cons switch letter _ _ spelled _ ih =>
      refine List.forall_mem_cons.mpr ⟨?_, ih⟩
      cases switch <;> cases spelled <;> decide

theorem Setting.letter_ne_dash (setting : Setting) : setting.letter ≠ '-' := by
  cases setting <;> decide

/-- A name that can stand behind two dashes. -/
theorem Key.name_spelling {key : Key} {name : String} (long : key.name? = some name) :
    name ≠ "" ∧ '=' ∉ name.toList := by
  cases key with
  | switch s => cases s <;> cases long <;> decide
  | setting s => cases s <;> cases long <;> decide
  | version => cases long; decide
  | help => cases long; decide

theorem Setting.name_spelling (setting : Setting) : setting.name ≠ "" ∧ '=' ∉ setting.name.toList :=
  @Key.name_spelling (.setting setting) setting.name rfl

/-! ### Reading -/

namespace Reader

variable {reader : Reader} {wishes : List Wish} {word : String} {later : List String}

theorem read_letters {letters : List Char} (shape : Word.ofChars word.toList = .short letters) :
    reader.read (word :: later) = (reader.takeLetters letters).bind fun next => next.read later := by
  rw [read, shape]
  rfl

theorem read_name {name : String} {value : Option String} (shape : Word.ofChars word.toList = .long name value) :
    reader.read (word :: later) = (reader.takeLong name value).bind fun next => next.read later := by
  rw [read, shape]
  rfl

theorem read_short {letters : List Char} {next : Reader} (shape : Word.ofChars word.toList = .short letters)
    (taken : reader.takeLetters letters = .ok next) : reader.read (word :: later) = next.read later := by
  rw [read_letters shape, taken]
  rfl

theorem read_long {name : String} {value : Option String} {next : Reader}
    (shape : Word.ofChars word.toList = .long name value) (taken : reader.takeLong name value = .ok next) :
    reader.read (word :: later) = next.read later := by
  rw [read_name shape, taken]
  rfl

theorem read_plain {text : String} {next : Reader} (shape : Word.ofChars word.toList = .plain text)
    (taken : reader.takePlain text = .ok next) : reader.read (word :: later) = next.read later := by
  rw [read, shape]
  dsimp only
  rw [taken]
  rfl

theorem settle_nothing (request : Request) : settle ⟨request, .nothing⟩ = .ok request := rfl

theorem settleWith_of {request next : Request} {step : Request → Except Stop Request}
    (settled : reader.settle = .ok request) (stepped : step request = .ok next) :
    reader.settleWith step = .ok ⟨next, .nothing⟩ := by
  simp only [settleWith, settled, bind, Except.bind, stepped]
  rfl

/-- What is settled grants a switch. -/
theorem takeKey_switch {switch : Switch} (settled : reader.settle = .ok (.ofWishes wishes))
    (single : Single (wishes ++ [.on switch])) :
    reader.takeKey (.switch switch) = .ok ⟨.ofWishes (wishes ++ [.on switch]), .nothing⟩ :=
  settleWith_of settled (Request.turnOn_wish single)

/-- What is settled waits for a value. -/
theorem takeKey_setting {setting : Setting} (settled : reader.settle = .ok (.ofWishes wishes)) :
    reader.takeKey (.setting setting) = .ok ⟨.ofWishes wishes, .value setting⟩ := by
  rw [takeKey, settleThen, settled]
  rfl

theorem settleWith_give {setting : Setting} {value : String} (settled : reader.settle = .ok (.ofWishes wishes))
    (filled : value ≠ "") (single : Single (wishes ++ [.set setting value])) :
    (reader.settleWith fun request => request.give setting value) =
      .ok ⟨.ofWishes (wishes ++ [.set setting value]), .nothing⟩ :=
  settleWith_of settled (Request.give_wish filled single)

/-- A value in a word of its own is granted when the next word is read. -/
theorem settle_given {setting : Setting} {value : String} (filled : value ≠ "")
    (single : Single (wishes ++ [.set setting value])) :
    settle ⟨.ofWishes wishes, .given setting value⟩ = .ok (.ofWishes (wishes ++ [.set setting value])) :=
  Request.give_wish filled single

theorem takePlain_value {request : Request} {setting : Setting} (value : String) :
    takePlain ⟨request, .value setting⟩ value = .ok ⟨request, .given setting value⟩ := rfl

/-- A file waits until the next word that is no file. -/
theorem takePlain_file {text : String} (settled : reader.settle = .ok (.ofWishes wishes)) (filled : text ≠ "") :
    ∃ next, reader.takePlain text = .ok next ∧ next.settle = .ok (.ofWishes (wishes ++ [.file text])) := by
  obtain ⟨request, pending⟩ := reader
  have alone : "" ∉ [text] := fun member => filled (List.mem_singleton.mp member).symm
  have added : (Request.ofWishes wishes).addFiles [text] = .ok (.ofWishes (wishes ++ [.file text])) :=
    Request.addFiles_wishes alone
  cases pending with
  | value setting => cases settled
  | nothing | given =>
      refine ⟨⟨.ofWishes wishes, .files [text]⟩, ?_, added⟩
      rw [takePlain]
      dsimp only
      rw [settleThen, settled]
      rfl
  | files files => exact ⟨⟨request, .files (files ++ [text])⟩, rfl, Request.addFiles_append settled added⟩

theorem ofLetter?_setting (setting : Setting) : Key.ofLetter? setting.letter = some (.setting setting) :=
  Key.ofLetter?_letter (.setting setting) setting.letter rfl

theorem takeLetters_switch {switch : Switch} {letter : Char} (spelled : switch.letter? = some letter)
    (rest : List Char) :
    reader.takeLetters (letter :: rest) = (reader.takeKey (.switch switch)).bind (·.takeLetters rest) := by
  have key : Key.ofLetter? letter = some (.switch switch) := Key.ofLetter?_letter (.switch switch) letter spelled
  rw [takeLetters.eq_def]
  simp only [key]
  rfl

/-- The letter of a setting that ends its word waits for a value. -/
theorem takeLetters_apart {setting : Setting} (settled : reader.settle = .ok (.ofWishes wishes)) :
    reader.takeLetters [setting.letter] = .ok ⟨.ofWishes wishes, .value setting⟩ := by
  rw [takeLetters.eq_def]
  simp only [ofLetter?_setting, takeKey_setting settled]
  rfl

/-- The letter of a setting takes the rest of its word. -/
theorem takeLetters_attached {setting : Setting} {c : Char} (sign : c ≠ '=') (value : List Char) :
    reader.takeLetters (setting.letter :: c :: value) =
      reader.settleWith fun request => request.give setting (String.ofList (c :: value)) := by
  rw [takeLetters.eq_def]
  simp only [ofLetter?_setting]

theorem takeLetters_equal {setting : Setting} (value : List Char) :
    reader.takeLetters (setting.letter :: '=' :: value) =
      reader.settleWith fun request => request.give setting (String.ofList value) := by
  rw [takeLetters.eq_def]
  simp only [ofLetter?_setting]

/-- Letters of switches are granted one after the other, whatever stands behind them. -/
theorem takeLetters_switches {switches : List Switch} {letters : List Char} (lettered : Letters switches letters)
    (settled : reader.settle = .ok (.ofWishes wishes)) (single : Single (wishes ++ switches.map .on)) :
    ∃ next : Reader, next.settle = .ok (.ofWishes (wishes ++ switches.map .on)) ∧
      ∀ rest, reader.takeLetters (letters ++ rest) = next.takeLetters rest := by
  induction lettered generalizing reader wishes with
  | nil => exact ⟨reader, by rwa [List.map_nil, List.append_nil], fun _ => rfl⟩
  | @cons switch letter switches letters spelled _ ih =>
      rw [List.map_cons, List.append_cons] at single ⊢
      have later :
          settle ⟨.ofWishes (wishes ++ [.on switch]), .nothing⟩ = .ok (.ofWishes (wishes ++ [.on switch])) := rfl
      obtain ⟨next, nextSettled, goes⟩ := ih later single
      refine ⟨next, nextSettled, fun rest => ?_⟩
      rw [← goes, List.cons_append, takeLetters_switch spelled, takeKey_switch settled single.left]
      rfl

/-! ### Words that make up phrases -/

theorem shape_short {letters : List Char} (some : letters ≠ []) (dashless : ∀ letter ∈ letters.head?, letter ≠ '-') :
    Word.ofChars (String.ofList ('-' :: letters)).toList = .short letters := by
  obtain ⟨first, later, rfl⟩ := List.exists_cons_of_ne_nil some
  rw [String.toList_ofList]
  exact Word.ofChars_short (dashless first rfl) later

/-- Letters of switches make up a word of letters with what stands behind them. -/
theorem shape_letters {switches : List Switch} {letters tail : List Char} {letter : Char}
    (lettered : Letters switches letters) (other : letters = [] → letter ≠ '-') :
    Word.ofChars (String.ofList ('-' :: (letters ++ letter :: tail))).toList = .short (letters ++ letter :: tail) := by
  refine shape_short (List.append_ne_nil_of_right_ne_nil _ (List.cons_ne_nil _ _)) ?_
  cases lettered with
  | nil =>
      rintro _ ⟨rfl⟩
      exact other rfl
  | cons spelled lettered =>
      rintro _ ⟨rfl⟩
      exact Letters.dashless (.cons spelled lettered) _ (List.mem_cons_self ..)

theorem shape_separate {text : String} (separate : Separate text) : Word.ofChars text.toList = .plain text := by
  rw [Word.ofChars_plain separate.2, String.ofList_toList]

theorem shape_name {name : String} (filled : name ≠ "") (plain : '=' ∉ name.toList) :
    Word.ofChars ("--" ++ name).toList = .long name none := by
  have shape : ("--" ++ name).toList = '-' :: '-' :: name.toList := by simp
  have some : name.toList ≠ [] := fun empty => filled (String.toList_eq_nil_iff.mp empty)
  rw [shape, Word.ofChars_name some plain, String.ofList_toList]

theorem shape_nameEqual {name : String} (plain : '=' ∉ name.toList) (value : String) :
    Word.ofChars ("--" ++ name ++ "=" ++ value).toList = .long name (some value) := by
  have shape : ("--" ++ name ++ "=" ++ value).toList = '-' :: '-' :: (name.toList ++ '=' :: value.toList) := by simp
  rw [shape, Word.ofChars_nameEqual plain, String.ofList_toList, String.ofList_toList]

/-- A word of letters that ends with a setting, and perhaps with its value. -/
theorem read_cluster {switches : List Switch} {letters tail : List Char} {setting : Setting} {next : Reader}
    (lettered : Letters switches letters) (settled : reader.settle = .ok (.ofWishes wishes))
    (single : Single (wishes ++ switches.map .on))
    (taken : ∀ behind : Reader, behind.settle = .ok (.ofWishes (wishes ++ switches.map .on)) →
      behind.takeLetters (setting.letter :: tail) = .ok next) (later : List String) :
    reader.read (String.ofList ('-' :: (letters ++ setting.letter :: tail)) :: later) = next.read later := by
  obtain ⟨behind, behindSettled, goes⟩ := takeLetters_switches lettered settled single
  exact read_short (shape_letters lettered fun _ => setting.letter_ne_dash)
    ((goes _).trans (taken behind behindSettled))

/-- A phrase is granted what it asks for, and reading goes on with what stands behind it. -/
theorem read_phrase {words : List String} {asked : List Wish} (phrase : Phrase words asked)
    (settled : reader.settle = .ok (.ofWishes wishes)) (single : Single (wishes ++ asked)) :
    ∃ next : Reader, next.settle = .ok (.ofWishes (wishes ++ asked)) ∧
      ∀ later, reader.read (words ++ later) = next.read later := by
  cases phrase with
  | @letters switches letters lettered some =>
      obtain ⟨next, nextSettled, goes⟩ := takeLetters_switches lettered settled single
      refine ⟨next, nextSettled, fun later => read_short (shape_short some ?_) ?_⟩
      · exact fun letter member => lettered.dashless letter (List.mem_of_mem_head? member)
      · rw [← List.append_nil letters, goes]
        rfl
  | @attached switches letters setting c value lettered sign =>
      rw [← List.append_assoc] at single ⊢
      refine ⟨_, settle_nothing _, read_cluster lettered settled single.left fun _ behind => ?_⟩
      have filled : String.ofList (c :: value) ≠ "" := by simp
      rw [takeLetters_attached sign, settleWith_give behind filled single]
  | @equal switches letters setting value lettered filled =>
      rw [← List.append_assoc] at single ⊢
      refine ⟨_, settle_nothing _, read_cluster lettered settled single.left fun _ behind => ?_⟩
      rw [takeLetters_equal, String.ofList_toList, settleWith_give behind filled single]
  | @apart switches letters setting value lettered separate =>
      rw [← List.append_assoc] at single ⊢
      refine ⟨_, settle_given separate.1 single, fun later => ?_⟩
      calc reader.read ([String.ofList ('-' :: (letters ++ [setting.letter])), value] ++ later)
        _ = read ⟨.ofWishes (wishes ++ switches.map Wish.on), .value setting⟩ (value :: later) :=
          read_cluster lettered settled single.left (fun _ behind => takeLetters_apart behind) _
        _ = read ⟨.ofWishes (wishes ++ switches.map Wish.on), .given setting value⟩ later :=
          read_plain (shape_separate separate) (takePlain_value value)
  | @name switch name long =>
      have key : Key.ofName? name = some (.switch switch) := Key.ofName?_name (.switch switch) name long
      obtain ⟨named, plain⟩ := @Key.name_spelling (.switch switch) name long
      refine ⟨_, settle_nothing _, fun later => read_long (shape_name named plain) ?_⟩
      simp only [takeLong, key]
      exact takeKey_switch settled single
  | @nameEqual setting value filled =>
      have key : Key.ofName? setting.name = some (.setting setting) := Key.ofName?_name (.setting setting) _ rfl
      obtain ⟨-, plain⟩ := Setting.name_spelling setting
      refine ⟨_, settle_nothing _, fun later => read_long (shape_nameEqual plain value) ?_⟩
      simp only [takeLong, key]
      exact settleWith_give settled filled single
  | @nameApart setting value separate =>
      have key : Key.ofName? setting.name = some (.setting setting) := Key.ofName?_name (.setting setting) _ rfl
      obtain ⟨named, plain⟩ := Setting.name_spelling setting
      refine ⟨_, settle_given separate.1 single, fun later => ?_⟩
      calc reader.read (["--" ++ setting.name, value] ++ later)
        _ = read ⟨.ofWishes wishes, .value setting⟩ (value :: later) :=
          read_long (shape_name named plain) (by simp only [takeLong, key]; exact takeKey_setting settled)
        _ = read ⟨.ofWishes wishes, .given setting value⟩ later :=
          read_plain (shape_separate separate) (takePlain_value value)
  | @file text separate =>
      obtain ⟨next, taken, nextSettled⟩ := takePlain_file settled separate.1
      exact ⟨next, nextSettled, fun later => read_plain (shape_separate separate) taken⟩

theorem read_phrases {words : List String} {asked : List Wish} (phrases : Phrases words asked)
    (settled : reader.settle = .ok (.ofWishes wishes)) (single : Single (wishes ++ asked)) :
    ∃ next : Reader, next.settle = .ok (.ofWishes (wishes ++ asked)) ∧
      ∀ later, reader.read (words ++ later) = next.read later := by
  induction phrases generalizing reader wishes with
  | nothing => exact ⟨reader, by rwa [List.append_nil], fun _ => rfl⟩
  | more phrase _ ih =>
      rw [← List.append_assoc] at single ⊢
      obtain ⟨between, betweenSettled, goes⟩ := read_phrase phrase settled single.left
      obtain ⟨next, nextSettled, further⟩ := ih betweenSettled single
      refine ⟨next, nextSettled, fun later => ?_⟩
      rw [List.append_assoc, goes, further]

end Reader

theorem Request.ofWords_phrases {words : List String} {asked : List Wish} (phrases : Phrases words asked)
    (single : Single asked) : ofWords words = .ok (ofWishes asked) := by
  have start : Reader.settle {} = .ok (ofWishes []) := rfl
  obtain ⟨next, settled, goes⟩ := Reader.read_phrases phrases start single
  have whole := goes []
  rw [List.append_nil] at whole
  rw [ofWords, whole]
  exact settled

end StageZero
