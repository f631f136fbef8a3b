import StageZero.Proofs.Misreads

/-! What a command line is resolved to. Its words are read from left to right, phrase by phrase, and the first one that
is no part of a phrase decides: a request for help or for the version is granted, and a key that is not known is
reported, whatever stands behind it. Files are counted when all words make up phrases, and only then. -/
namespace StageZero
open Wish (Single)

/-! ### Words that decide -/

/-- A word with a name that no key has, or with such a letter behind those of switches that are not on yet. What is
shown of it is the name or the letter. -/
inductive Strange (wishes : List Wish) : String → String → Prop
  | name {name} : name ≠ "" → '=' ∉ name.toList → Key.ofName? name = none →
      Strange wishes ("--" ++ name) ("--" ++ name)
  | nameEqual {name value} : '=' ∉ name.toList → Key.ofName? name = none →
      Strange wishes ("--" ++ name ++ "=" ++ value) ("--" ++ name)
  | letter {switches letters letter more} : Letters switches letters → Single (wishes ++ switches.map .on) →
      (letters = [] → letter ≠ '-') → Key.ofLetter? letter = none →
      Strange wishes (String.ofList ('-' :: (letters ++ letter :: more))) ("-" ++ letter.toString)

/-- What is given back for a key instead of going on. -/
def Key.stop? : Key → Option Stop
  | .help => some .help
  | .version => some .version
  | .switch _ | .setting _ => none

namespace Reader
variable {reader : Reader} {wishes : List Wish} {word : String} {later : List String}

theorem takeKey_stop {key : Key} {stop : Stop} {request : Request} (settled : reader.settle = .ok request)
    (stops : key.stop? = some stop) : reader.takeKey key = .error stop := by
  cases key with
  | switch | setting => cases stops
  | help | version =>
      cases stops
      rw [takeKey, settleWith, settled]
      rfl

theorem takeLetters_stop {key : Key} {stop : Stop} {letter : Char} {request : Request}
    (settled : reader.settle = .ok request) (stops : key.stop? = some stop) (spelled : key.letter? = some letter)
    (more : List Char) :
    reader.takeLetters (letter :: more) = .error stop := by
  have found := Key.ofLetter?_letter key letter spelled
  have taken := takeKey_stop settled stops
  cases key with
  | switch | setting => cases stops
  | help | version =>
      rw [takeLetters.eq_def]
      simp only [found, taken]
      rfl

theorem letter_ne_dash {key : Key} {letter : Char} (spelled : key.letter? = some letter) : letter ≠ '-' := by
  rintro rfl
  have found := Key.ofLetter?_letter key '-' spelled
  cases found

/-- A word that asks for help or for the version is granted that. -/
theorem read_asks {key : Key} {stop : Stop} (asks : Asks wishes key word) (stops : key.stop? = some stop)
    (settled : reader.settle = .ok (.ofWishes wishes)) : reader.read (word :: later) = .error stop := by
  cases asks with
  | @name name long =>
      have found := Key.ofName?_name key name long
      obtain ⟨filled, plain⟩ := Key.name_spelling long
      have taken : reader.takeLong name none = .error stop := by
        simp only [takeLong, found]
        exact takeKey_stop settled stops
      rw [read_name (shape_name filled plain), taken]
      rfl
  | letter lettered single spelled =>
      obtain ⟨next, nextSettled, goes⟩ := takeLetters_switches lettered settled single
      rw [read_letters (shape_letters lettered fun _ => letter_ne_dash spelled), goes,
        takeLetters_stop nextSettled stops spelled]
      rfl

/-- A word with a key that is not known is reported. -/
theorem read_strange {shown : String} (strange : Strange wishes word shown)
    (settled : reader.settle = .ok (.ofWishes wishes)) :
    reader.read (word :: later) = .error (.misuse (.unexpected shown)) := by
  cases strange with
  | name filled plain unknown =>
      rw [read_name (shape_name filled plain), takeLong_strange unknown]
      rfl
  | nameEqual plain unknown =>
      rw [read_name (shape_nameEqual plain _), takeLong_strange unknown]
      rfl
  | letter lettered single first unknown =>
      obtain ⟨next, nextSettled, goes⟩ := takeLetters_switches lettered settled single
      rw [read_letters (shape_letters lettered first), goes, takeLetters_strange unknown]
      rfl

end Reader

/-! ### Whole command lines -/

/-- The words of a whole command line: phrases, and perhaps files behind two dashes. -/
inductive Reads : List String → List Wish → Prop
  | phrases {words wishes} : Phrases words wishes → Reads words wishes
  | separated {words wishes files} : Phrases words wishes → "" ∉ files →
      Reads (words ++ "--" :: files) (wishes ++ files.map .file)

theorem Request.ofWords_reads {words : List String} {asked : List Wish} (reads : Reads words asked)
    (single : Single asked) : ofWords words = .ok (ofWishes asked) := by
  cases reads with
  | phrases phrases => exact ofWords_phrases phrases single
  | separated phrases filled =>
      have start : Reader.settle {} = .ok (ofWishes []) := rfl
      obtain ⟨next, settled, goes⟩ := Reader.read_phrases phrases start single.left
      have shape : Word.ofChars "--".toList = .separator := by decide
      rw [ofWords, goes, Reader.read, shape]
      dsimp only
      rw [settled]
      exact addFiles_wishes filled

theorem Phrase.ne_nil {words : List String} {asked : List Wish} (phrase : Phrase words asked) : words ≠ [] := by
  cases phrase <;> exact List.cons_ne_nil _ _

theorem Reads.cons {words later : List String} {asked others : List Wish} (phrase : Phrase words asked)
    (reads : Reads later others) : Reads (words ++ later) (asked ++ others) := by
  cases reads with
  | phrases phrases => exact .phrases (.more phrase phrases)
  | separated phrases filled =>
      rw [← List.append_assoc, ← List.append_assoc]
      exact .separated (.more phrase phrases) filled

/-- A command line is read as a whole, or some word behind phrases asks for help or for the version, or it is
misread. -/
theorem Reader.read_whole_cases {reader : Reader} {wishes : List Wish}
    (settled : reader.settle = .ok (.ofWishes wishes)) (single : Single wishes) (words : List String) :
    (∃ asked, Reads words asked ∧ Single (wishes ++ asked)) ∨
    (∃ front asked word later, words = front ++ word :: later ∧ Phrases front asked ∧ Single (wishes ++ asked) ∧
      (Asks (wishes ++ asked) .help word ∨ Asks (wishes ++ asked) .version word)) ∨
    Misread (reader.read words) := by
  induction size : words.length using Nat.strongRecOn generalizing reader wishes words with
  | ind n ih =>
      cases words with
      | nil => exact .inl ⟨[], .phrases .nothing, by rwa [List.append_nil]⟩
      | cons word later =>
          rcases read_cases settled single word later with
            ⟨own, asked, rest, parts, phrase, fresh⟩ | ⟨rfl, parted⟩ | asks | misread
          · obtain ⟨next, nextSettled, goes⟩ := read_phrase phrase settled fresh
            have shorter : rest.length < n := by
              have := List.length_pos_iff.mpr phrase.ne_nil
              rw [← size, parts, List.length_append]
              omega
            rw [parts, goes]
            rcases ih _ shorter nextSettled fresh rest rfl with
              ⟨others, reads, whole⟩ | ⟨front, others, stopping, behind, rfl, phrases, whole, asks⟩ | misread
            · rw [List.append_assoc] at whole
              exact .inl ⟨_, .cons phrase reads, whole⟩
            · rw [List.append_assoc] at whole asks
              exact .inr (.inl ⟨own ++ front, _, stopping, behind, by simp, .more phrase phrases, whole, asks⟩)
            · exact .inr (.inr misread)
          · by_cases empty : "" ∈ later
            · rw [parted]
              exact .inr (.inr (Request.addFiles_misread_iff.mpr empty))
            · exact .inl ⟨later.map .file, .separated .nothing empty, single.files later⟩
          · refine .inr (.inl ⟨[], [], word, later, rfl, .nothing, ?_, ?_⟩)
            · rwa [List.append_nil]
            · rwa [List.append_nil]
          · exact .inr (.inr misread)

/-! ### What a command line is resolved to -/

theorem Request.isOn_ofWishes (wishes : List Wish) (switch : Switch) :
    (ofWishes wishes).isOn switch = decide (.on switch ∈ wishes) :=
  decide_eq_decide.mpr mem_switches_iff

/-- Files are counted, and then a single one has its extension looked at. -/
theorem Request.config_ofWishes (directory : List Name) (wishes : List Wish) :
    let result := (ofWishes wishes).config directory
    let files := wishes.filterMap Wish.file?
    (files = [] → result = .error .missingInput) ∧ (2 ≤ files.length → result = .error .tooManyInputs) ∧
      ∀ file, files = [file] →
        let input := Location.ofPath directory (.ofString file)
        (input.extension ≠ some "jakt" → result = .error (.wrongExtension input)) ∧
        (input.extension = some "jakt" → ∃ config, result = .ok config ∧ config.input = input ∧
          (config.run = true → config.build = true) ∧
          config.mode =
            if .on .run ∈ wishes then .buildAndRun else if .on .build ∈ wishes then .build else .emit) := by
  intro result files
  have counted : (ofWishes wishes).files = files := rfl
  refine ⟨?_, ?_, ?_⟩
  · intro none
    simp only [result, config, counted, none]
  · intro many
    cases shape : files with
    | nil => simp [shape] at many
    | cons first later =>
        cases later with
        | nil => simp [shape] at many
        | cons second later => simp only [result, config, counted, shape]
  · intro file one input
    constructor
    · intro wrong
      have refused : Config.ofInput directory (.ofString file) = .error (.wrongExtension input) := if_neg wrong
      simp only [result, config, counted, one, refused]
    · intro right
      have taken : Config.ofInput directory (.ofString file) = .ok ⟨input, {}, false, false, false, false, {}⟩ :=
        if_pos right
      refine ⟨_, by simp only [result, config, counted, one, taken]; rfl, rfl, ?_, ?_⟩
      · intro run
        exact Bool.or_eq_true_iff.mpr (.inr run)
      · simp only [Config.mode, isOn_ofWishes]
        by_cases run : .on .run ∈ wishes <;> by_cases build : .on .build ∈ wishes <;> simp [run, build]

theorem resolve_eq (directory : List Name) (program : String) {words : List String} (some : words ≠ []) :
    resolve directory (program :: words) =
      match Request.ofWords words with
      | .error .help => .ok .help
      | .error .version => .ok .version
      | .error (.misuse misuse) => .error (.invalid misuse)
      | .ok request => (request.config directory).map .compile := by
  obtain ⟨first, later, rfl⟩ := List.exists_cons_of_ne_nil some
  rfl

/-- Words are resolved from left to right. A word behind phrases that asks for help or for the version is granted that,
and one with a key that is not known is reported, whatever words and files there are. When all words are read, it is the
files that decide, and then the extension of the only one. There is nothing else but misuse. -/
theorem resolve_decided (directory : List Name) (program : String) :
    (∀ front asked word later, Phrases front asked → Single asked →
      let result := resolve directory (program :: (front ++ word :: later))
      (Asks asked .help word → result = .ok .help) ∧ (Asks asked .version word → result = .ok .version) ∧
        ∀ shown, Strange asked word shown → result = .error (.invalid (.unexpected shown))) ∧
    (∀ words asked, words ≠ [] → Reads words asked → Single asked →
      let result := resolve directory (program :: words)
      let files := asked.filterMap Wish.file?
      (files = [] → result = .error .missingInput) ∧ (2 ≤ files.length → result = .error .tooManyInputs) ∧
        ∀ file, files = [file] →
          let input := Location.ofPath directory (.ofString file)
          (input.extension ≠ some "jakt" → result = .error (.wrongExtension input)) ∧
          (input.extension = some "jakt" → ∃ config, result = .ok (.compile config) ∧ config.input = input ∧
            (config.run = true → config.build = true) ∧
            config.mode =
              if .on .run ∈ asked then .buildAndRun else if .on .build ∈ asked then .build else .emit)) ∧
    ∀ words, words ≠ [] →
      (∃ asked, Reads words asked ∧ Single asked) ∨
      (∃ front asked word later, words = front ++ word :: later ∧ Phrases front asked ∧ Single asked ∧
        (Asks asked .help word ∨ Asks asked .version word)) ∨
      ∃ misuse, resolve directory (program :: words) = .error (.invalid misuse) := by
  have start : Reader.settle {} = .ok (Request.ofWishes []) := rfl
  refine ⟨?_, ?_, ?_⟩
  · intro front asked word later phrases single result
    obtain ⟨next, settled, goes⟩ := Reader.read_phrases phrases start single
    have read : Request.ofWords (front ++ word :: later) = next.read (word :: later) := goes _
    have some : front ++ word :: later ≠ [] := List.append_ne_nil_of_right_ne_nil _ (List.cons_ne_nil _ _)
    have resolved := resolve_eq directory program some
    rw [read] at resolved
    refine ⟨fun asks => ?_, fun asks => ?_, fun shown strange => ?_⟩
    · rwa [Reader.read_asks asks rfl settled] at resolved
    · rwa [Reader.read_asks asks rfl settled] at resolved
    · rwa [Reader.read_strange strange settled] at resolved
  · intro words asked some reads single result files
    have resolved : result = ((Request.ofWishes asked).config directory).map .compile := by
      change resolve directory (program :: words) = _
      rw [resolve_eq directory program some, Request.ofWords_reads reads single]
    obtain ⟨none, many, one⟩ := Request.config_ofWishes directory asked
    refine ⟨fun empty => ?_, fun more => ?_, fun file alone => ⟨fun wrong => ?_, fun right => ?_⟩⟩
    · rw [resolved, none empty]
      rfl
    · rw [resolved, many more]
      rfl
    · rw [resolved, (one file alone).1 wrong]
      rfl
    · obtain ⟨config, configured, meant⟩ := (one file alone).2 right
      refine ⟨config, ?_, meant⟩
      rw [resolved, configured]
      rfl
  · intro words some
    rcases Reader.read_whole_cases start .nil words with whole | asks | ⟨misuse, misread⟩
    · exact .inl whole
    · exact .inr (.inl asks)
    · refine .inr (.inr ⟨misuse, ?_⟩)
      have read : Request.ofWords words = .error (.misuse misuse) := misread
      rw [resolve_eq directory program some, read]

/-- What looks like a request for help is none as a value, and the version is given whatever stands behind its
letter. -/
example : resolve [] ["jakt", "a", "b", "-o-h", "-lbv?", "--no-such-key"] = .ok .version := by decide +kernel

end StageZero
