import StageZero.Proofs.Phrases

/-! Words that are no part of a phrase. What stands in front of them is granted, and they either ask for help or for the
version, part off files, or are misread, whatever stands behind them. -/
namespace StageZero
open Wish (Single)

/-- A word that asks for a key by its name, or by its letter behind those of switches that are not on yet. -/
inductive Asks (wishes : List Wish) (key : Key) : String → Prop
  | name {name} : key.name? = some name → Asks wishes key ("--" ++ name)
  | letter {switches letters letter more} : Letters switches letters → Single (wishes ++ switches.map .on) →
      key.letter? = some letter → Asks wishes key (String.ofList ('-' :: (letters ++ letter :: more)))

/-- Some of the words in front are a phrase that asks for nothing again. -/
def Begins (wishes : List Wish) (words : List String) : Prop :=
  ∃ own asked rest, words = own ++ rest ∧ Phrase own asked ∧ Single (wishes ++ asked)

/-- Reading ends with a misuse. -/
def Misread {α : Type} (result : Except Stop α) : Prop := ∃ misuse, result = .error (.misuse misuse)

theorem Misread.bind {α β : Type} {result : Except Stop α} (misread : Misread result)
    (next : α → Except Stop β) :
    Misread (result.bind next) := by
  obtain ⟨misuse, rfl⟩ := misread
  exact ⟨misuse, rfl⟩

/-! ### How words are written -/

namespace Word

/-- How a word is written that looks like this. -/
def Written (word : String) : Word → Prop
  | .separator => word = "--"
  | .long name none => word = "--" ++ name
  | .long name (some value) => word = "--" ++ name ++ "=" ++ value
  | .short letters => letters ≠ [] ∧ word = String.ofList ('-' :: letters)
  | .plain text => word = text ∧ (word.toList.head? = some '-' → word.toList = ['-'])

theorem written_ofChars (word : String) : Written word (ofChars word.toList) := by
  generalize whole : word.toList = cs
  have same : word = String.ofList cs := by rw [← whole, String.ofList_toList]
  subst same
  fun_cases ofChars cs with
  | case1 => rfl
  | case2 rest _ name alone =>
      have parts : name = String.ofList rest := by
        have parts := @List.takeWhile_append_dropWhile _ (· ≠ '=') rest
        rw [alone, List.append_nil] at parts
        exact congrArg String.ofList parts
      change String.ofList ('-' :: '-' :: rest) = "--" ++ name
      rw [parts, ← String.toList_inj]
      simp
  | case3 rest _ name c value behind =>
      have sign : c = '=' := by
        have ends := List.head?_dropWhile_not (· ≠ '=') rest
        rw [behind] at ends
        simpa using ends
      have parts : rest = name.toList ++ '=' :: value := by
        have parts := @List.takeWhile_append_dropWhile _ (· ≠ '=') rest
        rw [behind, sign] at parts
        rw [String.toList_ofList]
        exact parts.symm
      change String.ofList ('-' :: '-' :: rest) = "--" ++ name ++ "=" ++ String.ofList value
      rw [parts, ← String.toList_inj]
      simp
  | case4 => exact ⟨List.cons_ne_nil _ _, rfl⟩
  | case5 cs _ _ short =>
      refine ⟨rfl, fun dash => ?_⟩
      rw [whole] at dash ⊢
      obtain ⟨more, rfl⟩ := List.head?_eq_some_iff.mp dash
      cases more with
      | nil => rfl
      | cons letter letters => exact absurd rfl (short letter letters)

end Word

theorem Key.letter_of_ofLetter? {key : Key} {letter : Char} (found : Key.ofLetter? letter = some key) :
    key.letter? = some letter :=
  of_decide_eq_true (List.find?_some (p := fun key : Key => key.letter? = some letter) found)

theorem Key.name_of_ofName? {key : Key} {name : String} (found : Key.ofName? name = some key) :
    key.name? = some name :=
  of_decide_eq_true (List.find?_some (p := fun key : Key => key.name? = some name) found)

/-! ### What can be granted -/

namespace Wish
variable {wishes : List Wish}

theorem Single.concat {wish : Wish} (single : Single wishes) (other : ∀ earlier ∈ wishes, Other earlier wish) :
    Single (wishes ++ [wish]) := by
  refine List.pairwise_append.mpr ⟨single, List.pairwise_singleton _ _, fun earlier member last same => ?_⟩
  rw [List.mem_singleton.mp same]
  exact other earlier member

theorem Single.on {switch : Switch} (single : Single wishes) (fresh : switch ∉ (Request.ofWishes wishes).switches) :
    Single (wishes ++ [.on switch]) := by
  refine single.concat fun earlier member => ?_
  cases earlier with
  | on again =>
      rintro rfl
      exact fresh (Request.mem_switches_iff.mpr member)
  | set | file => trivial

theorem Single.set {setting : Setting} {value : String} (single : Single wishes)
    (fresh : (Request.ofWishes wishes).value? setting = none) : Single (wishes ++ [.set setting value]) := by
  refine single.concat fun earlier member => ?_
  cases earlier with
  | set again found =>
      rintro rfl
      exact Request.value?_eq_none_iff.mp fresh found member
  | on | file => trivial

theorem Single.files (single : Single wishes) (files : List String) : Single (wishes ++ files.map .file) := by
  refine List.pairwise_append.mpr ⟨single, List.pairwise_map.mpr ?_, ?_⟩
  · exact List.pairwise_of_forall fun _ _ => trivial
  · intro earlier _ later member
    obtain ⟨text, -, rfl⟩ := List.mem_map.mp member
    cases earlier <;> trivial

end Wish

namespace Request
variable {wishes : List Wish}

/-- A switch is turned on if it is not on yet. -/
theorem turnOn_cases (single : Single wishes) (switch : Switch) :
    Single (wishes ++ [.on switch]) ∨ Misread ((ofWishes wishes).turnOn switch) := by
  by_cases fresh : switch ∈ (ofWishes wishes).switches
  · exact .inr ⟨_, if_pos fresh⟩
  · exact .inl (single.on fresh)

/-- A setting is given a value if that is not empty and there is none yet. -/
theorem give_cases (single : Single wishes) (setting : Setting) (value : String) :
    (value ≠ "" ∧ Single (wishes ++ [.set setting value])) ∨ Misread ((ofWishes wishes).give setting value) := by
  cases found : (ofWishes wishes).value? setting with
  | some given => exact .inr ⟨_, if_pos (by rw [found]; rfl)⟩
  | none =>
      by_cases empty : value = ""
      · refine .inr ⟨.missingValue setting, ?_⟩
        rw [give, found, Option.isSome_none, if_neg Bool.false_ne_true, if_pos empty]
      · exact .inl ⟨empty, single.set found⟩

theorem addFiles_misread_iff {request : Request} {files : List String} :
    Misread (request.addFiles files) ↔ "" ∈ files := by
  constructor
  · rintro ⟨misuse, failed⟩
    by_contra filled
    rw [addFiles, if_neg filled] at failed
    cases failed
  · exact fun empty => ⟨.emptyFile, if_pos empty⟩

end Request

/-! ### What cannot be granted -/

namespace Reader
variable {reader : Reader} {wishes : List Wish} {word : String} {later : List String}

theorem settleWith_misread (failed : Misread reader.settle) (next : Request → Except Stop Request) :
    Misread (reader.settleWith next) := by
  obtain ⟨misuse, failed⟩ := failed
  exact ⟨misuse, by rw [settleWith, failed]; rfl⟩

theorem settleWith_refused {request : Request} {next : Request → Except Stop Request}
    (settled : reader.settle = .ok request) (refused : Misread (next request)) : Misread (reader.settleWith next) := by
  obtain ⟨misuse, refused⟩ := refused
  refine ⟨misuse, ?_⟩
  simp only [settleWith, settled, bind, Except.bind, refused]

theorem settleThen_misread (failed : Misread reader.settle) (pending : Pending) :
    Misread (reader.settleThen pending) := by
  obtain ⟨misuse, failed⟩ := failed
  exact ⟨misuse, by rw [settleThen, failed]; rfl⟩

theorem takeKey_misread (failed : Misread reader.settle) (key : Key) : Misread (reader.takeKey key) := by
  cases key with
  | setting => exact settleThen_misread failed _
  | switch | version | help => exact settleWith_misread failed _

theorem takeLetters_misread (failed : Misread reader.settle) (letter : Char) (more : List Char) :
    Misread (reader.takeLetters (letter :: more)) := by
  rw [takeLetters.eq_def]
  dsimp only
  split
  · exact ⟨_, rfl⟩
  · exact settleWith_misread failed _
  · exact settleWith_misread failed _
  · exact (takeKey_misread failed _).bind _

theorem takeLong_misread (failed : Misread reader.settle) (name : String) (value : Option String) :
    Misread (reader.takeLong name value) := by
  unfold takeLong
  split
  · exact ⟨_, rfl⟩
  · exact takeKey_misread failed _
  · exact settleWith_misread failed _
  · exact ⟨_, rfl⟩

/-- A word that is neither a value nor a file is read when what stands before it is settled. -/
theorem read_misread (failed : Misread reader.settle) (key : ∀ text, Word.ofChars word.toList ≠ .plain text)
    (later : List String) : Misread (reader.read (word :: later)) := by
  cases shape : Word.ofChars word.toList with
  | plain text => exact absurd shape (key text)
  | separator =>
      obtain ⟨misuse, failed⟩ := failed
      exact ⟨misuse, by rw [read, shape]; dsimp only; rw [failed]; rfl⟩
  | long name value =>
      rw [read_name shape]
      exact (takeLong_misread failed name value).bind _
  | short letters =>
      have written := Word.written_ofChars word
      rw [shape] at written
      obtain ⟨letter, more, rfl⟩ := List.exists_cons_of_ne_nil written.1
      rw [read_letters shape]
      exact (takeLetters_misread failed letter more).bind _

/-- What is read already and cannot be settled is never mended. -/
theorem read_doomed (failed : Misread reader.settle) (complete : ∀ setting, reader.pending ≠ .value setting)
    (words : List String) : Misread (reader.read words) := by
  induction words generalizing reader with
  | nil => exact failed
  | cons word later ih =>
      by_cases plain : ∃ text, Word.ofChars word.toList = .plain text
      · obtain ⟨text, shape⟩ := plain
        obtain ⟨request, pending⟩ := reader
        cases pending with
        | nothing =>
            obtain ⟨misuse, failed⟩ := failed
            cases failed
        | value setting => exact absurd rfl (complete setting)
        | given setting value =>
            have taken : Misread (takePlain ⟨request, .given setting value⟩ text) := settleThen_misread failed _
            rw [read, shape]
            exact taken.bind _
        | files files =>
            rw [read_plain shape rfl]
            refine ih ?_ (by rintro setting ⟨⟩)
            have empty : "" ∈ files := Request.addFiles_misread_iff.mp failed
            exact Request.addFiles_misread_iff.mpr (List.mem_append_left _ empty)
      · exact read_misread failed (fun text shape => plain ⟨text, shape⟩) later

/-! ### First words -/

/-- A setting takes the next word as its value if that can stand for one. -/
theorem read_value_cases (single : Single wishes) (setting : Setting) (words : List String) :
    (∃ value later, words = value :: later ∧ Separate value ∧ Single (wishes ++ [.set setting value])) ∨
      Misread (read ⟨.ofWishes wishes, .value setting⟩ words) := by
  have waiting : Misread (settle ⟨.ofWishes wishes, .value setting⟩) := ⟨_, rfl⟩
  cases words with
  | nil => exact .inr waiting
  | cons word later =>
      by_cases plain : ∃ text, Word.ofChars word.toList = .plain text
      · obtain ⟨text, shape⟩ := plain
        have written := Word.written_ofChars word
        rw [shape] at written
        obtain ⟨rfl, dash⟩ := written
        rcases Request.give_cases single setting word with ⟨filled, single⟩ | repeated
        · exact .inl ⟨word, later, rfl, ⟨filled, dash⟩, single⟩
        · have failed : Misread (settle ⟨.ofWishes wishes, .given setting word⟩) := repeated
          rw [read_plain shape (takePlain_value word)]
          exact .inr (read_doomed failed (fun _ => nofun) later)
      · exact .inr (read_misread waiting (fun text shape => plain ⟨text, shape⟩) later)

theorem takeLetters_strange {letter : Char} (unknown : Key.ofLetter? letter = none) (more : List Char) :
    reader.takeLetters (letter :: more) = .error (.misuse (.unexpected ("-" ++ letter.toString))) := by
  rw [takeLetters.eq_def]
  simp only [unknown]

theorem takeLong_strange {name : String} (unknown : Key.ofName? name = none) (value : Option String) :
    reader.takeLong name value = .error (.misuse (.unexpected ("--" ++ name))) := by
  simp only [takeLong, unknown]

/-- Letters are those of switches that are not on yet, up to a letter of another key. -/
theorem takeLetters_cases (settled : reader.settle = .ok (.ofWishes wishes)) (single : Single wishes)
    (letters : List Char) :
    (∃ switches front rest, letters = front ++ rest ∧ Letters switches front ∧ Single (wishes ++ switches.map .on) ∧
      (rest = [] ∨ ∃ (key : Key) (letter : Char) (tail : List Char), rest = letter :: tail ∧
        key.letter? = some letter ∧ ∀ switch, key ≠ .switch switch)) ∨
      Misread (reader.takeLetters letters) := by
  induction letters generalizing reader wishes with
  | nil => exact .inl ⟨[], [], [], rfl, .nil, by simpa using single, .inl rfl⟩
  | cons letter more ih =>
      cases found : Key.ofLetter? letter with
      | none => exact .inr ⟨_, takeLetters_strange found more⟩
      | some key =>
          have spelled := Key.letter_of_ofLetter? found
          cases key with
          | switch switch =>
              rw [takeLetters_switch spelled]
              rcases Request.turnOn_cases single switch with fresh | repeated
              · rw [takeKey_switch settled fresh]
                rcases ih (settle_nothing _) fresh with ⟨switches, front, rest, rfl, lettered, all, ends⟩ | misread
                · refine .inl ⟨switch :: switches, letter :: front, rest, rfl, .cons spelled lettered, ?_, ends⟩
                  rwa [List.map_cons, List.append_cons]
                · exact .inr misread
              · have taken : Misread (reader.takeKey (.switch switch)) := settleWith_refused settled repeated
                exact .inr (taken.bind _)
          | setting | version | help =>
              refine .inl ⟨[], [], letter :: more, rfl, .nil, by simpa using single, .inr ?_⟩
              exact ⟨_, letter, more, rfl, spelled, nofun⟩

/-- An empty file is read, and is a misuse in the end. -/
theorem read_emptyFile (settled : reader.settle = .ok (.ofWishes wishes)) (shape : Word.ofChars word.toList = .plain "")
    (later : List String) : Misread (reader.read (word :: later)) := by
  obtain ⟨request, pending⟩ := reader
  have doomed (request : Request) (files : List String) :
      Misread (read ⟨request, .files (files ++ [""])⟩ later) := by
    have failed : Misread (settle ⟨request, .files (files ++ [""])⟩) :=
      Request.addFiles_misread_iff.mpr (List.mem_append_right _ (List.mem_singleton_self _))
    exact read_doomed failed (fun _ => nofun) later
  cases pending with
  | value setting => cases settled
  | files files =>
      rw [read_plain shape rfl]
      exact doomed request files
  | nothing | given =>
      rw [read, shape]
      dsimp only
      rw [takePlain]
      dsimp only
      rw [settleThen, settled]
      exact doomed _ []

/-- A word of letters begins a phrase, asks for help or for the version, or is misread. -/
theorem read_letters_cases (settled : reader.settle = .ok (.ofWishes wishes)) (single : Single wishes)
    {letters : List Char} (some : letters ≠ [])
    (shape : Word.ofChars (String.ofList ('-' :: letters)).toList = .short letters) (later : List String) :
    Begins wishes (String.ofList ('-' :: letters) :: later) ∨
    (Asks wishes .help (String.ofList ('-' :: letters)) ∨ Asks wishes .version (String.ofList ('-' :: letters))) ∨
    Misread (reader.read (String.ofList ('-' :: letters) :: later)) := by
  rcases takeLetters_cases settled single letters with ⟨switches, front, rest, rfl, lettered, all, ends⟩ | misread
  case inr =>
    rw [read_letters shape]
    exact .inr (.inr (misread.bind _))
  rcases ends with rfl | ⟨key, letter, tail, rfl, spelled, other⟩
  · rw [List.append_nil] at some ⊢
    exact .inl ⟨_, _, later, rfl, .letters lettered some, all⟩
  cases key with
  | switch switch => exact absurd rfl (other switch)
  | help => exact .inr (.inl (.inl (.letter lettered all spelled)))
  | version => exact .inr (.inl (.inr (.letter lettered all spelled)))
  | setting setting =>
      cases spelled
      obtain ⟨next, nextSettled, goes⟩ := takeLetters_switches lettered settled all
      -- the rest of the word is the value, or the next word has to be
      cases tail with
      | nil =>
          rcases read_value_cases all setting later with ⟨value, rest, rfl, separate, whole⟩ | misread
          · rw [List.append_assoc] at whole
            exact .inl ⟨_, _, rest, rfl, .apart lettered separate, whole⟩
          · rw [read_short shape ((goes _).trans (takeLetters_apart nextSettled))]
            exact .inr (.inr misread)
      | cons c value =>
          by_cases sign : c = '='
          · subst sign
            rcases Request.give_cases all setting (String.ofList value) with ⟨filled, whole⟩ | refused
            · have phrase := @Phrase.equal switches front setting _ lettered filled
              rw [String.toList_ofList] at phrase
              rw [List.append_assoc] at whole
              exact .inl ⟨_, _, later, rfl, phrase, whole⟩
            · rw [read_letters shape, goes, takeLetters_equal]
              exact .inr (.inr ((settleWith_refused nextSettled refused).bind _))
          · rcases Request.give_cases all setting (String.ofList (c :: value)) with ⟨-, whole⟩ | refused
            · rw [List.append_assoc] at whole
              exact .inl ⟨_, _, later, rfl, .attached lettered sign, whole⟩
            · rw [read_letters shape, goes, takeLetters_attached sign]
              exact .inr (.inr ((settleWith_refused nextSettled refused).bind _))

/-- The same of a word with a name. -/
theorem read_name_cases (settled : reader.settle = .ok (.ofWishes wishes)) (single : Single wishes) {name : String}
    {value : Option String} (shape : Word.ofChars word.toList = .long name value) (later : List String) :
    Begins wishes (word :: later) ∨
    (Asks wishes .help word ∨ Asks wishes .version word) ∨ Misread (reader.read (word :: later)) := by
  have written := Word.written_ofChars word
  rw [shape] at written
  cases found : Key.ofName? name with
  | none =>
      rw [read_name shape, takeLong_strange found]
      exact .inr (.inr ⟨_, rfl⟩)
  | some key =>
      have long := Key.name_of_ofName? found
      cases value with
      | none =>
          have word_eq : word = "--" ++ name := written
          have taken : reader.takeLong name none = reader.takeKey key := by simp only [takeLong, found]
          cases key with
          | help => exact .inr (.inl (.inl (word_eq ▸ .name long)))
          | version => exact .inr (.inl (.inr (word_eq ▸ .name long)))
          | switch switch =>
              rcases Request.turnOn_cases single switch with fresh | refused
              · exact .inl ⟨[word], _, later, rfl, word_eq ▸ .name long, fresh⟩
              · rw [read_name shape, taken]
                exact .inr (.inr ((settleWith_refused settled refused).bind _))
          | setting setting =>
              cases long
              rcases read_value_cases single setting later with ⟨value, rest, rfl, separate, whole⟩ | misread
              · exact .inl ⟨[word, value], _, rest, rfl, word_eq ▸ .nameApart separate, whole⟩
              · rw [read_long shape (taken.trans (takeKey_setting settled))]
                exact .inr (.inr misread)
      | some value =>
          have word_eq : word = "--" ++ name ++ "=" ++ value := written
          cases key with
          | setting setting =>
              cases long
              rcases Request.give_cases single setting value with ⟨filled, whole⟩ | refused
              · exact .inl ⟨[word], _, later, rfl, word_eq ▸ .nameEqual filled, whole⟩
              · have taken : Misread (reader.takeLong setting.name (some value)) := by
                  simp only [takeLong, found]
                  exact settleWith_refused settled refused
                rw [read_name shape]
                exact .inr (.inr (taken.bind _))
          | switch | help | version =>
              have taken : Misread (reader.takeLong name (some value)) := by
                simp only [takeLong, found]
                exact ⟨_, rfl⟩
              rw [read_name shape]
              exact .inr (.inr (taken.bind _))

/-- The first word of a command line begins a phrase, parts off files, asks for help or for the version, or is
misread. -/
theorem read_cases (settled : reader.settle = .ok (.ofWishes wishes)) (single : Single wishes) (word : String)
    (later : List String) :
    Begins wishes (word :: later) ∨
    (word = "--" ∧ reader.read (word :: later) = (Request.ofWishes wishes).addFiles later) ∨
    (Asks wishes .help word ∨ Asks wishes .version word) ∨ Misread (reader.read (word :: later)) := by
  have written := Word.written_ofChars word
  cases shape : Word.ofChars word.toList with
  | separator =>
      rw [shape] at written
      have parted : reader.read (word :: later) = (Request.ofWishes wishes).addFiles later := by
        rw [read, shape]
        dsimp only
        rw [settled]
        rfl
      exact .inr (.inl ⟨written, parted⟩)
  | long name value => exact (read_name_cases settled single shape later).imp_right .inr
  | short letters =>
      rw [shape] at written
      obtain ⟨some, rfl⟩ := written
      exact (read_letters_cases settled single some shape later).imp_right .inr
  | plain text =>
      rw [shape] at written
      obtain ⟨rfl, dash⟩ := written
      by_cases empty : word = ""
      · exact .inr (.inr (.inr (read_emptyFile settled (empty ▸ shape) later)))
      · exact .inl ⟨[word], _, later, rfl, .file ⟨empty, dash⟩, single.files [word]⟩

end Reader
end StageZero
