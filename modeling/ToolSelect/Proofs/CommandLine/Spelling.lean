import Mathlib.Data.List.TakeWhile
import ToolSelect.CommandLine.Word
import ToolSelect.Proofs.Tables

/-!
# The spellings of an option

An option is named by a long word or by one letter, and its value stands behind
an equals sign, right behind the letter, or in the next word.  The relations
here tell these spellings apart from the reading of them, and the equivalence
theorems below show that a word is read as an option exactly where it is
spelled as one.
-/

namespace ToolSelect

namespace CommandName

def text : CommandName → String
  | .select => "select"
  | .strategies => "strategies"

theorem ofText?_eq_some_iff {word : String} {name : CommandName} :
    ofText? word = some name ↔ word = name.text := by
  constructor
  · intro named
    have listed : ∀ entry ∈ [("select", CommandName.select),
        ("strategies", .strategies)], entry.1 = entry.2.text := by
      decide
    exact listed _ (mem_of_lookup named)
  · rintro rfl
    cases name <;> rfl

end CommandName

namespace Setting

def longName : Setting → String
  | .config => "config"
  | .directory => "path"
  | .family => "family"
  | .system => "os"
  | .architecture => "arch"

def letter? : Setting → Option Char
  | .config => some 'c'
  | .directory => some 'p'
  | .family | .system | .architecture => none

/-- The characters of one word name the option, and give its value if that is in
this word. -/
inductive NamedBy (setting : Setting) : Option String → List Char → Prop
  | long : NamedBy setting none ('-' :: '-' :: setting.longName.toList)
  | longJoined (value : List Char) :
      NamedBy setting (some (String.ofList value))
        ('-' :: '-' :: (setting.longName.toList ++ '=' :: value))
  | short {letter : Char} : setting.letter? = some letter →
      NamedBy setting none ['-', letter]
  | shortJoined {letter : Char} (value : List Char) :
      setting.letter? = some letter →
      NamedBy setting (some (String.ofList value))
        ('-' :: letter :: '=' :: value)
  | shortAttached {letter first : Char} (rest : List Char) :
      setting.letter? = some letter → first ≠ '=' →
      NamedBy setting (some (String.ofList (first :: rest)))
        ('-' :: letter :: first :: rest)

theorem longName_no_equals (setting : Setting) :
    ∀ char ∈ setting.longName.toList, (char != '=') = true := by
  apply List.all_eq_true.mp
  cases setting <;> rfl

theorem letter?_ne_dash (setting : Setting) :
    setting.letter? ≠ some '-' := by
  cases setting <;> decide

end Setting

/-- A plain word has no dash before something else. -/
def IsPlain (text : String) : Prop :=
  text = "-" ∨ text.toList.head? ≠ some '-'

namespace Level

theorem longSetting?_eq_some_iff {level : Level} {name : String}
    {setting : Setting} :
    level.longSetting? name = some setting ↔
      level.accepts setting ∧ name = setting.longName := by
  rw [longSetting?, Option.filter_eq_some_iff, and_comm]
  apply and_congr_right
  intro _
  constructor
  · intro named
    have listed : ∀ entry ∈ [("config", Setting.config), ("path", .directory),
        ("family", .family), ("os", .system), ("arch", .architecture)],
        entry.1 = entry.2.longName := by
      decide
    exact listed _ (mem_of_lookup named)
  · rintro rfl
    cases setting <;> rfl

theorem shortSetting?_eq_some_iff {letter : Char} {setting : Setting} :
    shortSetting? letter = some setting ↔ setting.letter? = some letter := by
  constructor
  · intro named
    have listed : ∀ entry ∈ [('c', Setting.config), ('p', .directory)],
        entry.2.letter? = some entry.1 := by
      decide
    exact listed _ (mem_of_lookup named)
  · intro lettered
    cases setting <;> cases lettered <;> rfl

theorem accepts_of_letter? {setting : Setting} {letter : Char}
    (lettered : setting.letter? = some letter) (level : Level) :
    level.accepts setting = true := by
  cases setting <;> cases lettered <;> rfl

theorem longWord_of_name {level : Level} {setting : Setting}
    (accepted : level.accepts setting = true) {text : List Char}
    (rest : List Char)
    (name : text.takeWhile (· != '=') = setting.longName.toList)
    (behind : text.dropWhile (· != '=') = rest) :
    level.longWord text =
      .setting setting (rest.tail?.map String.ofList) := by
  have named : level.longSetting?
      (String.ofList (text.takeWhile (· != '='))) = some setting := by
    rw [name, String.ofList_toList]
    exact longSetting?_eq_some_iff.mpr ⟨accepted, rfl⟩
  rw [longWord]
  dsimp only
  rw [named, behind]
  cases rest <;> rfl

theorem longWord_eq_setting_iff {level : Level} {text : List Char}
    {setting : Setting} {value : Option String} :
    level.longWord text = .setting setting value ↔
      level.accepts setting ∧ setting.NamedBy value ('-' :: '-' :: text) := by
  constructor
  · intro read
    rw [longWord] at read
    dsimp only at read
    split at read
    next named =>
      obtain ⟨accepted, name⟩ := longSetting?_eq_some_iff.mp named
      cases read
      refine ⟨accepted, ?_⟩
      have parts := List.takeWhile_append_dropWhile (p := (· != '='))
        (l := text)
      have spelled : text.takeWhile (· != '=') = setting.longName.toList := by
        rw [← name, String.toList_ofList]
      rw [spelled] at parts
      cases behind : text.dropWhile (· != '=') with
      | nil =>
          rw [behind, List.append_nil] at parts
          rw [← parts]
          exact .long
      | cons sign value =>
          have equals : sign = '=' := by
            have stopped := List.head?_dropWhile_not (· != '=') text
            simpa [behind] using stopped
          subst equals
          rw [behind] at parts
          rw [← parts]
          exact .longJoined value
    next =>
      -- What names no option is a flag, or nothing known.
      grind
  · rintro ⟨accepted, named⟩
    cases named with
    | long =>
        apply longWord_of_name accepted []
        · exact List.takeWhile_eq_self_iff.mpr setting.longName_no_equals
        · exact List.dropWhile_eq_nil_iff.mpr setting.longName_no_equals
    | longJoined value =>
        apply longWord_of_name accepted ('=' :: value)
        · rw [List.takeWhile_append_of_pos setting.longName_no_equals]
          exact List.append_nil _
        · rw [List.dropWhile_append_of_pos setting.longName_no_equals]
          rfl
    | short lettered => exact absurd lettered setting.letter?_ne_dash
    | shortJoined value lettered =>
        exact absurd lettered setting.letter?_ne_dash
    | shortAttached rest lettered =>
        exact absurd lettered setting.letter?_ne_dash

section Letters

variable {setting : Setting} {letter : Char}

theorem shortWord_of_letter (lettered : setting.letter? = some letter)
    (level : Level) : level.shortWord [letter] = .setting setting none := by
  simp only [shortWord, shortSetting?_eq_some_iff.mpr lettered]

theorem shortWord_of_joined (lettered : setting.letter? = some letter)
    (level : Level) (value : List Char) :
    level.shortWord (letter :: '=' :: value) =
      .setting setting (some (String.ofList value)) := by
  simp only [shortWord, shortSetting?_eq_some_iff.mpr lettered]

theorem shortWord_of_attached (lettered : setting.letter? = some letter)
    (level : Level) {first : Char} (unsigned : first ≠ '=')
    (rest : List Char) :
    level.shortWord (letter :: first :: rest) =
      .setting setting (some (String.ofList (first :: rest))) := by
  unfold shortWord
  dsimp only
  rw [shortSetting?_eq_some_iff.mpr lettered]
  grind

theorem shortWord_of_no_setting (unnamed : shortSetting? letter = none)
    (level : Level) (rest : List Char) (value : Option String) :
    level.shortWord (letter :: rest) ≠ .setting setting value := by
  simp only [shortWord, unnamed]
  split
  · nofun
  · split <;> nofun

end Letters

theorem shortWord_eq_setting_iff {level : Level} {text : List Char}
    (single : text.head? ≠ some '-') {setting : Setting}
    {value : Option String} :
    level.shortWord text = .setting setting value ↔
      level.accepts setting ∧ setting.NamedBy value ('-' :: text) := by
  constructor
  · intro read
    rcases text with - | ⟨letter, rest⟩
    · cases read
    cases named : shortSetting? letter with
    | none => exact absurd read (shortWord_of_no_setting named level rest _)
    | some known =>
        have lettered := shortSetting?_eq_some_iff.mp named
        have accepted := accepts_of_letter? lettered level
        rcases rest with - | ⟨first, rest⟩
        · rw [shortWord_of_letter lettered] at read
          cases read
          exact ⟨accepted, .short lettered⟩
        · by_cases sign : first = '='
          · subst first
            rw [shortWord_of_joined lettered] at read
            cases read
            exact ⟨accepted, .shortJoined rest lettered⟩
          · rw [shortWord_of_attached lettered level sign] at read
            cases read
            exact ⟨accepted, .shortAttached rest lettered sign⟩
  · rintro ⟨-, named⟩
    cases named with
    | long => exact absurd rfl single
    | longJoined value => exact absurd rfl single
    | short lettered => exact shortWord_of_letter lettered level
    | shortJoined value lettered =>
        exact shortWord_of_joined lettered level value
    | shortAttached rest lettered unsigned =>
        exact shortWord_of_attached lettered level unsigned rest

theorem longWord_dashed (level : Level) (text : List Char) :
    level.longWord text ≠ .plain ∧ level.longWord text ≠ .endOfOptions := by
  rw [longWord]
  dsimp only
  split
  · simp
  · grind

theorem shortWord_dashed (level : Level) {text : List Char}
    (nonempty : text ≠ []) :
    level.shortWord text ≠ .plain ∧ level.shortWord text ≠ .endOfOptions := by
  unfold shortWord
  grind

/-- A word is read as an option where it is spelled as one that may be given
here. -/
theorem word_eq_setting_iff {level : Level} {text : String}
    {setting : Setting} {value : Option String} :
    level.word text = .setting setting value ↔
      level.accepts setting ∧ setting.NamedBy value text.toList := by
  rw [word]
  generalize text.toList = chars
  split
  next =>
    rw [← longWord_eq_setting_iff]
    have bare : level.longWord [] = .unknown := by
      cases level <;> rfl
    rw [bare]
    simp
  next rest other => exact longWord_eq_setting_iff
  next rest undashed other =>
    apply shortWord_eq_setting_iff
    intro dashed
    obtain ⟨rest, rfl⟩ := List.head?_eq_some_iff.mp dashed
    exact other rest rfl
  next undashed other =>
    constructor
    · nofun
    · rintro ⟨-, named⟩
      cases named <;> exact (other _ rfl).elim

theorem word_eq_endOfOptions_iff {level : Level} {text : String} :
    level.word text = .endOfOptions ↔ text = "--" := by
  rw [word, ← String.toList_inj]
  generalize text.toList = chars
  split
  next => simp
  next rest other =>
    apply iff_of_false (level.longWord_dashed rest).2
    simpa using other
  next rest undashed other =>
    rcases rest with - | ⟨letter, rest⟩
    · simp [shortWord]
    · apply iff_of_false (level.shortWord_dashed (List.cons_ne_nil _ _)).2
      rintro ⟨⟩
      exact other _ rfl
  next undashed other =>
    apply iff_of_false nofun
    rintro rfl
    exact other _ rfl

theorem word_eq_plain_iff {level : Level} {text : String} :
    level.word text = .plain ↔ IsPlain text := by
  rw [word, IsPlain, ← String.toList_inj]
  generalize text.toList = chars
  split
  next => simp
  next rest other => simp [(level.longWord_dashed rest).1]
  next rest undashed other =>
    rcases rest with - | ⟨letter, rest⟩
    · simp [shortWord]
    · simp [(level.shortWord_dashed (List.cons_ne_nil letter rest)).1]
  next undashed other =>
    apply iff_of_true rfl
    right
    intro dashed
    obtain ⟨rest, rfl⟩ := List.head?_eq_some_iff.mp dashed
    exact other rest rfl

end Level

def Level.full : Level :=
  .command .select

theorem Setting.NamedBy.word {text : String} {setting : Setting}
    {value : Option String} (named : setting.NamedBy value text.toList) :
    Level.full.word text = .setting setting value := by
  refine Level.word_eq_setting_iff.mpr ⟨?_, named⟩
  cases setting <;> rfl

theorem IsPlain.word {text : String} (plain : IsPlain text) :
    Level.full.word text = .plain :=
  Level.word_eq_plain_iff.mpr plain

theorem Level.word_dashes (level : Level) :
    level.word "--" = .endOfOptions :=
  word_eq_endOfOptions_iff.mpr rfl

theorem Setting.NamedBy.not_isPlain {text : String} {setting : Setting}
    {value : Option String} (named : setting.NamedBy value text.toList) :
    ¬IsPlain text := by
  intro plain
  cases named.word.symm.trans plain.word

end ToolSelect
