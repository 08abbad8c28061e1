import ToolSelect.Proofs.CommandLine.Giving
import ToolSelect.Proofs.CommandLine.Spelling
import ToolSelect.Proofs.Results

/-!
# Reading the words of one side

The words on one side of a command's name are told in a declarative way: which
options they name with which values, and which words are plain.  Reading them
succeeds exactly where the options can be given in this order and the plain
words are in their place.
-/

namespace ToolSelect

/-- The words name these options and give their values: each in one word, or in
two of which the second is plain. -/
inductive Spells : List String → List (Setting × String) → Prop
  | nothing : Spells [] []
  | joined {setting : Setting} {value word : String} {words : List String}
      {options : List (Setting × String)} :
      setting.NamedBy (some value) word.toList → Spells words options →
      Spells (word :: words) ((setting, value) :: options)
  | apart {setting : Setting} {value word : String} {words : List String}
      {options : List (Setting × String)} :
      setting.NamedBy none word.toList → IsPlain value →
      Spells words options →
      Spells (word :: value :: words) ((setting, value) :: options)

/-- The words name these options, and these are the plain ones among them that
are no values.  Behind two dashes alone all are plain. -/
inductive Tells :
    List String → List (Setting × String) → List String → Prop
  | nothing : Tells [] [] []
  | joined {setting : Setting} {value word : String} {words : List String}
      {options : List (Setting × String)} {plain : List String} :
      setting.NamedBy (some value) word.toList → Tells words options plain →
      Tells (word :: words) ((setting, value) :: options) plain
  | apart {setting : Setting} {value word : String} {words : List String}
      {options : List (Setting × String)} {plain : List String} :
      setting.NamedBy none word.toList → IsPlain value →
      Tells words options plain →
      Tells (word :: value :: words) ((setting, value) :: options) plain
  | plain {word : String} {words : List String}
      {options : List (Setting × String)} {plain : List String} :
      IsPlain word → Tells words options plain →
      Tells (word :: words) options (word :: plain)
  | literal (words : List String) : Tells ("--" :: words) [] words

/-- Words tell their options and their plain words in one way only. -/
theorem Tells.unique {words : List String}
    {options others : List (Setting × String)} {plain rest : List String}
    (told : Tells words options plain) (retold : Tells words others rest) :
    options = others ∧ plain = rest := by
  -- A word is read in one way, which decides between the constructors.
  induction told generalizing others rest with
  | nothing =>
      cases retold
      exact ⟨rfl, rfl⟩
  | joined named told induction =>
      cases retold with
      | joined renamed retold =>
          cases named.word.symm.trans renamed.word
          obtain ⟨rfl, rfl⟩ := induction retold
          exact ⟨rfl, rfl⟩
      | apart renamed isPlain retold =>
          cases named.word.symm.trans renamed.word
      | plain isPlain retold => exact absurd isPlain named.not_isPlain
      | literal => cases named.word.symm.trans (Level.word_dashes _)
  | apart named isPlain told induction =>
      cases retold with
      | joined renamed retold => cases named.word.symm.trans renamed.word
      | apart renamed isPlain retold =>
          cases named.word.symm.trans renamed.word
          obtain ⟨rfl, rfl⟩ := induction retold
          exact ⟨rfl, rfl⟩
      | plain isPlain retold => exact absurd isPlain named.not_isPlain
      | literal => cases named.word.symm.trans (Level.word_dashes _)
  | plain isPlain told induction =>
      cases retold with
      | joined renamed retold => exact absurd isPlain renamed.not_isPlain
      | apart renamed _ retold => exact absurd isPlain renamed.not_isPlain
      | plain _ retold =>
          obtain ⟨rfl, rfl⟩ := induction retold
          exact ⟨rfl, rfl⟩
      | literal => cases isPlain.word.symm.trans (Level.word_dashes _)
  | literal words =>
      cases retold with
      | joined renamed retold =>
          cases renamed.word.symm.trans (Level.word_dashes _)
      | apart renamed isPlain retold =>
          cases renamed.word.symm.trans (Level.word_dashes _)
      | plain isPlain retold =>
          cases isPlain.word.symm.trans (Level.word_dashes _)
      | literal => exact ⟨rfl, rfl⟩

namespace Progress

/-- All that has been read is settled, and options may follow. -/
def ready (given : Given) : Progress :=
  ⟨given, none, false⟩

/-- An option has been read with its value, and is not settled yet. -/
def due (given : Given) (setting : Setting) (value : String)
    (literal : Bool) : Progress :=
  ⟨given, some ⟨setting, some value⟩, literal⟩

def finish (level : Level) (progress : Progress) (words : List String) :
    Except UsageProblem Given := do
  let progress ← words.foldlM (meet level) progress
  progress.given.settle progress.pending

theorem finish_cons (level : Level) (progress : Progress) (word : String)
    (words : List String) :
    progress.finish level (word :: words) = (do
      let next ← progress.meet level word
      next.finish level words) := by
  rw [finish, List.foldlM_cons, bind_assoc]
  rfl

theorem finish_cons_eq_ok {level : Level} {progress : Progress}
    {word : String} {words : List String} {after : Given} :
    progress.finish level (word :: words) = .ok after ↔
      ∃ next, progress.meet level word = .ok next ∧
        next.finish level words = .ok after := by
  rw [finish_cons, bind_eq_ok]

theorem meetPlain_eq_ok_iff {level : Level} {progress next : Progress}
    {word : String} :
    progress.meetPlain level word = .ok next ↔
      (level = .command .select ∧ progress.given.platform = none) ∧
        ∃ settled, progress.given.settle progress.pending = .ok settled ∧
          next =
            ⟨{ settled with platform := some word }, none, progress.literal⟩ := by
  by_cases room : level = .command .select ∧ progress.given.platform = none
  · rw [meetPlain.eq_def, if_pos room, bind_eq_ok, and_iff_right room]
    refine exists_congr fun settled => and_congr_right fun _ => ?_
    exact ⟨fun same => (Except.ok.inj same).symm, fun same => same ▸ rfl⟩
  · rw [meetPlain.eq_def, if_neg room]
    apply iff_of_false
    · intro met
      split at met
      · cases met
      · split at met <;> cases met
    · rintro ⟨seated, -⟩
      exact room seated

/-- A word that is neither an option nor plain and ends no options is refused, or
asks for something else than a command. -/
theorem asks_of_meet {level : Level} {progress next : Progress}
    {word : String} (spoken : progress.literal = false)
    (met : progress.meet level word = .ok next) :
    (∃ setting value, level.word word = .setting setting value) ∨
      level.word word = .endOfOptions ∨ level.word word = .plain := by
  rw [meet, spoken, if_neg Bool.false_ne_true] at met
  cases read : level.word word with
  | setting setting value => exact .inl ⟨setting, value, rfl⟩
  | endOfOptions => exact .inr (.inl rfl)
  | plain => exact .inr (.inr rfl)
  | help | version =>
      rw [read] at met
      obtain ⟨_, _, ⟨⟩⟩ := bind_eq_ok.mp met
  | valueUnwanted | unknown =>
      rw [read] at met
      cases met

theorem meet_dashes {progress : Progress} (spoken : progress.literal = false)
    (level : Level) :
    progress.meet level "--" = .ok { progress with literal := true } := by
  rw [meet, spoken, if_neg Bool.false_ne_true, level.word_dashes]
  rfl

theorem finish_dashes (progress : Progress)
    (spoken : progress.literal = false) (level : Level)
    (words : List String) :
    progress.finish level ("--" :: words) =
      finish level { progress with literal := true } words := by
  rw [finish, List.foldlM_cons, meet_dashes spoken]
  rfl

section Due

variable {level : Level} {given : Given} {setting : Setting}
  {value word : String} {literal : Bool} {next : Progress}

theorem settle_due_bind {α : Type} {rest : Given → Except UsageProblem α}
    {result : α} :
    (given.settle (some ⟨setting, some value⟩) >>= rest) = .ok result ↔
      ∃ after, given.Gives value setting after ∧ rest after = .ok result := by
  rw [bind_eq_ok]
  exact exists_congr fun _ => and_congr_left' Given.settle_eq_ok_iff

theorem meetPlain_due :
    (due given setting value literal).meetPlain level word = .ok next ↔
      ∃ after, given.Gives value setting after ∧
        meetPlain level ⟨after, none, literal⟩ word = .ok next := by
  simp only [meetPlain_eq_ok_iff, due, Given.settle_eq_ok_iff]
  constructor
  · rintro ⟨⟨rfl, free⟩, settled, gives, rfl⟩
    refine ⟨settled, gives, ⟨rfl, gives.platform_eq.trans free⟩, ?_⟩
    exact ⟨settled, rfl, rfl⟩
  · rintro ⟨after, gives, ⟨rfl, free⟩, settled, ⟨⟩, rfl⟩
    exact ⟨⟨rfl, gives.platform_eq.symm.trans free⟩, after, gives, rfl⟩

theorem meet_due (other : literal = true ∨ word ≠ "--") :
    (due given setting value literal).meet level word = .ok next ↔
      ∃ after, given.Gives value setting after ∧
        meet level ⟨after, none, literal⟩ word = .ok next := by
  cases literal with
  | true => exact meetPlain_due
  | false =>
      have spelled : level.word word ≠ .endOfOptions := by
        rw [Ne, Level.word_eq_endOfOptions_iff]
        simpa using other
      cases read : level.word word with
      | setting =>
          simp only [meet, due, read]
          exact settle_due_bind
      | plain =>
          simp only [meet, due, read]
          exact meetPlain_due
      | endOfOptions => exact absurd read spelled
      | help | version | valueUnwanted | unknown =>
          constructor
          · intro met
            have asked := asks_of_meet rfl met
            simp [read] at asked
          · rintro ⟨after, -, met⟩
            have asked := asks_of_meet rfl met
            simp [read] at asked

/-- What follows a word does not depend on when the option before it has been
settled. -/
theorem meet_due_bind (other : literal = true ∨ word ≠ "--") {α : Type}
    {rest : Progress → Except UsageProblem α} {result : α} :
    ((due given setting value literal).meet level word >>= rest) =
        .ok result ↔
      ∃ after, given.Gives value setting after ∧
        (meet level ⟨after, none, literal⟩ word >>= rest) = .ok result := by
  simp only [bind_eq_ok, meet_due other]
  constructor
  · rintro ⟨next, ⟨after, gives, met⟩, read⟩
    exact ⟨after, gives, next, met, read⟩
  · rintro ⟨after, gives, next, met, read⟩
    exact ⟨next, ⟨after, gives, met⟩, read⟩

theorem finish_due {words : List String} {result : Given} :
    (due given setting value literal).finish level words = .ok result ↔
      ∃ after, given.Gives value setting after ∧
        finish level ⟨after, none, literal⟩ words = .ok result := by
  induction words generalizing literal with
  | nil =>
      rw [← settle_due_bind]
      exact iff_of_eq (congrArg (· = _) (bind_pure _).symm)
  | cons word words induction =>
      by_cases other : literal = true ∨ word ≠ "--"
      · simp only [finish_cons]
        exact meet_due_bind other
      · -- Two dashes settle nothing by themselves.
        rw [not_or, not_not, Bool.not_eq_true] at other
        obtain ⟨rfl, rfl⟩ := other
        simp only [finish_dashes ⟨_, _, false⟩ rfl, finish_dashes (due ..) rfl]
        exact induction

end Due

/-- A way of reading goes from option to option. -/
structure Continues {α : Type} (level : Level)
    (reading : Progress → List String → Except UsageProblem α) : Prop where
  /-- Options and their values change the state and are read on from there. -/
  step : ∀ {progress word words}, progress.literal = false →
    (progress.isAwaiting = true ∨ ¬IsPlain word) →
    reading progress (word :: words) = (do
      let next ← progress.meet level word
      reading next words)
  /-- Where options have been settled makes no difference. -/
  settled : ∀ {given setting value words result},
    reading (due given setting value false) words = .ok result ↔
      ∃ after, given.Gives value setting after ∧
        reading (ready after) words = .ok result

theorem continues_finish (level : Level) :
    Continues level (finish level) where
  step _ _ := finish_cons level ..
  settled := finish_due

section Continues

variable {α : Type} {level : Level}
  {reading : Progress → List String → Except UsageProblem α} {given : Given}
  {setting : Setting} {value word : String} {words : List String} {result : α}

theorem Continues.joined (continues : Continues level reading)
    (accepted : level.accepts setting = true)
    (named : setting.NamedBy (some value) word.toList) :
    reading (ready given) (word :: words) = .ok result ↔
      ∃ after, given.Gives value setting after ∧
        reading (ready after) words = .ok result := by
  have read := Level.word_eq_setting_iff.mpr ⟨accepted, named⟩
  have met : (ready given).meet level word = (do
      let after ← given.settle (some ⟨setting, some value⟩)
      return ready after) := by
    simp only [meet, ready, read]
    rfl
  rw [continues.step rfl (.inr named.not_isPlain), met, bind_assoc]
  exact settle_due_bind

theorem Continues.apart (continues : Continues level reading)
    (accepted : level.accepts setting = true)
    (named : setting.NamedBy none word.toList) (plain : IsPlain value) :
    reading (ready given) (word :: value :: words) = .ok result ↔
      ∃ after, given.Gives value setting after ∧
        reading (ready after) words = .ok result := by
  have read := Level.word_eq_setting_iff.mpr ⟨accepted, named⟩
  have met : (ready given).meet level word =
      .ok ⟨given, some ⟨setting, none⟩, false⟩ := by
    simp only [meet, ready, read]
    rfl
  have valued : meet level ⟨given, some ⟨setting, none⟩, false⟩ value =
      .ok (due given setting value false) := by
    simp only [meet, Level.word_eq_plain_iff.mpr plain]
    rfl
  have moved : reading (ready given) (word :: value :: words) =
      reading (due given setting value false) words := by
    rw [continues.step rfl (.inr named.not_isPlain), met]
    refine (continues.step rfl (.inl rfl)).trans ?_
    rw [valued]
    rfl
  rw [moved]
  exact continues.settled

/-- Options are given one after the other, however they are spelled. -/
theorem Continues.spelled (continues : Continues level reading)
    {options : List (Setting × String)} {named : List String}
    (spelled : Spells named options)
    (accepted : ∀ option ∈ options, level.accepts option.1 = true) :
    reading (ready given) (named ++ words) = .ok result ↔
      ∃ after, given.GivesAll options after ∧
        reading (ready after) words = .ok result := by
  induction spelled generalizing given with
  | nothing =>
      constructor
      · intro read
        exact ⟨given, .nothing given, read⟩
      · rintro ⟨_, ⟨⟩, read⟩
        exact read
  | joined named _ induction =>
      obtain ⟨first, rest⟩ := List.forall_mem_cons.mp accepted
      rw [List.cons_append, continues.joined first named,
        Given.exists_givesAll_cons]
      simp only [induction rest]
  | apart named plain _ induction =>
      obtain ⟨first, rest⟩ := List.forall_mem_cons.mp accepted
      rw [List.cons_append, List.cons_append,
        continues.apart first named plain, Given.exists_givesAll_cons]
      simp only [induction rest]

end Continues

theorem finish_meetPlain {level : Level} {given result : Given}
    {word : String} {literal : Bool} {words : List String} :
    (∃ next, meetPlain level ⟨given, none, literal⟩ word = .ok next ∧
        next.finish level words = .ok result) ↔
      (level = .command .select ∧ given.platform = none) ∧
        finish level ⟨{ given with platform := some word }, none, literal⟩
          words = .ok result := by
  simp only [meetPlain_eq_ok_iff]
  constructor
  · rintro ⟨_, ⟨room, _, ⟨⟩, rfl⟩, read⟩
    exact ⟨room, read⟩
  · rintro ⟨room, read⟩
    exact ⟨_, ⟨room, given, rfl, rfl⟩, read⟩

theorem finish_verbatim {level : Level} {given result : Given} {word : String}
    {words : List String} :
    finish level ⟨given, none, true⟩ (word :: words) = .ok result ↔
      (level = .command .select ∧ given.platform = none) ∧
        finish level ⟨{ given with platform := some word }, none, true⟩ words =
          .ok result :=
  finish_cons_eq_ok.trans finish_meetPlain

theorem meet_plain {level : Level} {progress : Progress} {word : String}
    (plain : IsPlain word) (passed : progress.isAwaiting = false) :
    progress.meet level word = progress.meetPlain level word := by
  rw [meet, Level.word_eq_plain_iff.mpr plain, passed]
  cases progress.literal <;> rfl

theorem finish_plain {level : Level} {given result : Given} {word : String}
    {words : List String} (plain : IsPlain word) :
    (ready given).finish level (word :: words) = .ok result ↔
      (level = .command .select ∧ given.platform = none) ∧
        (ready { given with platform := some word }).finish level words =
          .ok result := by
  rw [finish_cons_eq_ok, meet_plain plain rfl]
  exact finish_meetPlain

theorem finish_unvalued {level : Level} {given result : Given}
    {setting : Setting} {words : List String} :
    finish level ⟨given, some ⟨setting, none⟩, true⟩ words ≠ .ok result := by
  intro read
  rcases words with - | ⟨word, words⟩
  · cases read
  · obtain ⟨next, met, -⟩ := finish_cons_eq_ok.mp read
    obtain ⟨-, _, ⟨⟩, -⟩ := meetPlain_eq_ok_iff.mp met

/-- An option without a value takes the next word, which has to be plain. -/
theorem value_of_finish {level : Level} {given result : Given}
    {setting : Setting} {words : List String}
    (read : finish level ⟨given, some ⟨setting, none⟩, false⟩ words =
      .ok result) :
    ∃ value rest after, words = value :: rest ∧ IsPlain value ∧
      given.Gives value setting after ∧
        (ready after).finish level rest = .ok result := by
  rcases words with - | ⟨word, words⟩
  · cases read
  obtain ⟨next, met, rest⟩ := finish_cons_eq_ok.mp read
  rcases asks_of_meet rfl met with ⟨other, value, asked⟩ | asked | asked
  · simp only [meet, asked] at met
    obtain ⟨_, ⟨⟩, -⟩ := bind_eq_ok.mp met
  · obtain rfl := Level.word_eq_endOfOptions_iff.mp asked
    rw [finish_dashes ⟨_, _, false⟩ rfl] at read
    exact absurd read finish_unvalued
  · simp only [meet, asked] at met
    cases met
    obtain ⟨after, gives, read⟩ := finish_due.mp rest
    exact ⟨word, words, after, rfl, Level.word_eq_plain_iff.mp asked, gives,
      read⟩

end Progress

/-- Only one command has a use for a plain word, and for no more than one. -/
def Level.Takes (level : Level) (given : Given) (plain : List String) : Prop :=
  plain = [] ∨
    (level = .command .select ∧ given.platform = none ∧ plain.length = 1)

theorem Level.takes_cons_iff {level : Level} {given : Given} {word : String}
    {plain : List String} :
    level.Takes given (word :: plain) ↔
      (level = .command .select ∧ given.platform = none) ∧ plain = [] := by
  simp [Takes, and_assoc]

theorem Level.Takes.congr {level : Level} {given other : Given}
    {plain : List String} (takes : level.Takes given plain)
    (same : other.platform = given.platform) : level.Takes other plain := by
  rw [Takes, same]
  exact takes

namespace Given

/-- What has been given, and a platform if there is a word for one. -/
def orPlatform (given : Given) (plain : List String) : Given :=
  { given with platform := given.platform.or plain.head? }

theorem orPlatform_nil (given : Given) : given.orPlatform [] = given := by
  rw [orPlatform, List.head?_nil, Option.or_none]

theorem orPlatform_cons {given : Given} (free : given.platform = none)
    (word : String) (plain : List String) :
    given.orPlatform (word :: plain) =
      { given with platform := some word } := by
  rw [orPlatform, free]
  rfl

end Given

namespace Progress

variable {level : Level} {given result : Given} {words : List String}

theorem finish_literal :
    finish level ⟨given, none, true⟩ words = .ok result ↔
      level.Takes given words ∧ given.orPlatform words = result := by
  rcases words with - | ⟨word, words⟩
  · have takes : level.Takes given [] := .inl rfl
    rw [Given.orPlatform_nil, and_iff_right takes]
    exact iff_of_eq (Except.ok.injEq ..)
  · rw [finish_verbatim, Level.takes_cons_iff, and_assoc (b := words = [])]
    apply and_congr_right
    rintro ⟨rfl, free⟩
    rw [Given.orPlatform_cons free]
    rcases words with - | ⟨other, words⟩
    · rw [and_iff_right rfl]
      exact iff_of_eq (Except.ok.injEq ..)
    · rw [finish_verbatim]
      simp

end Progress

/-- The words of one side tell options that can be given at this level in this
order, and plain words that are in place. -/
structure Fits (level : Level) (given : Given) (words : List String)
    (options : List (Setting × String)) (plain : List String)
    (after : Given) : Prop where
  told : Tells words options plain
  accepted : ∀ option ∈ options, level.accepts option.1 = true
  takes : level.Takes given plain
  gives : given.GivesAll options after

namespace Fits

variable {level : Level} {given next after : Given} {words : List String}
  {options : List (Setting × String)} {plain : List String}
  {setting : Setting} {value word : String}

theorem nothing (level : Level) (given : Given) :
    Fits level given [] [] [] given where
  told := .nothing
  accepted := nofun
  takes := .inl rfl
  gives := .nothing given

theorem joined (accepted : level.accepts setting = true)
    (named : setting.NamedBy (some value) word.toList)
    (gives : given.Gives value setting next)
    (fits : Fits level next words options plain after) :
    Fits level given (word :: words) ((setting, value) :: options) plain
      after where
  told := .joined named fits.told
  accepted := List.forall_mem_cons.mpr ⟨accepted, fits.accepted⟩
  takes := fits.takes.congr gives.platform_eq.symm
  gives := .more gives fits.gives

theorem apart (accepted : level.accepts setting = true)
    (named : setting.NamedBy none word.toList) (valued : IsPlain value)
    (gives : given.Gives value setting next)
    (fits : Fits level next words options plain after) :
    Fits level given (word :: value :: words) ((setting, value) :: options)
      plain after where
  told := .apart named valued fits.told
  accepted := List.forall_mem_cons.mpr ⟨accepted, fits.accepted⟩
  takes := fits.takes.congr gives.platform_eq.symm
  gives := .more gives fits.gives

theorem platform (isPlain : IsPlain word) (command : level = .command .select)
    (free : given.platform = none)
    (fits : Fits level { given with platform := some word } words options plain
      after) :
    plain = [] ∧ Fits level given (word :: words) options [word]
      { after with platform := none } := by
  rcases fits.takes with rfl | ⟨-, ⟨⟩, -⟩
  refine ⟨rfl, .plain isPlain fits.told, fits.accepted, ?_, ?_⟩
  · exact .inr ⟨command, free, rfl⟩
  · have gives := fits.gives.setPlatform none
    have same : { given with platform := none } = given := by
      rw [← free]
    rw [same] at gives
    exact gives

theorem literal (takes : level.Takes given words) :
    Fits level given ("--" :: words) [] words given where
  told := .literal words
  accepted := nofun
  takes := takes
  gives := .nothing given

/-- Words that fit behind nothing fit behind options that they do not give
again. -/
theorem following {earlier : Given}
    (fits : Fits level .nothing words options plain after)
    (free : earlier.platform = none)
    (untaken : ∀ option ∈ options, earlier.isTaken option.1 = false) :
    Fits level earlier words options plain (after.following earlier) where
  told := fits.told
  accepted := fits.accepted
  takes := fits.takes.congr free
  gives := by
    have gives := fits.gives.following untaken
    rwa [Given.nothing_following] at gives

end Fits

namespace Progress

variable {level : Level} {given result : Given} {words : List String}

theorem finish_of_fits {options : List (Setting × String)}
    {plain : List String} {after : Given}
    (fits : Fits level given words options plain after) :
    (ready given).finish level words = .ok (after.orPlatform plain) := by
  obtain ⟨told, accepted, takes, gives⟩ := fits
  induction told generalizing given after with
  | nothing =>
      cases gives
      rw [Given.orPlatform_nil]
      rfl
  | joined named _ induction =>
      obtain ⟨first, rest⟩ := List.forall_mem_cons.mp accepted
      rcases gives with - | ⟨gives, more⟩
      apply ((continues_finish level).joined first named).mpr
      exact ⟨_, gives, induction rest (takes.congr gives.platform_eq) more⟩
  | apart named valued _ induction =>
      obtain ⟨first, rest⟩ := List.forall_mem_cons.mp accepted
      rcases gives with - | ⟨gives, more⟩
      apply ((continues_finish level).apart first named valued).mpr
      exact ⟨_, gives, induction rest (takes.congr gives.platform_eq) more⟩
  | plain word _ induction =>
      obtain ⟨room, rfl⟩ := Level.takes_cons_iff.mp takes
      have free : after.platform = none := gives.platform_eq.trans room.2
      rw [finish_plain word, Given.orPlatform_cons free]
      refine ⟨room, ?_⟩
      rw [← Given.orPlatform_nil { after with platform := _ }]
      exact induction accepted (.inl rfl) (gives.setPlatform _)
  | literal words =>
      cases gives
      rw [finish_dashes (ready given) rfl]
      exact finish_literal.mpr ⟨takes, rfl⟩

theorem fits_of_finish
    (read : (ready given).finish level words = .ok result) :
    ∃ options plain after, Fits level given words options plain after ∧
      after.orPlatform plain = result := by
  -- An option and its value may be two words, so the induction is on lengths.
  induction size : words.length using Nat.strong_induction_on
    generalizing words given with
  | _ size induction =>
    rcases words with - | ⟨word, words⟩
    · cases read
      exact ⟨[], [], given, .nothing level given, given.orPlatform_nil⟩
    subst size
    obtain ⟨next, met, rest⟩ := finish_cons_eq_ok.mp read
    rcases asks_of_meet rfl met with ⟨setting, value, asked⟩ | asked | asked
    · obtain ⟨accepted, named⟩ := Level.word_eq_setting_iff.mp asked
      cases value with
      | some value =>
          obtain ⟨next, gives, rest⟩ :=
            ((continues_finish level).joined accepted named).mp read
          obtain ⟨options, plain, after, fits, rfl⟩ :=
            induction _ (by simp) rest rfl
          exact ⟨_, plain, after, .joined accepted named gives fits, rfl⟩
      | none =>
          simp only [meet, ready, asked] at met
          cases met
          obtain ⟨value, words, next, rfl, valued, gives, rest⟩ :=
            value_of_finish rest
          obtain ⟨options, plain, after, fits, rfl⟩ :=
            induction _ (by simp only [List.length_cons]; omega) rest rfl
          exact ⟨_, plain, after, .apart accepted named valued gives fits, rfl⟩
    · obtain rfl := Level.word_eq_endOfOptions_iff.mp asked
      rw [finish_dashes (ready given) rfl] at read
      obtain ⟨takes, rfl⟩ := finish_literal.mp read
      exact ⟨[], words, given, .literal takes, rfl⟩
    · have isPlain := Level.word_eq_plain_iff.mp asked
      obtain ⟨⟨command, free⟩, rest⟩ := (finish_plain isPlain).mp read
      obtain ⟨options, plain, after, fits, rfl⟩ :=
        induction _ (by simp) rest rfl
      have seated : after.platform = some word := fits.gives.platform_eq
      obtain ⟨rfl, whole⟩ := fits.platform isPlain command free
      refine ⟨options, [word], _, whole, ?_⟩
      rw [Given.orPlatform_cons rfl, Given.orPlatform_nil, ← seated]

end Progress

end ToolSelect
