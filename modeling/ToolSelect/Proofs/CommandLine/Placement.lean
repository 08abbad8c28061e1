import ToolSelect.Proofs.CommandLine.Reading

/-!
# Options on both sides of a command's name

The options of the program may stand before the name of a command or behind it.
Moving them behind the name changes nothing, as long as no option that may be
given only once stands on both sides.
-/

namespace ToolSelect

namespace CommandName

theorem isPlain_text (name : CommandName) : IsPlain name.text := by
  cases name <;> exact .inr (by decide)

theorem ofText?_eq_none_of_not_isPlain {word : String}
    (dashed : ¬IsPlain word) : ofText? word = none := by
  rw [Option.eq_none_iff_forall_ne_some]
  intro name named
  rw [ofText?_eq_some_iff.mp named] at dashed
  exact dashed name.isPlain_text

end CommandName

namespace CommandLine

open Progress

variable {environment : Option String} {line : CommandLine} {given : Given}
  {progress : Progress} {word : String} {words : List String}

/-- Options and their values are read on from, also where they look like
commands. -/
theorem readProgram_cons (spoken : progress.literal = false)
    (passed : progress.isAwaiting = true ∨ ¬IsPlain word) :
    readProgram environment progress (word :: words) = (do
      let next ← progress.meet .program word
      readProgram environment next words) := by
  rw [readProgram, spoken]
  rcases passed with awaiting | dashed
  · simp [awaiting]
  · have noHelp : word ≠ "help" := by
      rintro rfl
      exact dashed (.inr (by decide))
    simp [noHelp, CommandName.ofText?_eq_none_of_not_isPlain dashed]

theorem readProgram_nil : readProgram environment progress [] ≠ .ok line := by
  intro read
  obtain ⟨_, _, read⟩ := bind_eq_ok.mp read
  obtain ⟨_, _, ⟨⟩⟩ := bind_eq_ok.mp read

theorem readProgram_literal (literal : progress.literal = true) :
    readProgram environment progress words ≠ .ok line := by
  rcases words with - | ⟨word, words⟩
  · exact readProgram_nil
  · intro read
    rw [readProgram, literal] at read
    obtain ⟨next, met, -⟩ := bind_eq_ok.mp read
    rw [meet, literal, if_pos rfl] at met
    obtain ⟨⟨⟨⟩, -⟩, -⟩ := meetPlain_eq_ok_iff.mp met

/-- A word that is no value may be the name of a command. -/
theorem readProgram_passed (progress : Progress)
    (spoken : progress.literal = false) (passed : progress.isAwaiting = false) :
    readProgram environment progress (word :: words) =
      if word = "help" then .error (helpFor words)
      else
        match CommandName.ofText? word with
        | some name => do
          let behind ← readCommand name environment words
          let before ← progress.given.settle progress.pending
          before.checkEnvironment environment
          return combine environment name before behind
        | none =>
          progress.meet .program word >>=
            (readProgram environment · words) := by
  rw [readProgram, spoken, passed]
  simp only [Bool.not_false, Bool.true_and, Bool.or_self, decide_eq_true_eq]
  rfl

theorem readProgram_due {setting : Setting} {value : String} :
    readProgram environment (due given setting value false) words = .ok line ↔
      ∃ after, given.Gives value setting after ∧
        readProgram environment (ready after) words = .ok line := by
  rcases words with - | ⟨word, words⟩
  · apply iff_of_false readProgram_nil
    rintro ⟨after, -, read⟩
    exact readProgram_nil read
  simp only [readProgram_passed (due ..) rfl rfl,
    readProgram_passed (ready _) rfl rfl]
  by_cases help : word = "help"
  · simp [help]
  simp only [if_neg help]
  cases named : CommandName.ofText? word with
  | some name =>
      -- The words of the command are read first, and its problems come first.
      simp only [bind_eq_ok]
      constructor
      · rintro ⟨behind, read, before, settled, done⟩
        have gives := Given.settle_eq_ok_iff.mp settled
        exact ⟨before, gives, behind, read, before, rfl, done⟩
      · rintro ⟨before, gives, behind, read, _, ⟨⟩, done⟩
        have settled := Given.settle_eq_ok_iff.mpr gives
        exact ⟨behind, read, before, settled, done⟩
  | none =>
      by_cases dashes : word = "--"
      · subst dashes
        apply iff_of_false
        · rw [meet_dashes rfl]
          exact readProgram_literal rfl
        · rintro ⟨after, -, read⟩
          rw [meet_dashes rfl] at read
          exact readProgram_literal rfl read
      · exact meet_due_bind (.inr dashes)

theorem continues_readProgram (environment : Option String) :
    Continues .program (readProgram environment) where
  step := readProgram_cons
  settled := readProgram_due

theorem readCommand_eq_ok_iff {name : CommandName} :
    readCommand name environment words = .ok given ↔
      (ready .nothing).finish (.command name) words = .ok given ∧
        given.checkEnvironment environment = .ok () := by
  have whole : readCommand name environment words = (do
      let given ← (ready .nothing).finish (.command name) words
      given.checkEnvironment environment
      return given) := by
    rw [readCommand, finish, bind_assoc]
    rfl
  rw [whole, bind_eq_ok]
  simp only [bind_eq_ok]
  constructor
  · rintro ⟨_, read, ⟨⟩, checked, ⟨⟩⟩
    exact ⟨read, checked⟩
  · rintro ⟨read, checked⟩
    exact ⟨given, read, (), checked, rfl⟩

theorem readProgram_name {name : CommandName} :
    readProgram environment (ready given) (name.text :: words) = .ok line ↔
      ∃ behind, (ready .nothing).finish (.command name) words = .ok behind ∧
        behind.checkEnvironment environment = .ok () ∧
        given.checkEnvironment environment = .ok () ∧
        combine environment name given behind = line := by
  have noHelp : name.text ≠ "help" := by
    cases name <;> decide
  have named := CommandName.ofText?_eq_some_iff.mpr (Eq.refl name.text)
  rw [readProgram_passed (ready given) rfl rfl, if_neg noHelp, named]
  simp only [bind_eq_ok, readCommand_eq_ok_iff]
  constructor
  · rintro ⟨behind, ⟨read, checked⟩, _, ⟨⟩, ⟨⟩, unchanged, ⟨⟩⟩
    exact ⟨behind, read, checked, unchanged, rfl⟩
  · rintro ⟨behind, read, checked, unchanged, rfl⟩
    exact ⟨behind, ⟨read, checked⟩, given, rfl, (), unchanged, rfl⟩

end CommandLine

theorem Level.accepts_command {setting : Setting}
    (accepted : Level.program.accepts setting = true) (name : CommandName) :
    (Level.command name).accepts setting = true := by
  cases setting <;> first | rfl | cases accepted

namespace CommandLine

open Progress

section Behind

variable {before : List (Setting × String)} {earlier : Given}

theorem isTaken_of_accepted
    (accepted : ∀ option ∈ before, Level.program.accepts option.1 = true)
    (gives : Given.nothing.GivesAll before earlier) {setting : Setting}
    (taken : earlier.isTaken setting = true) :
    setting ∈ [Setting.config, .family] ∧ setting ∈ before.map Prod.fst := by
  have named : setting ∈ before.map Prod.fst := by
    refine ((gives.isTaken_iff.mp taken).resolve_left ?_).1
    rw [Given.isTaken_nothing]
    exact Bool.false_ne_true
  refine ⟨?_, named⟩
  obtain ⟨option, member, rfl⟩ := List.mem_map.mp named
  have known := accepted option member
  cases setting : option.1 with
  | config => exact List.mem_cons_self
  | family => exact List.mem_cons_of_mem _ List.mem_cons_self
  | directory => rw [setting] at taken; cases taken
  | system | architecture => rw [setting] at known; cases known

theorem combine_following (name : CommandName) (after : Given)
    (accepted : ∀ option ∈ before, Level.program.accepts option.1 = true)
    (gives : Given.nothing.GivesAll before earlier) (plain : List String) :
    combine none name .nothing ((after.following earlier).orPlatform plain) =
      combine none name earlier (after.orPlatform plain) := by
  have foreign : ∀ setting ∉ [Setting.config, .family],
      ¬earlier.isTaken setting = true :=
    fun setting foreign taken =>
      foreign (isTaken_of_accepted accepted gives taken).1
  have system : earlier.system = none :=
    Option.not_isSome_iff_eq_none.mp (foreign .system (by decide))
  have architecture : earlier.architecture = none :=
    Option.not_isSome_iff_eq_none.mp (foreign .architecture (by decide))
  have platform : earlier.platform = none := gives.platform_eq
  simp [combine, commandOf, Given.following, Given.orPlatform, Given.nothing,
    platform, system, architecture]

/-- No option that may be given only once is among both the one options and the
other. -/
def ShareNone (before behind : List (Setting × String)) : Prop :=
  ∀ setting ∈ [Setting.config, .family],
    setting ∉ before.map Prod.fst ∨ setting ∉ behind.map Prod.fst

theorem untaken_of_shareNone
    (accepted : ∀ option ∈ before, Level.program.accepts option.1 = true)
    (gives : Given.nothing.GivesAll before earlier)
    {behind : List (Setting × String)} (none : ShareNone before behind) :
    ∀ option ∈ behind, earlier.isTaken option.1 = false := by
  intro option member
  rw [Bool.eq_false_iff]
  intro taken
  obtain ⟨single, named⟩ := isTaken_of_accepted accepted gives taken
  have renamed := List.mem_map_of_mem (f := Prod.fst) member
  rcases none _ single with absent | absent
  · exact absent named
  · exact absent renamed

theorem finish_behind {name : CommandName} {options words : List String}
    {behind : List (Setting × String)} {plain : List String} {after : Given}
    (spelled : Spells options before)
    (accepted : ∀ option ∈ before, Level.program.accepts option.1 = true)
    (gives : Given.nothing.GivesAll before earlier)
    (fits : Fits (.command name) .nothing words behind plain after)
    (untaken : ∀ option ∈ behind, earlier.isTaken option.1 = false) :
    (ready .nothing).finish (.command name) (options ++ words) =
      .ok ((after.following earlier).orPlatform plain) := by
  have behindName : ∀ option ∈ before,
      (Level.command name).accepts option.1 = true :=
    fun option member => Level.accepts_command (accepted option member) name
  apply ((continues_finish _).spelled spelled behindName).mpr
  exact ⟨earlier, gives,
    finish_of_fits (fits.following gives.platform_eq untaken)⟩

end Behind

/-- Options of the program may be given behind the name of a command as well as
before it, and name directories in the order of all options. -/
theorem parse_behind (name : CommandName) {before : List (Setting × String)}
    {options words : List String} {line : CommandLine}
    (spelled : Spells options before)
    (accepted : ∀ option ∈ before, Level.program.accepts option.1 = true)
    (parsed : parse none (options ++ name.text :: words) = .ok line) :
    ∃ behind : List (Setting × String),
      (∀ others, (∃ plain, Tells words others plain) ↔ others = behind) ∧
      line.directories = directoriesOf (before ++ behind) ∧
      (ShareNone before behind →
        parse none (name.text :: (options ++ words)) = .ok line) := by
  obtain ⟨earlier, given, read⟩ :=
    ((continues_readProgram none).spelled spelled accepted).mp parsed
  obtain ⟨_, finished, -, -, rfl⟩ := readProgram_name.mp read
  obtain ⟨behind, plain, after, fits, rfl⟩ := fits_of_finish finished
  refine ⟨behind, ?_, ?_, ?_⟩
  · intro others
    constructor
    · rintro ⟨_, told⟩
      exact (told.unique fits.told).1
    · rintro rfl
      exact ⟨plain, fits.told⟩
  · have first : earlier.directories = directoriesOf before :=
      given.directories_eq
    have second : after.directories = directoriesOf behind :=
      fits.gives.directories_eq
    rw [directoriesOf, List.filterMap_append]
    exact congr_arg₂ _ first second
  · intro none
    have whole := finish_behind spelled accepted given fits
      (untaken_of_shareNone accepted given none)
    rw [← combine_following name after accepted given plain]
    apply readProgram_name.mpr
    exact ⟨_, whole, Given.checkEnvironment_none _,
      Given.checkEnvironment_none _, rfl⟩

/-- A value before the name of a command may look like one, and moves behind the
name all the same. -/
theorem parse_behind_like_command :
    let options := ["-p", "select", "--config=c"]
    let words := ["-p/b", "--", "x"]
    let line : CommandLine := ⟨some ⟨"c"⟩, none, [⟨"select"⟩, ⟨"/b"⟩],
      .select "x" none (.ofName "default")⟩
    parse none (options ++ "select" :: words) = .ok line ∧
      parse none ("select" :: (options ++ words)) = .ok line := by
  intro options words line
  have directory : Setting.directory.NamedBy none "-p".toList := .short rfl
  have config : Setting.config.NamedBy (some "c") "--config=c".toList :=
    .longJoined ['c']
  have spelled : Spells options [(.directory, "select"), (.config, "c")] :=
    .apart directory CommandName.select.isPlain_text (.joined config .nothing)
  have attached : Setting.directory.NamedBy (some "/b") "-p/b".toList :=
    .shortAttached ['b'] rfl (by decide)
  have told : Tells words [(.directory, "/b")] ["x"] :=
    .joined attached (.literal ["x"])
  have parsed : parse none (options ++ "select" :: words) = .ok line := rfl
  refine ⟨parsed, ?_⟩
  obtain ⟨behind, only, -, moved⟩ :=
    parse_behind .select spelled (by decide) parsed
  obtain rfl := (only _).mp ⟨_, told⟩
  apply moved
  rw [ShareNone]
  decide

end CommandLine

end ToolSelect
