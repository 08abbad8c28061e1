import ToolSelect.Proofs.CommandLine.Splitting

/-!
# Configurations that the environment names

The environment may name a configuration for the command lines that name none.
It then stands for an option on either side of the command's name.  On a command
line that names a configuration itself the environment has no say, not even in
what is wrong with it.
-/

namespace ToolSelect

namespace Given

variable {given after : Given}

theorem isTaken_config_iff :
    given.isTaken .config = true ↔ given.config.isSome = true :=
  Iff.rfl

theorem isTaken_of_settle {pending : Option Pending} {setting : Setting}
    (single : setting ≠ .directory)
    (settled : given.settle pending = .ok after)
    (named : given.isTaken setting = true ∨
      pending.map Pending.setting = some setting) :
    after.isTaken setting = true := by
  rcases pending with - | ⟨other, - | value⟩
  · cases settled
    exact named.resolve_right nofun
  · cases settled
  · rw [(gives_of_settle settled).isTaken_iff]
    refine named.imp_right fun same => ⟨?_, single⟩
    exact (Option.some.inj same).symm

end Given

namespace Progress

variable {progress next : Progress} {level : Level} {setting : Setting}
  {word : String}

/-- The option has been named, whether it is settled or not. -/
def HasNamed (progress : Progress) (setting : Setting) : Prop :=
  progress.given.isTaken setting = true ∨
    progress.pending.map Pending.setting = some setting

theorem meetSetting_eq_ok_iff {value : Option String} :
    progress.meetSetting setting value = .ok next ↔
      ∃ given, progress.given.settle progress.pending = .ok given ∧
        match value with
        | none => next = ⟨given, some ⟨setting, none⟩, false⟩
        | some value =>
          ∃ after, given.Gives value setting after ∧ next = ready after := by
  rw [meetSetting, bind_eq_ok]
  refine exists_congr fun given => and_congr_right fun _ => ?_
  cases value with
  | none => exact ⟨fun same => (Except.ok.inj same).symm, fun same => same ▸ rfl⟩
  | some value =>
      refine settle_due_bind.trans (exists_congr fun after => ?_)
      refine and_congr_right fun _ => ?_
      exact ⟨fun same => (Except.ok.inj same).symm, fun same => same ▸ rfl⟩

theorem hasNamed_of_meetSetting {other : Setting} {value : Option String}
    (single : setting ≠ .directory)
    (met : progress.meetSetting other value = .ok next)
    (named : progress.HasNamed setting ∨ setting = other) :
    next.HasNamed setting := by
  obtain ⟨given, settled, reached⟩ := meetSetting_eq_ok_iff.mp met
  have kept : progress.HasNamed setting → given.isTaken setting = true :=
    Given.isTaken_of_settle single settled
  cases value with
  | none =>
      cases reached
      rcases named with named | rfl
      · exact .inl (kept named)
      · exact .inr rfl
  | some value =>
      obtain ⟨after, gives, rfl⟩ := reached
      exact .inl (gives.isTaken_iff.mpr (named.imp kept (⟨·, single⟩)))

theorem hasNamed_meetValue (named : progress.HasNamed setting)
    (value : String) : (progress.meetValue value).HasNamed setting := by
  refine named.imp_right fun same => ?_
  rw [← same, meetValue, Option.map_map]
  rfl

def Names (progress : Progress) (setting : Setting) (words : List String) :
    Prop :=
  progress.HasNamed setting ∨
    (progress.literal = false ∧ setting.NamedAmong words)

theorem names_of_meet {words : List String} (single : setting ≠ .directory)
    (met : progress.meet .program word = .ok next)
    (names : progress.Names setting (word :: words)) :
    next.Names setting words := by
  cases literal : progress.literal with
  | true =>
      rw [meet, literal, if_pos rfl] at met
      obtain ⟨⟨⟨⟩, -⟩, -⟩ := meetPlain_eq_ok_iff.mp met
  | false =>
      -- Of the words ahead, the first one can only name the option if it is read
      -- as an option.
      rcases asks_of_meet literal met with ⟨other, value, asked⟩ | asked | asked
      · obtain ⟨-, spelled⟩ := Level.word_eq_setting_iff.mp asked
        rw [meet, literal, if_neg Bool.false_ne_true, asked] at met
        rw [Names, Setting.namedAmong_cons spelled.ne_dashes,
          spelled.exists_iff] at names
        rcases names with named | ⟨-, same | later⟩
        · exact .inl (hasNamed_of_meetSetting single met (.inl named))
        · exact .inl (hasNamed_of_meetSetting single met (.inr same))
        · refine .inr ⟨?_, later⟩
          obtain ⟨given, -, reached⟩ := meetSetting_eq_ok_iff.mp met
          cases value with
          | none =>
              cases reached
              rfl
          | some value =>
              obtain ⟨after, -, rfl⟩ := reached
              rfl
      · obtain rfl := Level.word_eq_endOfOptions_iff.mp asked
        cases (meet_dashes literal .program).symm.trans met
        exact .inl (names.resolve_right fun later =>
          Setting.not_namedAmong_dashes later.2)
      · have plain := Level.word_eq_plain_iff.mp asked
        rw [Names, plain.namedAmong_cons] at names
        cases awaiting : progress.isAwaiting with
        | true =>
            rw [meet, literal, if_neg Bool.false_ne_true, asked, awaiting] at met
            cases met
            exact names.imp_left fun named => hasNamed_meetValue named word
        | false =>
            rw [meet_plain plain awaiting] at met
            obtain ⟨⟨⟨⟩, -⟩, -⟩ := meetPlain_eq_ok_iff.mp met

end Progress

namespace CommandLine

open Progress

variable {line : CommandLine} {name : CommandName} {file : String}
  {words : List String}

theorem readCommand_some (name : CommandName) (nonempty : file ≠ "")
    (words : List String) :
    readCommand name (some file) words = readCommand name none words := by
  simp only [readCommand,
    Given.checkEnvironment_of_ne _ (mt Option.some.inj nonempty),
    Given.checkEnvironment_none]

/-- The environment has no say where a configuration has been given. -/
theorem combine_of_config {environment : Option String}
    {before behind : Given}
    (taken : before.config.isSome = true ∨ behind.config.isSome = true) :
    combine environment name before behind = combine none name before behind := by
  rw [combine, combine]
  cases given : behind.config with
  | some path => rfl
  | none =>
      rw [given] at taken
      obtain ⟨path, earlier⟩ :=
        Option.isSome_iff_exists.mp (taken.resolve_right Bool.false_ne_true)
      rw [earlier]
      rfl

theorem config_isSome_of_readCommand {given : Given}
    (read : readCommand name none words = .ok given)
    (named : Setting.config.NamedAmong words) :
    given.config.isSome = true := by
  obtain ⟨finished, -⟩ := readCommand_eq_ok_iff.mp read
  obtain ⟨options, plain, after, fits, rfl⟩ := fits_of_finish finished
  have member := (fits.told.namedAmong_iff .config).mp named
  exact fits.gives.isTaken_iff.mpr (.inr ⟨member, by decide⟩)

/-- Without the name of a command, the environment makes a difference only where
nothing is given. -/
theorem readProgram_end {environment : Option String} {progress : Progress}
    {given : Given} (settled : progress.given.settle progress.pending = .ok given)
    (nonempty : environment ≠ some "") :
    readProgram environment progress [] =
      .error (if given.isNothing && environment.isNone then .nothingGiven
        else .commandMissing) := by
  rw [readProgram, settled]
  change (do given.checkEnvironment environment; throw _) = _
  rw [given.checkEnvironment_of_ne nonempty]
  rfl

/-- Behind a command's name the environment has no say either where a
configuration has been named. -/
theorem readSides_some (nonempty : file ≠ "") {progress : Progress}
    (named : progress.HasNamed .config ∨ Setting.config.NamedAmong words) :
    (do
      let behind ← readCommand name (some file) words
      let before ← progress.given.settle progress.pending
      before.checkEnvironment (some file)
      return combine (some file) name before behind) = (do
      let behind ← readCommand name none words
      let before ← progress.given.settle progress.pending
      before.checkEnvironment none
      return combine none name before behind) := by
  have usable := mt Option.some.inj nonempty
  rw [readCommand_some name nonempty words]
  cases read : readCommand name none words with
  | error problem => rfl
  | ok behind =>
      cases settled : progress.given.settle progress.pending with
      | error problem => rfl
      | ok before =>
          have taken : before.config.isSome = true ∨
              behind.config.isSome = true :=
            named.imp (Given.isTaken_of_settle (by decide) settled)
              (config_isSome_of_readCommand read)
          change (do
            before.checkEnvironment (some file)
            return combine (some file) name before behind) = (do
            before.checkEnvironment none
            return combine none name before behind)
          rw [combine_of_config taken, before.checkEnvironment_of_ne usable,
            before.checkEnvironment_none]

/-- Words that name a configuration are read as if the environment named
none. -/
theorem readProgram_some_of_names (nonempty : file ≠ "")
    {progress : Progress} (names : progress.Names .config words) :
    readProgram (some file) progress words =
      readProgram none progress words := by
  -- What has been read may already name a configuration, so the invariant is
  -- about the state and the words ahead together.
  induction words generalizing progress with
  | nil =>
      have named := names.resolve_right fun later =>
        Setting.not_namedAmong_nil later.2
      cases settled : progress.given.settle progress.pending with
      | error problem =>
          rw [readProgram, readProgram, settled]
          rfl
      | ok given =>
          have taken := Given.isTaken_of_settle (by decide) settled named
          have something : given.isNothing = false := by
            rw [Given.isNothing, beq_eq_false_iff_ne]
            rintro rfl
            exact Bool.false_ne_true taken
          have usable := mt Option.some.inj nonempty
          have unset := (Option.some_ne_none "").symm
          rw [readProgram_end settled usable, readProgram_end settled unset,
            something]
          rfl
  | cons word words induction =>
      rw [readProgram, readProgram]
      split
      next => rfl
      next =>
        cases passed : (if progress.literal || progress.isAwaiting then none
          else CommandName.ofText? word) with
        | none =>
            dsimp only
            cases met : progress.meet .program word with
            | error problem => rfl
            | ok next => exact induction (names_of_meet (by decide) met names)
        | some name =>
            split at passed
            next => cases passed
            next =>
              obtain rfl := CommandName.ofText?_eq_some_iff.mp passed
              rw [Names, name.isPlain_text.namedAmong_cons] at names
              exact readSides_some nonempty (names.imp_right And.right)

/-- On a command line that names a configuration the environment has no say. -/
theorem parse_some_of_named (nonempty : file ≠ "")
    (named : Setting.config.NamedAmong words) :
    parse (some file) words = parse none words :=
  readProgram_some_of_names nonempty (.inr ⟨rfl, named⟩)

section Unnamed

variable {options rest plain : List String}
  {before behind : List (Setting × String)} {earlier after : Given}

theorem config_namedBy (file : String) :
    Setting.config.NamedBy (some file) ("--config=" ++ file).toList := by
  have joined : Setting.config.NamedBy (some (String.ofList file.toList)) _ :=
    .longJoined file.toList
  rw [String.ofList_toList] at joined
  rw [String.toList_append]
  exact joined

/-- A command line names a configuration where one is given on one of its
sides. -/
theorem Splits.namedAmong_iff (splits : Splits words options before name rest)
    (gathers : Gathers before name rest earlier behind plain after) :
    Setting.config.NamedAmong words ↔
      earlier.config.isSome = true ∨ after.config.isSome = true := by
  have told : Tells words (before ++ behind) (name.text :: plain) := by
    rw [splits.whole]
    exact splits.spelled.tells (.plain name.isPlain_text gathers.fits.told)
  rw [told.namedAmong_iff, List.map_append, List.mem_append,
    ← Given.isTaken_config_iff, ← Given.isTaken_config_iff,
    gathers.gives.isTaken_iff, gathers.fits.gives.isTaken_iff]
  simp [Given.isTaken_nothing]

theorem exists_parse_of_parse {environment other : Option String}
    (nonempty : environment ≠ some "") (otherNonempty : other ≠ some "")
    (parsed : parse environment words = .ok line) :
    ∃ line, parse other words = .ok line := by
  obtain ⟨options, before, name, rest, splits⟩ := exists_splits parsed
  obtain ⟨earlier, behind, plain, after, gathers, -⟩ :=
    (splits.parse_eq_ok_iff nonempty).mp parsed
  have combined := Eq.refl
    (combine other name earlier (after.orPlatform plain))
  exact ⟨_, (splits.parse_eq_ok_iff otherNonempty).mpr
    ⟨earlier, behind, plain, after, gathers, combined⟩⟩

theorem Splits.gathers_of_unnamed (nonempty : file ≠ "")
    (splits : Splits words options before name rest)
    (unnamed : ¬Setting.config.NamedAmong words)
    (parsed : parse (some file) words = .ok line) :
    ∃ earlier behind plain after,
      Gathers before name rest earlier behind plain after ∧
        earlier.config = none ∧ after.config = none ∧
        combine (some file) name earlier (after.orPlatform plain) = line := by
  obtain ⟨earlier, behind, plain, after, gathers, combined⟩ :=
    (splits.parse_eq_ok_iff (mt Option.some.inj nonempty)).mp parsed
  rw [splits.namedAmong_iff gathers, not_or, Option.not_isSome_iff_eq_none,
    Option.not_isSome_iff_eq_none] at unnamed
  obtain ⟨free, freeBehind⟩ := unnamed
  exact ⟨earlier, behind, plain, after, gathers, free, freeBehind, combined⟩

/-- What the environment names may as well be given last before the name of the
command. -/
theorem Splits.parse_option_before (nonempty : file ≠ "")
    (splits : Splits words options before name rest)
    (unnamed : ¬Setting.config.NamedAmong words)
    (parsed : parse (some file) words = .ok line) :
    parse none (options ++ ("--config=" ++ file) :: name.text :: rest) =
      .ok line := by
  obtain ⟨earlier, behind, plain, after, gathers, free, freeBehind, rfl⟩ :=
    splits.gathers_of_unnamed nonempty unnamed parsed
  have further : Splits
      (options ++ ("--config=" ++ file) :: name.text :: rest)
      (options ++ ["--config=" ++ file]) (before ++ [(.config, file)]) name
      rest := {
    whole := by rw [List.append_assoc]; rfl
    spelled := splits.spelled.append (.joined (config_namedBy file) .nothing)
    accepted := List.forall_mem_append.mpr
      ⟨splits.accepted, List.forall_mem_singleton.mpr rfl⟩ }
  let given : Given := { earlier with config := some ⟨file⟩ }
  have gives : Given.nothing.GivesAll (before ++ [(.config, file)]) given :=
    gathers.gives.append (.more (.config nonempty free) (.nothing given))
  apply (further.parse_eq_ok_iff (Option.some_ne_none _).symm).mpr
  refine ⟨given, behind, plain, after, ⟨gives, gathers.fits⟩, ?_⟩
  simp [combine, Given.orPlatform, given, free, freeBehind]

/-- It may as well be given first behind the name of the command. -/
theorem Splits.parse_option_behind (nonempty : file ≠ "")
    (splits : Splits words options before name rest)
    (unnamed : ¬Setting.config.NamedAmong words)
    (parsed : parse (some file) words = .ok line) :
    parse none (options ++ name.text :: ("--config=" ++ file) :: rest) =
      .ok line := by
  obtain ⟨earlier, behind, plain, after, gathers, free, freeBehind, rfl⟩ :=
    splits.gathers_of_unnamed nonempty unnamed parsed
  let given : Given := { Given.nothing with config := some ⟨file⟩ }
  have gives : Given.nothing.GivesAll [(.config, file)] given :=
    .more (.config nonempty rfl) (.nothing given)
  have absent : Setting.config ∉ behind.map Prod.fst := by
    intro member
    have taken : after.config.isSome = true :=
      gathers.fits.gives.isTaken_iff.mpr (.inr ⟨member, by decide⟩)
    rw [freeBehind] at taken
    cases taken
  have apart : ShareNone [(.config, file)] behind := by
    simpa [ShareNone] using absent
  have untaken := untaken_of_shareNone
    (List.forall_mem_singleton.mpr rfl) gives apart
  have fits : Fits (.command name) .nothing (("--config=" ++ file) :: rest)
      ((.config, file) :: behind) plain (after.following given) :=
    .joined rfl (config_namedBy file) (.config nonempty rfl)
      (gathers.fits.following rfl untaken)
  have further : Splits
      (options ++ name.text :: ("--config=" ++ file) :: rest) options before
      name (("--config=" ++ file) :: rest) :=
    ⟨rfl, splits.spelled, splits.accepted⟩
  apply (further.parse_eq_ok_iff (Option.some_ne_none _).symm).mpr
  refine ⟨earlier, _, plain, _, ⟨gathers.gives, fits⟩, ?_⟩
  simp [combine, commandOf, Given.orPlatform, Given.following, Given.nothing,
    given, free, freeBehind]

end Unnamed

end CommandLine

end ToolSelect
