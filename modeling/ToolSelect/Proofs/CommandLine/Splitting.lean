import ToolSelect.Proofs.CommandLine.Placement

/-!
# The sides of a command line

A command line that asks for a command has the command's name behind options of
the program, and is read on either side of it apart.  Which options it names is
seen from its words alone.
-/

namespace ToolSelect

/-- One of the words names the option.  The words behind two dashes name
none. -/
def Setting.NamedAmong (setting : Setting) (words : List String) : Prop :=
  ∃ word ∈ words.takeWhile (· != "--"), ∃ value,
    setting.NamedBy value word.toList

section Words

variable {setting : Setting} {value : Option String} {word : String}
  {words : List String}

theorem Setting.NamedBy.ne_dashes
    (named : setting.NamedBy value word.toList) : word ≠ "--" := by
  rintro rfl
  cases named.word.symm.trans (Level.word_dashes _)

theorem IsPlain.ne_dashes (plain : IsPlain word) : word ≠ "--" := by
  rintro rfl
  cases plain.word.symm.trans (Level.word_dashes _)

theorem Setting.NamedBy.exists_iff (named : setting.NamedBy value word.toList)
    {other : Setting} :
    (∃ value, other.NamedBy value word.toList) ↔ other = setting := by
  constructor
  · rintro ⟨value, renamed⟩
    cases named.word.symm.trans renamed.word
    rfl
  · rintro rfl
    exact ⟨value, named⟩

theorem Setting.not_namedAmong_nil : ¬setting.NamedAmong [] :=
  fun ⟨_, member, _⟩ => List.not_mem_nil member

theorem Setting.not_namedAmong_dashes :
    ¬setting.NamedAmong ("--" :: words) := by
  simp [NamedAmong]

theorem Setting.namedAmong_cons (spoken : word ≠ "--") :
    setting.NamedAmong (word :: words) ↔
      (∃ value, setting.NamedBy value word.toList) ∨
        setting.NamedAmong words := by
  simp [NamedAmong, spoken]

theorem IsPlain.namedAmong_cons (plain : IsPlain word) :
    setting.NamedAmong (word :: words) ↔ setting.NamedAmong words := by
  rw [Setting.namedAmong_cons plain.ne_dashes]
  exact or_iff_right fun ⟨_, named⟩ => named.not_isPlain plain

end Words

section Told

variable {words more : List String} {options others : List (Setting × String)}
  {plain : List String}

theorem Spells.append (spelled : Spells words options)
    (next : Spells more others) :
    Spells (words ++ more) (options ++ others) := by
  induction spelled with
  | nothing => exact next
  | joined named _ induction => exact .joined named induction
  | apart named value _ induction => exact .apart named value induction

theorem Spells.tells (spelled : Spells words options)
    (told : Tells more others plain) :
    Tells (words ++ more) (options ++ others) plain := by
  induction spelled with
  | nothing => exact told
  | joined named _ induction => exact .joined named induction
  | apart named value _ induction => exact .apart named value induction

theorem Tells.namedAmong_iff (told : Tells words options plain)
    (setting : Setting) :
    setting.NamedAmong words ↔ setting ∈ options.map Prod.fst := by
  induction told with
  | nothing => exact iff_of_false Setting.not_namedAmong_nil List.not_mem_nil
  | joined named _ induction =>
      rw [Setting.namedAmong_cons named.ne_dashes, named.exists_iff, induction,
        List.map_cons, List.mem_cons]
  | apart named value _ induction =>
      rw [Setting.namedAmong_cons named.ne_dashes, named.exists_iff,
        value.namedAmong_cons, induction, List.map_cons, List.mem_cons]
  | plain word _ induction => rw [word.namedAmong_cons, induction]
  | literal =>
      exact iff_of_false Setting.not_namedAmong_dashes List.not_mem_nil

end Told

namespace CommandLine

open Progress

/-- The words of a command line: options of the program, then the name of a
command, and then words for the command. -/
structure Splits (words options : List String)
    (before : List (Setting × String)) (name : CommandName)
    (rest : List String) : Prop where
  whole : words = options ++ name.text :: rest
  spelled : Spells options before
  accepted : ∀ option ∈ before, Level.program.accepts option.1 = true

section Splits

variable {environment : Option String} {line : CommandLine} {given : Given}
  {words options rest : List String} {before : List (Setting × String)}
  {name : CommandName} {setting : Setting}

theorem Splits.joined {value word : String}
    (accepted : Level.program.accepts setting = true)
    (named : setting.NamedBy (some value) word.toList)
    (splits : Splits words options before name rest) :
    Splits (word :: words) (word :: options) ((setting, value) :: before) name
      rest where
  whole := congrArg (word :: ·) splits.whole
  spelled := .joined named splits.spelled
  accepted := List.forall_mem_cons.mpr ⟨accepted, splits.accepted⟩

theorem Splits.apart {value word : String}
    (accepted : Level.program.accepts setting = true)
    (named : setting.NamedBy none word.toList) (plain : IsPlain value)
    (splits : Splits words options before name rest) :
    Splits (word :: value :: words) (word :: value :: options)
      ((setting, value) :: before) name rest where
  whole := congrArg (word :: value :: ·) splits.whole
  spelled := .apart named plain splits.spelled
  accepted := List.forall_mem_cons.mpr ⟨accepted, splits.accepted⟩

theorem value_of_readProgram
    (read : readProgram environment ⟨given, some ⟨setting, none⟩, false⟩
      words = .ok line) :
    ∃ value rest, words = value :: rest ∧ IsPlain value := by
  rcases words with - | ⟨word, words⟩
  · exact absurd read readProgram_nil
  rw [readProgram_cons rfl (.inl rfl)] at read
  obtain ⟨next, met, read⟩ := bind_eq_ok.mp read
  rcases asks_of_meet rfl met with ⟨other, value, asked⟩ | asked | asked
  · simp only [meet, asked] at met
    obtain ⟨_, ⟨⟩, -⟩ := bind_eq_ok.mp met
  · simp only [meet, asked] at met
    cases met
    exact absurd read (readProgram_literal rfl)
  · exact ⟨word, words, rfl, Level.word_eq_plain_iff.mp asked⟩

theorem name_of_readProgram {word : String} (plain : IsPlain word)
    (read : readProgram environment (ready given) (word :: words) =
      .ok line) :
    ∃ name : CommandName, word = name.text := by
  rw [readProgram_passed (ready given) rfl rfl] at read
  split at read
  next => cases read
  next =>
    split at read
    next name named => exact ⟨name, CommandName.ofText?_eq_some_iff.mp named⟩
    next =>
      obtain ⟨next, met, -⟩ := bind_eq_ok.mp read
      rw [meet_plain plain rfl] at met
      obtain ⟨⟨⟨⟩, -⟩, -⟩ := meetPlain_eq_ok_iff.mp met

theorem exists_splits_of_readProgram
    (read : readProgram environment (ready given) words = .ok line) :
    ∃ options before name rest, Splits words options before name rest := by
  -- An option and its value may be two words, so the induction is on lengths.
  induction size : words.length using Nat.strong_induction_on
    generalizing words given with
  | _ size induction =>
    rcases words with - | ⟨word, words⟩
    · exact absurd read readProgram_nil
    subst size
    by_cases plain : IsPlain word
    · obtain ⟨name, rfl⟩ := name_of_readProgram plain read
      exact ⟨[], [], name, words, rfl, .nothing, nofun⟩
    have continued := read
    rw [readProgram_cons rfl (.inr plain)] at continued
    obtain ⟨next, met, continued⟩ := bind_eq_ok.mp continued
    rcases asks_of_meet rfl met with ⟨setting, value, asked⟩ | asked | asked
    · obtain ⟨accepted, named⟩ := Level.word_eq_setting_iff.mp asked
      cases value with
      | some value =>
          obtain ⟨next, -, read⟩ :=
            ((continues_readProgram _).joined accepted named).mp read
          obtain ⟨options, before, name, rest, splits⟩ :=
            induction _ (by simp) read rfl
          exact ⟨_, _, name, rest, splits.joined accepted named⟩
      | none =>
          simp only [meet, ready, asked] at met
          cases met
          obtain ⟨value, words, rfl, valued⟩ := value_of_readProgram continued
          obtain ⟨next, -, read⟩ :=
            ((continues_readProgram _).apart accepted named valued).mp read
          obtain ⟨options, before, name, rest, splits⟩ :=
            induction _ (by simp only [List.length_cons]; omega) read rfl
          exact ⟨_, _, name, rest, splits.apart accepted named valued⟩
    · simp only [meet, ready, asked] at met
      cases met
      exact absurd continued (readProgram_literal rfl)
    · exact absurd (Level.word_eq_plain_iff.mp asked) plain

theorem exists_splits (parsed : parse environment words = .ok line) :
    ∃ options before name rest, Splits words options before name rest :=
  exists_splits_of_readProgram parsed

/-- The options before a command's name give the one, and the words behind it
the other. -/
structure Gathers (before : List (Setting × String)) (name : CommandName)
    (rest : List String) (earlier : Given) (behind : List (Setting × String))
    (plain : List String) (after : Given) : Prop where
  gives : Given.nothing.GivesAll before earlier
  fits : Fits (.command name) .nothing rest behind plain after

/-- The two sides of a command line are read apart, and the environment is
looked at only in the end. -/
theorem Splits.parse_eq_ok_iff
    (splits : Splits words options before name rest)
    (nonempty : environment ≠ some "") :
    parse environment words = .ok line ↔
      ∃ earlier behind plain after,
        Gathers before name rest earlier behind plain after ∧
          combine environment name earlier (after.orPlatform plain) = line := by
  have usable := fun given : Given => given.checkEnvironment_of_ne nonempty
  have read : parse environment words = .ok line ↔
      ∃ earlier, Given.nothing.GivesAll before earlier ∧
        readProgram environment (ready earlier) (name.text :: rest) =
          .ok line := by
    rw [splits.whole]
    exact (continues_readProgram environment).spelled splits.spelled
      splits.accepted
  rw [read]
  constructor
  · rintro ⟨earlier, gives, read⟩
    obtain ⟨_, finished, -, -, combined⟩ := readProgram_name.mp read
    obtain ⟨behind, plain, after, fits, rfl⟩ := fits_of_finish finished
    exact ⟨earlier, behind, plain, after, ⟨gives, fits⟩, combined⟩
  · rintro ⟨earlier, behind, plain, after, ⟨gives, fits⟩, combined⟩
    refine ⟨earlier, gives, readProgram_name.mpr ?_⟩
    exact ⟨_, finish_of_fits fits, usable _, usable _, combined⟩

end Splits

end CommandLine

end ToolSelect
