import ToolSelect.Machine.FileTree
import ToolSelect.Program.Run
import ToolSelect.Proofs.CommandLine.Environment
import ToolSelect.Proofs.InstalledFiles

/-!
# The variable that names a configuration

A run asks for the variable once, to read its command line, and never again.
What the variable names is therefore an option like any other, and the variable
does not matter for a command line that has this option.
-/

namespace ToolSelect

variable {m : Type → Type} [Monad m]

/-- The machine where the variable for a configuration names this file, or none.
All else about the machine is as it was, also what asking for the variable
does. -/
def Machine.naming (machine : Machine m) (file : Option String) :
    Machine m where
  variableValue name :=
    if name = Program.configVariable then
      (fun _ => file) <$> machine.variableValue name
    else
      machine.variableValue name
  readText := machine.readText
  isPresent := machine.isPresent
  isDirectory := machine.isDirectory
  configDirectory := machine.configDirectory

theorem Machine.variableValue_naming (machine : Machine m)
    (file : Option String) :
    (machine.naming file).variableValue Program.configVariable =
      (fun _ => file) <$> machine.variableValue Program.configVariable := by
  simp [Machine.naming]

theorem Machine.variableValue_naming_of_ne (machine : Machine m)
    (file : Option String) {name : String}
    (other : name ≠ Program.configVariable) :
    (machine.naming file).variableValue name = machine.variableValue name :=
  if_neg other

namespace SearchPath

theorem firstFile_naming (machine : Machine m) (named : Option String)
    (file : String) (directories : List Path) :
    firstFile (machine.naming named) file directories =
      firstFile machine file directories := by
  induction directories with
  | nil => rfl
  | cons directory directories induction =>
      rw [firstFile, firstFile, induction]
      rfl

theorem locate_naming (machine : Machine m) (named : Option String)
    (host : Host) (directories : List Path) (kind : ToolKind)
    (executable : String) :
    locate ⟨machine.naming named, host, directories⟩ kind executable =
      locate ⟨machine, host, directories⟩ kind executable := by
  have listed : systemDirectories ⟨machine.naming named, host, directories⟩ =
      systemDirectories ⟨machine, host, directories⟩ := by
    rw [systemDirectories, systemDirectories,
      machine.variableValue_naming_of_ne named (by decide)]
  simp only [locate, listed, firstFile_naming]
  rfl

end SearchPath

namespace ToolChain

section Locators

variable {L : Type} [Locator L m]

/-- A request sees no more of a locator than its answers. -/
theorem select_congr (chain : ToolChain L) {locator : L}
    (same : ∀ kind executable, (Locator.locate locator kind executable : m _) =
      Locator.locate chain.locator kind executable) (platform : Platform) :
    { chain with locator := locator }.select platform =
      (chain.select platform : m _) := by
  have probed : ∀ availability tools,
      Availability.probe availability tools locator =
        (Availability.probe availability tools chain.locator : m _) := by
    intro availability tools
    simp only [Availability.probe, same]
  cases supported : chain.strategyFor? platform with
  | none =>
      have unsupported : { chain with locator := locator }.strategyFor?
          platform = none := supported
      rw [select_of_unsupported supported, select_of_unsupported unsupported]
  | some strategy =>
      have stillSupported : { chain with locator := locator }.strategyFor?
          platform = some strategy := supported
      rw [select_of_strategy supported, select_of_strategy stillSupported,
        probed]
      rfl

end Locators

theorem select_ofHistory_naming (name : String) (family : Family)
    (host : Host) (machine : Machine m) (named : Option String)
    (history : History) (platform : Platform) :
    (ofHistory name family host
      (SearchPath.ofMachine (machine.naming named) host) history).select
        platform =
      (ofHistory name family host (SearchPath.ofMachine machine host)
        history).select platform := by
  rw [← ofHistory_withLocator name family host
    (SearchPath.ofMachine machine host)]
  apply select_congr
  intro kind executable
  rw [locator_ofHistory_ofMachine, locator_ofHistory_ofMachine]
  exact SearchPath.locate_naming machine named host _ kind executable

end ToolChain

theorem Config.build_eq (config : Config) (machine : Machine m) (host : Host) :
    config.build machine host =
      (config.registrations host).map
        (ToolChain.ofHistory config.toolChainName config.family host
          (SearchPath.ofMachine machine host)) := by
  change (config.registrations host >>= _) = _
  cases config.registrations host <;> rfl

namespace Session

variable (session : Session) (machine : Machine m) (named : Option String)

theorem select_naming (platform : Platform) :
    session.select (machine.naming named) platform =
      session.select machine platform := by
  rw [select, select, build, build, Config.build_eq, Config.build_eq]
  cases session.config.registrations session.host with
  | error problem => rfl
  | ok history =>
      simp only [Except.map, ToolChain.select_ofHistory_naming]

theorem strategies_naming :
    session.strategies (machine.naming named) =
      session.strategies machine := by
  rw [strategies, strategies, build, build, Config.build_eq, Config.build_eq]
  cases session.config.registrations session.host with
  | error problem => rfl
  | ok history =>
      have listed := fun machine : Machine m =>
        ToolChain.strategies_ofHistory session.config.toolChainName
          session.config.family session.host
          (SearchPath.ofMachine machine session.host) history
      have same := (listed (machine.naming named)).trans (listed machine).symm
      exact congrArg (fun strategies : List Strategy =>
        (.ok (strategies.map Strategy.display) : Except ConfigProblem _)) same

end Session

theorem Outcome.exitCode_ofUsageProblem (text other : String)
    (problem : UsageProblem) :
    (ofUsageProblem text problem).exitCode =
      (ofUsageProblem other problem).exitCode := by
  cases problem <;> rfl

namespace Program

open CommandLine

/-- Once its command line is read, a run does not ask for the variable. -/
theorem runCommandLine_naming (machine : Machine m) (named : Option String)
    (host : Host) (line : CommandLine) :
    runCommandLine (machine.naming named) host line =
      runCommandLine machine host line := by
  have answered : ∀ session command,
      runCommand (machine.naming named) session command =
        runCommand machine session command := by
    intro session command
    cases command with
    | select name system architecture =>
        rw [runCommand, runCommand, Session.select_naming]
    | strategies => rw [runCommand, runCommand, Session.strategies_naming]
  simp only [runCommandLine, answered]
  rfl

variable [LawfulMonad m]

theorem runWith_naming (texts : UsageTexts) (machine : Machine m)
    (named : Option String) (host : Host) (words : List String) :
    runWith texts (machine.naming named) host words = (do
      let _ ← machine.variableValue configVariable
      match parse named words with
      | .error problem =>
        return .ofUsageProblem (texts.text named words problem) problem
      | .ok line => runCommandLine machine host line) := by
  rw [runWith, Machine.variableValue_naming, bind_map_left]
  congr 1
  funext _
  cases parse named words with
  | error problem => rfl
  | ok line => exact runCommandLine_naming machine named host line

theorem runWith_naming_of_parse (texts : UsageTexts) (machine : Machine m)
    (host : Host) {named : Option String} {words : List String}
    {line : CommandLine} (parsed : parse named words = .ok line) :
    runWith texts (machine.naming named) host words = (do
      let _ ← machine.variableValue configVariable
      runCommandLine machine host line) := by
  rw [runWith_naming, parsed]

theorem runWith_naming_congr (texts : UsageTexts) (machine : Machine m)
    (host : Host) {named other : Option String} {words others : List String}
    {line : CommandLine} (parsed : parse named words = .ok line)
    (same : parse other others = .ok line) :
    runWith texts (machine.naming named) host words =
      runWith texts (machine.naming other) host others := by
  rw [runWith_naming_of_parse texts machine host parsed,
    runWith_naming_of_parse texts machine host same]

theorem exitCode_runWith_naming_congr (texts : UsageTexts)
    (machine : Machine m) (host : Host) {named other : Option String}
    {words : List String} (same : parse named words = parse other words) :
    Outcome.exitCode <$> runWith texts (machine.naming named) host words =
      Outcome.exitCode <$> runWith texts (machine.naming other) host words := by
  rw [runWith_naming, runWith_naming, same, map_bind, map_bind]
  congr 1
  funext _
  cases parse other words with
  | error problem =>
      rw [map_pure, map_pure]
      exact congrArg pure (Outcome.exitCode_ofUsageProblem ..)
  | ok line => rfl

/-- For a command line that names no configuration, a variable that names one
stands for an option on either side of the command's name.  On a command line
that names a configuration the variable has no effect.  A request for help is
no such command line, since what the variable names may be shown there; but the
run ends in the same way. -/
theorem run_named_by_variable (texts : UsageTexts) (machine : Machine m)
    (host : Host) {file : String} (nonempty : file ≠ "")
    (words : List String) :
    let named := machine.naming (some file)
    let unnamed := machine.naming none
    (¬Setting.config.NamedAmong words →
      ∀ environment ∈ [none, some file], ∀ line,
        parse environment words = .ok line →
        (∃ options before name rest,
          Splits words options before name rest) ∧
        ∀ options before name rest, Splits words options before name rest →
          runWith texts named host words =
              runWith texts unnamed host
                (options ++ ("--config=" ++ file) :: name.text :: rest) ∧
            runWith texts named host words =
              runWith texts unnamed host
                (options ++ name.text :: ("--config=" ++ file) :: rest)) ∧
    (Setting.config.NamedAmong words →
      (∀ environment ∈ [none, some file], ∀ line,
        parse environment words = .ok line →
        runWith texts named host words = runWith texts unnamed host words) ∧
      Outcome.exitCode <$> runWith texts named host words =
        Outcome.exitCode <$> runWith texts unnamed host words) := by
  intro named unnamed
  constructor
  · intro absent environment listed line parsed
    have usable : environment ≠ some "" := by
      rintro rfl
      simp [nonempty.symm] at listed
    -- Words that can be read without the variable can be read with it.
    obtain ⟨line, parsed⟩ :=
      exists_parse_of_parse usable (mt Option.some.inj nonempty) parsed
    refine ⟨exists_splits parsed, fun options before name rest splits => ?_⟩
    constructor
    · exact runWith_naming_congr texts machine host parsed
        (splits.parse_option_before nonempty absent parsed)
    · exact runWith_naming_congr texts machine host parsed
        (splits.parse_option_behind nonempty absent parsed)
  · intro present
    have same := parse_some_of_named nonempty present
    constructor
    · intro environment listed line parsed
      have unset : parse none words = .ok line := by
        simp only [List.mem_cons, List.not_mem_nil, or_false] at listed
        rcases listed with rfl | rfl
        · exact parsed
        · exact same.symm.trans parsed
      exact runWith_naming_congr texts machine host (same.trans unset) unset
    · exact exitCode_runWith_naming_congr texts machine host same

/-- The name of the command is also the value of an option before it here.  The
last command line has a configuration that is not there. -/
theorem run_named_by_variable_twice_select :
    let machine : Machine Id := FileTree.machine
      ⟨[([['c']], "\x7b\"family\":\"clang\"\x7d")], [], [], []⟩
    let run := runWith (m := Id) (.short version)
    let outcome := Outcome.failure
      "unavailable:\nCould not find C compiler 'clang'. Searched in:\n  - select"
    run (machine.naming (some "/c")) ⟨.linux⟩
        ["-p", "select", "select", "tv"] = pure outcome ∧
      run (machine.naming none) ⟨.linux⟩
        ["-p", "select", "--config=/c", "select", "tv"] = pure outcome ∧
      run (machine.naming none) ⟨.linux⟩
        ["-p", "select", "select", "--config=/c", "tv"] = pure outcome ∧
      run (machine.naming (some "/c")) ⟨.linux⟩ ["select", "-c", "/d"] =
        run (machine.naming none) ⟨.linux⟩ ["select", "-c", "/d"] := by
  intro machine run outcome
  have nonempty : "/c" ≠ "" := by decide
  have named : run (machine.naming (some "/c")) ⟨.linux⟩
      ["-p", "select", "select", "tv"] = pure outcome := by
    subst machine run outcome
    rfl
  have splits : Splits ["-p", "select", "select", "tv"] ["-p", "select"]
      [(.directory, "select")] .select ["tv"] :=
    ⟨rfl, .apart (.short rfl) CommandName.select.isPlain_text .nothing,
      by decide⟩
  have tells : Tells ["-p", "select", "select", "tv"]
      [(.directory, "select")] ["select", "tv"] :=
    splits.spelled.tells (.plain CommandName.select.isPlain_text
      (.plain (.inr (by decide)) .nothing))
  have absent : ¬Setting.config.NamedAmong ["-p", "select", "select", "tv"] := by
    rw [tells.namedAmong_iff]
    decide
  have present : Setting.config.NamedAmong ["select", "-c", "/d"] :=
    ⟨"-c", by decide, none, .short rfl⟩
  have settled := fun words =>
    run_named_by_variable (.short version) machine ⟨.linux⟩ nonempty words
  obtain ⟨before, behind⟩ :=
    ((settled _).1 absent (some "/c") (by decide) _ rfl).2 _ _ _ _ splits
  exact ⟨named, before.symm.trans named, behind.symm.trans named,
    ((settled _).2 present).1 none (by decide) _ rfl⟩

end Program

end ToolSelect
