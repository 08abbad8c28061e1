import ToolSelect.Program.Run
import ToolSelect.Proofs.Selection
import ToolSelect.Proofs.WholeConfigurations

/-!
# Outcomes of runs

A run of the program for a command either succeeds and shows its results, or it
fails and complains.  It fails if there is no configuration to work with, and
if nothing can be built for the platform that is asked for.  Nothing else goes
wrong once the configuration is there.
-/

namespace ToolSelect

/-- A line for the platform, one for each tool in the order of their kinds, and
two for the files that these tools write and read. -/
def PlatformTools.lines (provided : PlatformTools) : List String :=
  let platform := provided.platform
  ("platform: " ++ platform.name ++ " (" ++ platform.operatingSystem.name ++
    ", " ++ platform.architecture.name ++ ")") ::
  ToolKind.all.filterMap (fun kind =>
    (provided.tools.get kind).map fun tool =>
      kind.id ++ ": " ++
        " ".intercalate (tool.executable :: tool.arguments)) ++
  ["object file suffix: " ++
      if platform.operatingSystem = .windows then ".obj" else ".o",
    "command file: " ++ if provided.supportsCommandFile then "true" else "false"]

theorem Tool.display_eq_intercalate (tool : Tool) :
    tool.display = " ".intercalate (tool.executable :: tool.arguments) := by
  obtain ⟨executable, arguments⟩ := tool
  change arguments.foldl (fun line argument => line ++ " " ++ argument)
    executable = _
  induction arguments generalizing executable with
  | nil => exact String.intercalate_singleton.symm
  | cons argument arguments induction =>
      rw [List.foldl_cons, induction, String.intercalate_cons_append,
        String.intercalate_cons_cons]

theorem PlatformTools.objectFileSuffix_eq (provided : PlatformTools) :
    provided.objectFileSuffix =
      if provided.platform.operatingSystem = .windows then ".obj" else ".o" := by
  simp [objectFileSuffix, OperatingSystem.isWindows]

/-- What is provided is shown line by line. -/
theorem PlatformTools.display_eq_lines (provided : PlatformTools) :
    provided.display ++ "\n" =
      String.join (provided.lines.map (· ++ "\n")) := by
  have shown : (provided.tools.entries.map fun entry =>
        entry.1.id ++ ": " ++ entry.2.display ++ "\n") =
      (ToolKind.all.filterMap fun kind =>
        (provided.tools.get kind).map fun tool =>
          kind.id ++ ": " ++
            " ".intercalate (tool.executable :: tool.arguments)).map
        (· ++ "\n") := by
    simp only [ToolSet.entries, KindMap.entries_eq, List.map_filterMap,
      Option.map_map, Tool.display_eq_intercalate]
    rfl
  -- The equation of the text is slow to make, since it has many literals.
  delta display lines Platform.display
  rw [shown, objectFileSuffix_eq]
  simp only [List.cons_append, List.map_cons, List.map_append, List.map_nil,
    String.join_cons, String.join_append, String.join_nil, String.append_assoc,
    String.append_empty]

namespace Outcome

/-- The run shows results, which end with a line, and has no complaints. -/
structure Succeeds (outcome : Outcome) : Prop where
  exitCode : outcome.exitCode = 0
  output : ∃ text, outcome.output = text ++ "\n"
  complaints : outcome.complaints = ""

/-- The run complains, and has no results. -/
structure Fails (outcome : Outcome) : Prop where
  exitCode : outcome.exitCode = 1
  output : outcome.output = ""
  complaints : outcome.complaints ≠ ""

/-- The run shows what has been provided, or complains of the one reason why
nothing has been. -/
structure Shows (outcome : Outcome) (provider : ToolProvider) : Prop where
  ends : outcome.Succeeds ∨ outcome.Fails
  exitCode : outcome.exitCode = 0 ↔ provider.isAvailable = true
  output : ∀ provided, provider = .available provided →
    outcome.output = String.join (provided.lines.map (· ++ "\n"))
  complaints : provider.isAvailable = false →
    ∃ reason, provider = .unavailable [reason] ∧
      outcome.complaints = "unavailable:\n" ++ reason ++ "\n"

theorem succeeds_success (text : String) : (success text).Succeeds :=
  ⟨rfl, ⟨text, rfl⟩, rfl⟩

theorem fails_failure (text : String) : (failure text).Fails where
  exitCode := rfl
  output := rfl
  complaints := by
    intro empty
    have last := (String.append_eq_empty_iff.mp empty).2
    exact absurd last (by decide)

theorem not_succeeds_and_fails (outcome : Outcome) :
    ¬(outcome.Succeeds ∧ outcome.Fails) := by
  rintro ⟨succeeds, fails⟩
  have codes := succeeds.exitCode.symm.trans fails.exitCode
  cases codes

theorem shows_success (provided : PlatformTools) :
    (success provided.display).Shows (.available provided) where
  ends := .inl (succeeds_success _)
  exitCode := iff_of_true rfl rfl
  output := by
    rintro _ ⟨⟩
    exact provided.display_eq_lines
  complaints := nofun

theorem shows_failure (reason : String) :
    (failure ("unavailable:\n" ++ reason)).Shows (.unavailable [reason]) where
  ends := .inr (fails_failure _)
  exitCode := iff_of_false nofun nofun
  output := nofun
  complaints _ := ⟨reason, rfl, rfl⟩

end Outcome

/-- A request either is granted or is refused for one reason. -/
theorem ToolChain.select_granted_or_refused {L : Type} [Locator L Id]
    (chain : ToolChain L) (platform : Platform) :
    (∃ provided, Id.run (chain.select platform) = .available provided) ∨
      ∃ reason, Id.run (chain.select platform) = .unavailable [reason] := by
  cases supported : chain.strategyFor? platform with
  | none =>
      rw [select_of_unsupported supported]
      exact .inr ⟨_, rfl⟩
  | some strategy =>
      have answers : Answers chain.locator (fun _ _ => pure ())
          (fun kind executable =>
            Id.run (Locator.locate chain.locator kind executable)) :=
        fun _ _ => rfl
      have selected := select_of_answers supported answers
      let tools := chain.configuredTools strategy platform
      let answer := fun kind executable =>
        Id.run (Locator.locate chain.locator kind executable)
      have run : Id.run (chain.select platform) =
          answered platform tools chain.canUseCommandFile answer := by
        rw [selected]
        rfl
      rw [run]
      cases found : tools.anyFound answer with
      | true => exact .inl ⟨_, answered_of_anyFound found ..⟩
      | false =>
          obtain ⟨reason, refused, -⟩ :=
            answered_of_not_anyFound found platform chain.canUseCommandFile
          exact .inr ⟨reason, refused⟩

/-- What the session answers to a request for a platform. -/
def Session.answer (session : Session) (machine : Machine Id) (name : String)
    (system : Option OperatingSystem) (architecture : Architecture) :
    Except ConfigProblem ToolProvider :=
  (session.select machine (session.platform name system architecture)).run

namespace Program

variable {machine : Machine Id} {host : Host} {line : CommandLine}
  {session : Session}

/-- The session that a command line asks for, or the problem with it. -/
def loaded (machine : Machine Id) (host : Host) (line : CommandLine) :
    Except SessionProblem Session :=
  (Session.load machine host line.config line.family line.directories).run

theorem runWith_of_parse (texts : UsageTexts) {words : List String}
    (parsed : CommandLine.parse (machine.variableValue configVariable).run
      words = .ok line) :
    (runWith texts machine host words).run =
      (runCommandLine machine host line).run := by
  unfold runWith
  simp only [Id.run_bind]
  rw [parsed]

theorem runCommandLine_of_error {problem : SessionProblem}
    (failed : loaded machine host line = .error problem) :
    (runCommandLine machine host line).run =
      .failure (Report.errorText problem.causes) := by
  unfold loaded at failed
  unfold runCommandLine
  simp only [Id.run_bind, failed]
  rfl

theorem runCommandLine_of_ok
    (succeeded : loaded machine host line = .ok session) :
    (runCommandLine machine host line).run =
      (runCommand machine session line.command).run := by
  unfold loaded at succeeded
  unfold runCommandLine
  simp only [Id.run_bind, succeeded]

theorem serves_of_loaded
    (succeeded : loaded machine host line = .ok session) :
    session.Serves machine :=
  (Session.load_serves machine host line.config line.family
    line.directories).of_id session succeeded

theorem run_strategies (serves : session.Serves machine) :
    ∃ listing, (runCommand machine session .strategies).run =
      .success listing := by
  obtain ⟨chain, -, -, -, listed⟩ := serves
  rw [runCommand, listed]
  exact ⟨_, rfl⟩

/-- What a session answers to a request for a platform, a run for the platform
shows. -/
theorem run_select (serves : session.Serves machine) (name : String)
    (system : Option OperatingSystem) (architecture : Architecture) :
    ∃ provider,
      session.answer machine name system architecture = .ok provider ∧
      Outcome.Shows
        (runCommand machine session (.select name system architecture)).run
        provider := by
  obtain ⟨chain, -, -, selected, -⟩ := serves
  let platform := session.platform name system architecture
  have answer : session.select machine platform =
      pure (.ok (chain.select platform).run) := selected platform
  refine ⟨(chain.select platform).run, congrArg Id.run answer, ?_⟩
  rw [runCommand, answer]
  rcases chain.select_granted_or_refused platform with
    ⟨provided, granted⟩ | ⟨reason, refused⟩
  · rw [granted]
    exact Outcome.shows_success provided
  · rw [refused]
    have shown : (ToolProvider.unavailable [reason]).display =
        "unavailable:\n" ++ reason := by
      simp [ToolProvider.display, String.join, ← String.append_assoc]
    have shows := Outcome.shows_failure reason
    rw [← shown] at shows
    exact shows

/-- A run for a command succeeds or fails.  One for the strategies fails only
for want of a configuration.  One for a platform succeeds if and only if there
is a configuration with tools for it.  It shows these, or the one reason why
there are none. -/
theorem run_settles (texts : UsageTexts) (host : Host) {words : List String}
    (parsed : CommandLine.parse (machine.variableValue configVariable).run
      words = .ok line) :
    let outcome := (runWith texts machine host words).run
    (outcome.Succeeds ∨ outcome.Fails) ∧
    ¬(outcome.Succeeds ∧ outcome.Fails) ∧
    (line.command = .strategies →
      (outcome.exitCode = 0 ↔
        ∃ session, loaded machine host line = .ok session)) ∧
    ∀ name system architecture,
      line.command = .select name system architecture →
      (outcome.exitCode = 0 ↔
        ∃ session provider, loaded machine host line = .ok session ∧
          session.answer machine name system architecture = .ok provider ∧
          provider.isAvailable = true) ∧
      ∀ session, loaded machine host line = .ok session →
        ∃ provider,
          session.answer machine name system architecture = .ok provider ∧
          (∀ provided, provider = .available provided →
            outcome.output = String.join (provided.lines.map (· ++ "\n"))) ∧
          (provider.isAvailable = false →
            ∃ reason, provider = .unavailable [reason] ∧
              outcome.complaints = "unavailable:\n" ++ reason ++ "\n") := by
  intro outcome
  have same : outcome = (runCommandLine machine host line).run :=
    runWith_of_parse texts parsed
  -- All that can go wrong once there is a session is that nothing is found.
  cases load : loaded machine host line with
  | error problem =>
      rw [runCommandLine_of_error load] at same
      have fails : outcome.Fails := same ▸ Outcome.fails_failure _
      refine ⟨.inr fails, outcome.not_succeeds_and_fails, ?_, ?_⟩
      · intro _
        simp [fails.exitCode]
      · intro name system architecture _
        simp [fails.exitCode]
  | ok session =>
      have serves := serves_of_loaded load
      rw [runCommandLine_of_ok load] at same
      cases asked : line.command with
      | strategies =>
          obtain ⟨listing, shown⟩ := run_strategies serves
          rw [asked, shown] at same
          have succeeds : outcome.Succeeds :=
            same ▸ Outcome.succeeds_success listing
          refine ⟨.inl succeeds, outcome.not_succeeds_and_fails, ?_, nofun⟩
          intro _
          simp [succeeds.exitCode]
      | select name system architecture =>
          obtain ⟨provider, answer, shows⟩ :=
            run_select serves name system architecture
          rw [asked] at same
          rw [← same] at shows
          refine ⟨shows.ends, outcome.not_succeeds_and_fails, nofun, ?_⟩
          rintro _ _ _ ⟨⟩
          constructor
          · rw [shows.exitCode]
            simp [answer]
          · rintro _ ⟨⟩
            exact ⟨provider, answer, shows.output, shows.complaints⟩

/-- One machine has the compiler that is asked for, the other has nothing. -/
theorem run_settles_for_clang :
    let equipped : Machine Id :=
      FileTree.machine ⟨[([['o', 'p', 't'], "clang".toList], "")], [], [], []⟩
    let bare : Machine Id := FileTree.machine ⟨[], [], [], []⟩
    let run := fun machine : Machine Id =>
      (runWith (.short version) machine ⟨.linux⟩ ["--family", "clang", "-p/opt",
        "select", "--arch", "x86-64", "here"]).run
    let output :=
      "platform: here (linux, x86-64)\n" ++
      "cCompiler: clang -m64\n" ++
      "cppCompiler: clang++ -m64\n" ++
      "objcCompiler: clang -m64\n" ++
      "objcppCompiler: clang++ -m64\n" ++
      "linker: clang++ -m64\n" ++
      "assembler: as --64\n" ++
      "staticLibArchiver: ar\n" ++
      "object file suffix: .o\n" ++
      "command file: true\n"
    let reason := "Could not find C compiler 'clang'. Searched in:\n  - /opt"
    run equipped = ⟨0, output, ""⟩ ∧
      run bare = ⟨1, "", "unavailable:\n" ++ reason ++ "\n"⟩ := by
  intro equipped bare run output reason
  let words := ["--family", "clang", "-p/opt", "select", "--arch", "x86-64",
    "here"]
  let line : CommandLine :=
    ⟨none, some .clang, [⟨"/opt"⟩], .select "here" none .amd64⟩
  let session : Session :=
    ⟨⟨.linux⟩, Config.empty.override (some .clang) [⟨"/opt"⟩]⟩
  have granted : run equipped = ⟨0, output, ""⟩ := by
    have parsed : CommandLine.parse
        (equipped.variableValue configVariable).run words = .ok line := rfl
    obtain ⟨ends, -, -, select⟩ :=
      run_settles (.short version) ⟨.linux⟩ parsed
    obtain ⟨settled, shown⟩ := select "here" none .amd64 rfl
    obtain ⟨provider, answer, shown, -⟩ := shown session rfl
    have given : ((session.answer equipped "here" none
        .amd64).toOption.bind ToolProvider.provided?).map PlatformTools.lines =
          some ["platform: here (linux, x86-64)", "cCompiler: clang -m64",
            "cppCompiler: clang++ -m64", "objcCompiler: clang -m64",
            "objcppCompiler: clang++ -m64", "linker: clang++ -m64",
            "assembler: as --64", "staticLibArchiver: ar",
            "object file suffix: .o", "command file: true"] := by
      decide
    rw [answer] at given
    cases provider with
    | unavailable reasons => cases given
    | available provided =>
        have exitCode := settled.mpr ⟨_, _, rfl, answer, rfl⟩
        have succeeds := ends.resolve_right fun fails =>
          absurd (exitCode.symm.trans fails.exitCode) Nat.zero_ne_one
        have lines : provided.lines = _ := Option.some.inj given
        have printed := shown provided rfl
        rw [lines] at printed
        exact Outcome.ext succeeds.exitCode (printed.trans (by simp [output]))
          succeeds.complaints
  have refused : run bare = ⟨1, "", "unavailable:\n" ++ reason ++ "\n"⟩ := by
    have parsed : CommandLine.parse
        (bare.variableValue configVariable).run words = .ok line := rfl
    obtain ⟨ends, -, -, select⟩ :=
      run_settles (.short version) ⟨.linux⟩ parsed
    obtain ⟨settled, shown⟩ := select "here" none .amd64 rfl
    obtain ⟨provider, answer, -, complaint⟩ := shown session rfl
    have given : (session.answer bare "here" none .amd64).toOption.map
        ToolProvider.reasons = some [reason] := by
      decide
    rw [answer] at given
    cases provider with
    | available provided => cases given
    | unavailable reasons =>
        cases given
        obtain ⟨_, ⟨⟩, complaints⟩ := complaint rfl
        have fails := ends.resolve_left fun succeeds => by
          obtain ⟨_, _, ⟨⟩, found, available⟩ := settled.mp succeeds.exitCode
          cases answer.symm.trans found
          cases available
        exact Outcome.ext fails.exitCode fails.output complaints
  exact ⟨granted, refused⟩

end Program

end ToolSelect
