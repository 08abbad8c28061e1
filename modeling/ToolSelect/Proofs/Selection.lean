import ToolSelect.Machine.FileTree
import ToolSelect.Proofs.History
import ToolSelect.Proofs.Probing

/-!
# Selections

What a request for a platform comes to, for a tool chain with any history and
a locator whose answers are known.
-/

namespace ToolSelect

namespace ToolChain

variable {L : Type} {m : Type → Type} [Monad m] [Locator L m]

theorem select_of_unsupported {chain : ToolChain L} {platform : Platform}
    (unsupported : chain.strategyFor? platform = none) :
    chain.select platform =
      (pure (.unavailable [unsupportedReason platform]) : m _) := by
  rw [select, unsupported]

theorem select_of_strategy {chain : ToolChain L} {platform : Platform}
    {strategy : Strategy}
    (supported : chain.strategyFor? platform = some strategy) :
    chain.select platform = do
      let availability ← Availability.new.probe
        (chain.configuredTools strategy platform) chain.locator
      return if availability.isAvailable then
        .available ⟨platform, chain.configuredTools strategy platform,
          chain.canUseCommandFile⟩
      else
        .unavailable availability.reasons := by
  rw [select, supported]
  refine bind_congr fun availability => ?_
  cases availability.isAvailable <;> rfl

variable [LawfulMonad m]

/-- The answer to a request, given the tools for it and the answers of the
locator. -/
def answered (platform : Platform) (tools : ToolSet) (commandFile : Bool)
    (answer : ToolKind → String → SearchResult) : ToolProvider :=
  let availability := Availability.new.judged tools answer
  if availability.isAvailable then
    .available ⟨platform, tools, commandFile⟩
  else
    .unavailable availability.reasons

theorem select_of_answers {chain : ToolChain L} {platform : Platform}
    {strategy : Strategy}
    (supported : chain.strategyFor? platform = some strategy)
    {call : ToolKind → String → m Unit}
    {answer : ToolKind → String → SearchResult}
    (answers : Answers chain.locator call answer) :
    chain.select platform = do
      Availability.questions (chain.configuredTools strategy platform) call
        answer
      return answered platform (chain.configuredTools strategy platform)
        chain.canUseCommandFile answer := by
  rw [select_of_strategy supported,
    Availability.probe_of_answers answers]
  simp only [bind_assoc, pure_bind]
  rfl

theorem answered_of_anyFound {tools : ToolSet}
    {answer : ToolKind → String → SearchResult}
    (found : tools.anyFound answer = true) (platform : Platform)
    (commandFile : Bool) :
    answered platform tools commandFile answer =
      .available ⟨platform, tools, commandFile⟩ := by
  rw [answered, Availability.judged, if_pos found]
  rfl

theorem answered_of_not_anyFound {tools : ToolSet}
    {answer : ToolKind → String → SearchResult}
    (missing : tools.anyFound answer = false) (platform : Platform)
    (commandFile : Bool) :
    ∃ reason,
      answered platform tools commandFile answer = .unavailable [reason] ∧
        match tools.get .cCompiler with
        | some tool => answer .cCompiler tool.executable = .notFound reason
        | none => reason = Availability.unconfiguredReason := by
  obtain ⟨reason, judged, blamed⟩ :=
    Availability.judged_of_not_anyFound missing .new
  refine ⟨reason, ?_, blamed⟩
  rw [answered, judged]
  rfl

/-- A request is refused without a question if no strategy builds for the
platform.  Otherwise it is granted if and only if some tool is found among
those that the first such strategy and the hooks configure, and it is refused
for one reason, the want of a C compiler. -/
theorem select_ofHistory (name : String) (family : Family) (host : Host)
    (locator : L) (history : History) (platform : Platform) :
    ((∀ strategy ∈ history.strategies,
        strategy.buildsFor platform host = false) →
      (ofHistory name family host locator history).select platform =
        (pure (.unavailable ["Don't know how to build for platform '" ++
          platform.name ++ "'."]) : m _)) ∧
    ∀ strategy,
      history.strategies.find? (·.buildsFor platform host) = some strategy →
      ∀ (call : ToolKind → String → m Unit)
        (answer : ToolKind → String → SearchResult),
        Answers (ofHistory name family host locator history).locator call
          answer →
        let tools := history.toolsFor family host strategy platform
        ∃ (effects : m Unit) (provider : ToolProvider),
          (ofHistory name family host locator history).select platform =
            (do effects; return provider) ∧
          (provider.isAvailable = true ↔
            ∃ kind tool, tools.get kind = some tool ∧
              (answer kind tool.executable).isFound = true) ∧
          (provider.isAvailable = true →
            ∃ provided, provider = .available provided ∧
              provided.platform = platform ∧ provided.tools = tools ∧
              provided.objectFileSuffix =
                (if platform.operatingSystem = .windows then ".obj"
                  else ".o") ∧
              provided.supportsCommandFile =
                history.canUseCommandFile family) ∧
          (provider.isAvailable = false →
            ∃ reason, provider = .unavailable [reason] ∧
              match tools.get .cCompiler with
              | some tool =>
                answer .cCompiler tool.executable = .notFound reason
              | none =>
                reason = "No C compiler is configured for this tool chain.") := by
  constructor
  · intro unsupported
    have none : (ofHistory name family host locator history).strategyFor?
        platform = none := by
      rw [strategyFor?_ofHistory, List.find?_eq_none]
      intro strategy member
      rw [unsupported strategy member]
      exact Bool.false_ne_true
    exact select_of_unsupported none
  · intro strategy first call answer answers tools
    have supported : (ofHistory name family host locator history).strategyFor?
        platform = some strategy := by
      rw [strategyFor?_ofHistory, first]
    have selected := select_of_answers supported answers
    rw [configuredTools_ofHistory, canUseCommandFile_ofHistory] at selected
    refine ⟨_, _, selected, ?_⟩
    rw [← tools.anyFound_eq_true_iff]
    cases any : tools.anyFound answer with
    | true =>
        rw [answered_of_anyFound any]
        refine ⟨by simp [ToolProvider.isAvailable], ?_, ?_⟩
        · intro _
          refine ⟨_, rfl, rfl, rfl, ?_, rfl⟩
          simp [PlatformTools.objectFileSuffix, OperatingSystem.isWindows]
        · intro unavailable
          cases unavailable
    | false =>
        obtain ⟨reason, refused, blamed⟩ :=
          answered_of_not_anyFound any platform
            (history.canUseCommandFile family)
        rw [refused]
        refine ⟨by simp [ToolProvider.isAvailable], ?_, ?_⟩
        · intro available
          cases available
        · intro _
          exact ⟨reason, rfl, blamed⟩

/-- The target has a compiler of its own that is not there, but other tools are.
A hook that takes all tools away leaves the same machine without a compiler. -/
theorem select_ofHistory_granted_and_emptied :
    let machine : Machine Id :=
      FileTree.machine ⟨[([['b', 'i', 'n'], ['g', 'c', 'c']], "")], [],
        [("PATH", "/bin")], []⟩
    let history : History :=
      [.target ["pi"] (·.setExecutable .cCompiler "pcc"),
        .eachPlatform fun platform tools =>
          tools.editArguments .linker (· ++ ["-l" ++ platform.name]),
        .commandFile false,
        .defaultExecutable .linker "gold"]
    let select := fun history platform =>
      ((ofHistory "native" .gcc ⟨.linux⟩ (SearchPath.ofMachine machine ⟨.linux⟩)
        history).select platform : Id ToolProvider)
    let pi : ToolKind → Tool
      | .cCompiler => ⟨"pcc", []⟩
      | .objcCompiler => ⟨"gcc", []⟩
      | .linker => ⟨"gold", ["-lpi"]⟩
      | .assembler => ⟨"as", []⟩
      | .staticLibArchiver => ⟨"ar", []⟩
      | _ => ⟨"g++", []⟩
    let wide : ToolKind → Tool
      | .cCompiler | .objcCompiler => ⟨"gcc", ["-m64"]⟩
      | .linker => ⟨"gold", ["-m64", "-lhere"]⟩
      | .assembler => ⟨"as", ["--64"]⟩
      | .staticLibArchiver => ⟨"ar", []⟩
      | _ => ⟨"g++", ["-m64"]⟩
    select history ⟨"pi", .windows, .amd64⟩ =
        pure (.available
          ⟨⟨"pi", .windows, .amd64⟩, ⟨.ofFunction pi⟩, false⟩) ∧
      select history ⟨"here", .linux, .amd64⟩ =
        pure (.available
          ⟨⟨"here", .linux, .amd64⟩, ⟨.ofFunction wide⟩, false⟩) ∧
      select (history ++ [.eachPlatform fun _ _ => .empty])
          ⟨"here", .linux, .amd64⟩ =
        pure (.unavailable
          ["No C compiler is configured for this tool chain."]) := by
  intro machine history select pi wide
  let locator := SearchPath.ofMachine machine ⟨.linux⟩
  have settled := fun history strategy platform first answers =>
    (select_ofHistory "native" .gcc ⟨.linux⟩ locator history platform).2
      strategy first (fun _ _ => pure ()) (Locator.locate locator) answers
  have granted : ∀ {platform strategy tool},
      history.strategies.find? (·.buildsFor platform ⟨.linux⟩) =
        some strategy →
      history.toolsFor .gcc ⟨.linux⟩ strategy platform = ⟨.ofFunction tool⟩ →
      (tool .objcCompiler).executable = "gcc" →
      select history platform =
        pure (.available ⟨platform, ⟨.ofFunction tool⟩, false⟩) := by
    intro platform strategy tool first configured compiler
    obtain ⟨effects, provider, selected, available, shown, -⟩ :=
      settled history strategy platform first fun _ _ => rfl
    have found : provider.isAvailable = true :=
      available.mpr ⟨.objcCompiler, tool .objcCompiler, by rw [configured]; rfl,
        by rw [compiler]; decide⟩
    obtain ⟨provided, given, same, tools, -, commandFile⟩ := shown found
    have whole : provided = ⟨platform, ⟨.ofFunction tool⟩, false⟩ :=
      calc
        provided = ⟨provided.platform, provided.tools,
            provided.supportsCommandFile⟩ := rfl
        _ = _ := by rw [same, tools, configured, commandFile]; rfl
    rw [given, whole] at selected
    exact selected
  refine ⟨granted rfl ?_ rfl, granted rfl ?_ rfl, ?_⟩
  · exact ToolSet.ext_get fun kind => by cases kind <;> rfl
  · exact ToolSet.ext_get fun kind => by cases kind <;> rfl
  · let platform : Platform := ⟨"here", .linux, .amd64⟩
    let emptied := history ++ [.eachPlatform fun _ _ => .empty]
    have tools : emptied.toolsFor .gcc ⟨.linux⟩ .intel64 platform = .empty := rfl
    obtain ⟨effects, provider, selected, available, -, refused⟩ :=
      settled emptied .intel64 platform rfl fun _ _ => rfl
    rw [tools] at available refused
    have missing : provider.isAvailable = false := by
      rw [Bool.eq_false_iff, ne_eq, available]
      rintro ⟨kind, tool, present, -⟩
      cases present
    obtain ⟨reason, given, blamed⟩ := refused missing
    rw [given, show reason = _ from blamed] at selected
    exact selected

end ToolChain

end ToolSelect
