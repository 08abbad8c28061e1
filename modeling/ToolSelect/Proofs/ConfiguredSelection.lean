import ToolSelect.Proofs.ConfigText
import ToolSelect.Proofs.ConfiguredTools

/-!
# Selections of a configured tool chain

A configured tool chain answers every request as its configuration says, on
every machine.
-/

namespace ToolSelect

variable {m : Type → Type} [Monad m]

theorem ToolSet.entries_ofFunction (tool : ToolKind → Tool) :
    (⟨.ofFunction tool⟩ : ToolSet).entries =
      ToolKind.all.map fun kind => (kind, tool kind) := by
  simp [entries, KindMap.entries_eq, KindMap.ofFunction]

namespace Config

def toolChain (config : Config) (machine : Machine m) (host : Host) :
    ToolChain (SearchPath m) :=
  .ofHistory config.toolChainName config.family host (.ofMachine machine host)
    config.history

theorem build_of_valid {config : Config} (valid : config.validate = .ok ())
    (machine : Machine m) (host : Host) :
    config.build machine host = .ok (config.toolChain machine host) := by
  have registered := registrations_of_valid valid host
  rw [build, apply]
  simp only [ToolChain.onMachine, ToolChain.new, registered]
  rfl

theorem locator_toolChain (config : Config) (machine : Machine m)
    (host : Host) :
    (config.toolChain machine host).locator =
      config.searchPath machine host := by
  rw [toolChain, ToolChain.locator_ofHistory, directories_history]
  rfl

theorem strategyFor?_toolChain (config : Config) (machine : Machine m)
    (host : Host) (platform : Platform) :
    match config.toolsFor? host platform with
    | none => (config.toolChain machine host).strategyFor? platform = none
    | some tool =>
      ∃ strategy,
        (config.toolChain machine host).strategyFor? platform =
          some strategy ∧
          (config.toolChain machine host).configuredTools strategy platform =
            ⟨.ofFunction tool⟩ := by
  have decided := config.strategy_iff_toolsFor? host platform
  simp only [toolChain, ToolChain.strategyFor?_ofHistory,
    ToolChain.configuredTools_ofHistory]
  exact decided

end Config

variable [LawfulMonad m]

namespace ToolChain

/-- With a tool of every kind, a request is granted if any of them is found,
and else refused for want of the C compiler. -/
theorem select_of_ofFunction {chain : ToolChain (SearchPath m)}
    {platform : Platform} {strategy : Strategy} {tool : ToolKind → Tool}
    (supported : chain.strategyFor? platform = some strategy)
    (configured : chain.configuredTools strategy platform =
      ⟨.ofFunction tool⟩) :
    chain.select platform = do
      let results ← chain.locator.lookUps fun kind => (tool kind).executable
      if results.any SearchResult.isFound then
        return .available ⟨platform, ⟨.ofFunction tool⟩,
          chain.canUseCommandFile⟩
      else
        return .unavailable
          (results.getLast?.bind SearchResult.reason?).toList := by
  rw [select_of_strategy supported, configured, Availability.probe,
    ToolSet.entries_ofFunction, SearchPath.lookUps, List.mapM_map]
  simp only [bind_assoc]
  refine bind_congr fun results => ?_
  cases found : results.any SearchResult.isFound with
  | true =>
      simp only [if_true, pure_bind, found]
      rfl
  | false =>
      have compiler : (⟨.ofFunction tool⟩ : ToolSet).get .cCompiler =
          some (tool .cCompiler) := rfl
      simp only [compiler, Bool.false_eq_true, if_false, bind_assoc,
        pure_bind]
      -- The compiler may be found when it is looked up again.
      refine bind_congr fun result => ?_
      cases result with
      | found path =>
          simp [Availability.mustBeFound, Availability.new,
            Availability.isAvailable, SearchResult.reason?,
            SearchResult.isFound]
      | notFound reason =>
          simp [found, Availability.mustBeFound, Availability.new,
            Availability.unavailable, Availability.isAvailable,
            SearchResult.reason?, SearchResult.isFound]

end ToolChain

namespace Config

theorem select_toolChain (config : Config) (machine : Machine m) (host : Host)
    (platform : Platform) :
    (config.toolChain machine host).select platform =
      match config.toolsFor? host platform with
      | none =>
        return .unavailable ["Don't know how to build for platform '" ++
          platform.name ++ "'."]
      | some tool => do
        let results ← (config.searchPath machine host).lookUps fun kind =>
          (tool kind).executable
        if results.any SearchResult.isFound then
          return .available ⟨platform, ⟨.ofFunction tool⟩, true⟩
        else
          return .unavailable
            (results.getLast?.bind SearchResult.reason?).toList := by
  have decided := config.strategyFor?_toolChain machine host platform
  cases tools : config.toolsFor? host platform with
  | none =>
      rw [tools] at decided
      exact ToolChain.select_of_unsupported decided
  | some tool =>
      rw [tools] at decided
      obtain ⟨strategy, found, configured⟩ := decided
      have commandFile : (config.toolChain machine host).canUseCommandFile =
          true := by
        rw [toolChain, ToolChain.canUseCommandFile_ofHistory,
          canUseCommandFile_history]
        cases config.family <;> rfl
      rw [ToolChain.select_of_ofFunction found configured, locator_toolChain,
        commandFile]

/-- A configuration that is read can be built on every machine, and then
answers every request by its tools for the platform: it refuses the platforms
that have none, grants the request if any of the tools is found, and refuses
it for want of the C compiler otherwise. -/
theorem select_build {text : String} {config : Config}
    (accepted : parse text = .ok config) (machine : Machine m) (host : Host) :
    ∃ chain, config.build machine host = .ok chain ∧ ∀ platform,
      chain.select platform =
        match config.toolsFor? host platform with
        | none =>
          return .unavailable ["Don't know how to build for platform '" ++
            platform.name ++ "'."]
        | some tool => do
          let results ← (config.searchPath machine host).lookUps fun kind =>
            (tool kind).executable
          if results.any SearchResult.isFound then
            return .available ⟨platform, ⟨.ofFunction tool⟩, true⟩
          else
            return .unavailable
              (results.getLast?.bind SearchResult.reason?).toList := by
  refine ⟨_, build_of_valid (valid_of_parse accepted) machine host, ?_⟩
  intro platform
  exact config.select_toolChain machine host platform

/-- The second of two targets for a platform decides alone, its tools are those
of the configuration where it says nothing, and it takes no flags for its
architecture.  The platforms of the host take them. -/
theorem select_build_overlapping :
    let config : Config :=
      ⟨"", .clang, [⟨"/opt"⟩], .ofList [("CCOMPILER", "cc")],
        [⟨["pi"], .ofList [("linker", ["-s"])], .empty⟩,
          ⟨["tv", "pi"], .ofList [("ccompiler", ["-a", "-b"])],
            .ofList [("assembler", "pias")]⟩,
          ⟨["tv"], .empty, .empty⟩]⟩
    let machine : Machine Id := FileTree.machine
      ⟨[([['o', 'p', 't'], ['p', 'i', 'a', 's']], ""),
        ([['o', 'p', 't'], ['a', 'r']], "")], [], [], []⟩
    let answers := fun host platform provider =>
      ∃ chain, config.build machine host = .ok chain ∧
        chain.select platform = (pure provider : Id ToolProvider)
    let pi : ToolKind → Tool
      | .cCompiler => ⟨"cc", ["-a", "-b"]⟩
      | .objcCompiler => ⟨"clang", []⟩
      | .assembler => ⟨"pias", []⟩
      | .staticLibArchiver => ⟨"ar", []⟩
      | _ => ⟨"clang++", []⟩
    let wide : ToolKind → Tool
      | .cCompiler => ⟨"cc", ["-m64"]⟩
      | .objcCompiler => ⟨"clang", ["-m64"]⟩
      | .assembler => ⟨"as", ["--64"]⟩
      | .staticLibArchiver => ⟨"ar", []⟩
      | _ => ⟨"clang++", ["-m64"]⟩
    let narrow : ToolKind → Tool
      | .cCompiler => ⟨"cc", ["-m32"]⟩
      | .objcCompiler => ⟨"clang", ["-m32"]⟩
      | .assembler => ⟨"as", ["-arch", "i386"]⟩
      | .staticLibArchiver => ⟨"ar", []⟩
      | _ => ⟨"clang++", ["-m32"]⟩
    parse config.toJson.render = .ok config ∧
      answers ⟨.linux⟩ ⟨"pi", .linux, .i386⟩
        (.available ⟨⟨"pi", .linux, .i386⟩, ⟨.ofFunction pi⟩, true⟩) ∧
      answers ⟨.linux⟩ ⟨"here", .linux, .amd64⟩
        (.available ⟨⟨"here", .linux, .amd64⟩, ⟨.ofFunction wide⟩, true⟩) ∧
      answers ⟨.macOs⟩ ⟨"here", .macOs, .i386⟩
        (.available ⟨⟨"here", .macOs, .i386⟩, ⟨.ofFunction narrow⟩, true⟩) ∧
      answers ⟨.windows⟩ ⟨"here", .windows, .amd64⟩
        (.unavailable ["Don't know how to build for platform 'here'."]) := by
  intro config machine answers pi wide narrow
  have accepted : parse config.toJson.render = .ok config := by
    rw [parse_written, show config.validate = .ok () by decide]
    rfl
  have granted : ∀ {host platform tool},
      config.toolsFor? host platform = some tool →
      ((config.searchPath machine host).lookUps fun kind =>
        (tool kind).executable).any SearchResult.isFound = true →
      answers host platform
        (.available ⟨platform, ⟨.ofFunction tool⟩, true⟩) := by
    intro host platform tool configured found
    obtain ⟨chain, built, selected⟩ := select_build accepted machine host
    refine ⟨chain, built, ?_⟩
    rw [selected, configured]
    exact if_pos found
  refine ⟨accepted, granted ?_ (by decide), granted ?_ (by decide),
    granted ?_ (by decide), ?_⟩
  · exact congrArg some (funext fun kind => by cases kind <;> rfl)
  · exact congrArg some (funext fun kind => by cases kind <;> rfl)
  · exact congrArg some (funext fun kind => by cases kind <;> rfl)
  · obtain ⟨chain, built, selected⟩ := select_build accepted machine ⟨.windows⟩
    exact ⟨chain, built, selected _⟩

end Config

end ToolSelect
