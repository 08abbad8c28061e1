import Mathlib.Data.List.Basic
import ToolSelect.Proofs.Selection
import ToolSelect.Proofs.Validity

/-!
# The tools of a configured tool chain

Which tools a configuration gives a platform, said without strategies and
registrations.  A configured tool chain looks for these tools, and answers
with them.
-/

namespace ToolSelect

/-- The arguments of every kind of tool on a platform that is no target: none
for the architecture of the tool chain's choice, the flags of an x86
architecture, and no answer for another architecture or system. -/
def Host.nativeArguments? (host : Host) (platform : Platform) :
    Option (ToolKind → List String) :=
  if platform.operatingSystem = host.operatingSystem then
    match platform.architecture with
    | .toolChainDefault => some fun _ => []
    | .i386 => some (Strategy.wordFlags host "-m32" "--32" "i386")
    | .amd64 =>
      if host.operatingSystem = .windows then none
      else some (Strategy.wordFlags host "-m64" "--64" "x86_64")
    | .other _ => none
  else
    none

namespace Config

/-- The target for a platform: the last one in the order of the configuration
that lists its name. -/
def targetFor? (config : Config) (platform : Platform) : Option Target :=
  (config.targets.filter (platform.name ∈ ·.names)).getLast?

def executableFor (config : Config) (kind : ToolKind) : String :=
  (config.executables.valueFor? kind).getD
    (config.family.defaultExecutable kind)

/-- The tools for a platform, if the configuration knows how to build for it:
those of its target, or else the default ones with the arguments of its
architecture. -/
def toolsFor? (config : Config) (host : Host) (platform : Platform) :
    Option (ToolKind → Tool) :=
  match config.targetFor? platform with
  | some target =>
    some fun kind =>
      ⟨(target.executables.valueFor? kind).getD (config.executableFor kind),
        (target.arguments.valueFor? kind).getD []⟩
  | none =>
    (host.nativeArguments? platform).map fun arguments kind =>
      ⟨config.executableFor kind, arguments kind⟩

def searchPath {m : Type → Type} (config : Config) (machine : Machine m)
    (host : Host) : SearchPath m :=
  config.directories.foldl SearchPath.addDirectory
    (.ofMachine machine host)

end Config

/-- Looks for an executable of every kind, in order, and for the C compiler
once more if none is found. -/
def SearchPath.lookUps {m : Type → Type} [Monad m] (search : SearchPath m)
    (executable : ToolKind → String) : m (List SearchResult) := do
  let results ← ToolKind.all.mapM fun kind =>
    search.locate kind (executable kind)
  if results.any SearchResult.isFound then
    return results
  else
    return results ++ [← search.locate .cCompiler (executable .cCompiler)]

namespace Config

private theorem filterMap_history {α : Type} (config : Config)
    (part : Registration → Option α) :
    config.history.filterMap part =
      (part (.searchIn config.directories)).toList ++
        config.targets.filterMap (fun target =>
          part (.target target.names target.action)) ++
        config.executables.byKind.entries.filterMap fun entry =>
          part (.defaultExecutable entry.1 entry.2) := by
  rw [history, List.filterMap_append, List.filterMap_map, List.filterMap_cons]
  cases part (.searchIn config.directories) <;>
    simp [List.filterMap_map]

theorem filterMap_strategy?_history (config : Config) :
    config.history.filterMap Registration.strategy? =
      config.targets.map fun target =>
        Strategy.named target.names (target.action) := by
  rw [filterMap_history]
  simp [Registration.strategy?]

theorem strategies_history (config : Config) :
    config.history.strategies =
      (config.targets.map fun target =>
        Strategy.named target.names target.action).reverse ++
        Strategy.builtIns := by
  rw [History.strategies, filterMap_strategy?_history]

/-- The target of a platform decides before any built-in strategy. -/
theorem find?_strategies_history (config : Config) (host : Host)
    (platform : Platform) :
    config.history.strategies.find? (·.buildsFor platform host) =
      match config.targetFor? platform with
      | some target => some (.named target.names target.action)
      | none => Strategy.builtIns.find? (·.buildsFor platform host) := by
  have same : ((·.buildsFor platform host) ∘ fun target : Target =>
      Strategy.named target.names target.action) =
      fun target => decide (platform.name ∈ target.names) := by
    funext target
    simp [Strategy.buildsFor]
  rw [strategies_history, List.find?_append, ← List.map_reverse,
    List.find?_map, same, targetFor?, List.getLast?_filter]
  cases config.targets.reverse.find? fun target =>
    decide (platform.name ∈ target.names) <;> rfl

theorem hooks_history (config : Config) :
    config.history.hooks = [] := by
  rw [History.hooks, filterMap_history]
  simp [Registration.hook?]

theorem filterMap_commandFile?_history (config : Config) :
    config.history.filterMap Registration.commandFile? = [] := by
  rw [filterMap_history]
  simp [Registration.commandFile?]

theorem canUseCommandFile_history (config : Config) (family : Family) :
    config.history.canUseCommandFile family = family.canUseCommandFile := by
  rw [History.canUseCommandFile, filterMap_commandFile?_history]
  rfl

theorem directories_history (config : Config) :
    config.history.flatMap Registration.directories = config.directories := by
  simp [history, List.flatMap_map, Registration.directories]

theorem get_foldl_editDefaults_history (config : Config) (tools : ToolSet)
    (kind : ToolKind) :
    (config.history.foldl Registration.editDefaults tools).get kind =
      match config.executables.valueFor? kind with
      | some executable => some ⟨executable, tools.arguments kind⟩
      | none => tools.get kind := by
  have folded : config.history.foldl Registration.editDefaults tools =
      config.executables.byKind.entries.foldl
        (fun tools entry => tools.setExecutable entry.1 entry.2) tools := by
    simp [history, List.foldl_map, Registration.editDefaults,
      List.foldl_fixed]
  rw [folded, ToolSet.get_foldl_entries]
  rfl

theorem defaultTools_history (config : Config) :
    config.history.defaultTools config.family =
      ⟨.ofFunction fun kind => ⟨config.executableFor kind, []⟩⟩ := by
  refine ToolSet.ext_get fun kind => ?_
  rw [← History.foldl_editDefaults_ofFamily, get_foldl_editDefaults_history]
  change _ = some (⟨config.executableFor kind, []⟩ : Tool)
  rw [executableFor]
  cases config.executables.valueFor? kind with
  | none => rfl
  | some executable => rfl

theorem toolsFor_history (config : Config) (host : Host)
    (platform : Platform) (strategy : Strategy) :
    config.history.toolsFor config.family host strategy platform =
      strategy.made host
        ⟨.ofFunction fun kind => ⟨config.executableFor kind, []⟩⟩ := by
  rw [History.toolsFor, hooks_history, List.foldl_nil, defaultTools_history]

theorem action_ofFunction (target : Target) (executable : ToolKind → String) :
    target.action ⟨.ofFunction fun kind => ⟨executable kind, []⟩⟩ =
      ⟨.ofFunction fun kind =>
        ⟨(target.executables.valueFor? kind).getD (executable kind),
          (target.arguments.valueFor? kind).getD []⟩⟩ := by
  refine ToolSet.ext_get fun kind => ?_
  simp only [ToolSet.get, Target.action, KindMap.ofFunction, List.nil_append]
  cases target.executables.valueFor? kind <;> rfl

theorem find?_builtIns (config : Config) (host : Host) (platform : Platform) :
    match host.nativeArguments? platform with
    | none => Strategy.builtIns.find? (·.buildsFor platform host) = none
    | some arguments =>
      ∃ strategy,
        Strategy.builtIns.find? (·.buildsFor platform host) = some strategy ∧
          strategy.made host
              ⟨.ofFunction fun kind => ⟨config.executableFor kind, []⟩⟩ =
            ⟨.ofFunction fun kind =>
              ⟨config.executableFor kind, arguments kind⟩⟩ := by
  -- At most one of the built-in strategies fits, so their order plays no part.
  by_cases native : platform.operatingSystem = host.operatingSystem
  · rw [Host.nativeArguments?, if_pos native]
    cases architecture : platform.architecture with
    | toolChainDefault =>
        refine ⟨.toolChainDefault, ?_, rfl⟩
        simp [Strategy.builtIns, Strategy.buildsFor, native, architecture]
    | i386 =>
        refine ⟨.intel32, ?_, rfl⟩
        simp [Strategy.builtIns, Strategy.buildsFor, native, architecture]
    | amd64 =>
        by_cases windows : host.operatingSystem = .windows
        · simp [Strategy.builtIns, Strategy.buildsFor, native, architecture,
            windows, OperatingSystem.isWindows]
        · rw [if_neg windows]
          refine ⟨.intel64, ?_, rfl⟩
          simp [Strategy.builtIns, Strategy.buildsFor, native, architecture,
            windows, OperatingSystem.isWindows]
    | other name =>
        simp [Strategy.builtIns, Strategy.buildsFor, architecture]
  · rw [Host.nativeArguments?, if_neg native]
    simp [Strategy.builtIns, Strategy.buildsFor, native]

theorem strategy_iff_toolsFor? (config : Config) (host : Host)
    (platform : Platform) :
    match config.toolsFor? host platform with
    | none =>
      config.history.strategies.find? (·.buildsFor platform host) = none
    | some tool =>
      ∃ strategy,
        config.history.strategies.find? (·.buildsFor platform host) =
          some strategy ∧
          config.history.toolsFor config.family host strategy platform =
            ⟨.ofFunction tool⟩ := by
  rw [find?_strategies_history, toolsFor?]
  cases config.targetFor? platform with
  | some target =>
      refine ⟨_, rfl, ?_⟩
      rw [toolsFor_history]
      exact action_ofFunction target config.executableFor
  | none =>
      have builtIn := config.find?_builtIns host platform
      cases native : host.nativeArguments? platform with
      | none =>
          rw [native] at builtIn
          exact builtIn
      | some arguments =>
          rw [native] at builtIn
          obtain ⟨strategy, found, configured⟩ := builtIn
          refine ⟨strategy, found, ?_⟩
          rw [toolsFor_history]
          exact configured

end Config

end ToolSelect
