import ToolSelect.Proofs.StrategyTools
import ToolSelect.Selection.ToolChain

/-!
# Tool chains after a history of registrations

A registration adds to one part of a tool chain and leaves all others alone.
The parts of a tool chain after a whole history are therefore collected from
it one by one.
-/

namespace ToolSelect

namespace Registration

def directories : Registration → List Path
  | .searchIn directories => directories
  | _ => []

def strategy? : Registration → Option Strategy
  | .target names action => some (.named names action)
  | _ => none

def hook? : Registration → Option (Platform → ToolSet → ToolSet)
  | .eachPlatform hook => some hook
  | _ => none

def commandFile? : Registration → Option Bool
  | .commandFile enabled => some enabled
  | _ => none

def executableFor? (kind : ToolKind) : Registration → Option String
  | .defaultExecutable other executable =>
    if other = kind then some executable else none
  | _ => none

def editDefaults (tools : ToolSet) : Registration → ToolSet
  | .defaultExecutable kind executable => tools.setExecutable kind executable
  | _ => tools

end Registration

/-- Registrations, the earliest first. -/
abbrev History := List Registration

namespace History

def strategies (history : History) : List Strategy :=
  (history.filterMap Registration.strategy?).reverse ++ Strategy.builtIns

/-- The tools that every selection starts from: for each kind the executable
that was last registered for it, or else that of the family, and no
arguments. -/
def defaultTools (history : History) (family : Family) : ToolSet :=
  ⟨.ofFunction fun kind =>
    ⟨(history.filterMap (Registration.executableFor? kind)).getLast?.getD
      (family.defaultExecutable kind), []⟩⟩

def hooks (history : History) : List (Platform → ToolSet → ToolSet) :=
  history.filterMap Registration.hook?

/-- Whether command files can be used: the last word on it counts, and before
any the family decides. -/
def canUseCommandFile (history : History) (family : Family) : Bool :=
  (history.filterMap Registration.commandFile?).getLast?.getD
    family.canUseCommandFile

/-- The tools for a platform: the default tools after the strategy and then
after every hook. -/
def toolsFor (history : History) (family : Family) (host : Host)
    (strategy : Strategy) (platform : Platform) : ToolSet :=
  history.hooks.foldl (fun tools hook => hook platform tools)
    (strategy.made host (history.defaultTools family))

private theorem get_editDefaults (tools : ToolSet)
    (registration : Registration) (kind : ToolKind) :
    (registration.editDefaults tools).get kind =
      match registration.executableFor? kind with
      | some executable => some ⟨executable, tools.arguments kind⟩
      | none => tools.get kind := by
  cases registration with
  | defaultExecutable other executable =>
      by_cases same : kind = other
      · subst same
        simp [Registration.editDefaults, Registration.executableFor?]
      · simp [Registration.editDefaults, Registration.executableFor?, same,
          Ne.symm same]
  | _ => rfl

private theorem arguments_editDefaults (tools : ToolSet)
    (registration : Registration) (kind : ToolKind) :
    (registration.editDefaults tools).arguments kind =
      tools.arguments kind := by
  rw [ToolSet.arguments, get_editDefaults]
  cases registration.executableFor? kind <;> rfl

/-- The last default executable of a kind counts, and the tools that the
registrations find keep their arguments. -/
theorem get_foldl_editDefaults (tools : ToolSet) (history : History)
    (kind : ToolKind) :
    (history.foldl Registration.editDefaults tools).get kind =
      match (history.filterMap
        (Registration.executableFor? kind)).getLast? with
      | some executable => some ⟨executable, tools.arguments kind⟩
      | none => tools.get kind := by
  induction history generalizing tools with
  | nil => rfl
  | cons registration history induction =>
      rw [List.foldl_cons, induction, arguments_editDefaults,
        get_editDefaults, List.filterMap_cons]
      cases registration.executableFor? kind with
      | none => rfl
      | some executable =>
          dsimp only
          rw [List.getLast?_cons]
          cases (history.filterMap
            (Registration.executableFor? kind)).getLast? <;> rfl

theorem get_defaultTools (history : History) (family : Family)
    (kind : ToolKind) :
    (history.defaultTools family).get kind =
      some ⟨(history.filterMap
        (Registration.executableFor? kind)).getLast?.getD
          (family.defaultExecutable kind), []⟩ :=
  rfl

theorem foldl_editDefaults_ofFamily (history : History) (family : Family) :
    history.foldl Registration.editDefaults (.ofFamily family) =
      history.defaultTools family := by
  refine ToolSet.ext_get fun kind => ?_
  rw [get_foldl_editDefaults, get_defaultTools]
  cases (history.filterMap (Registration.executableFor? kind)).getLast? <;>
    rfl

end History

namespace ToolChain

variable {L : Type} {m : Type → Type} [Locator L m]

theorem register_eq (chain : ToolChain L) (registration : Registration) :
    chain.register registration =
      { chain with
        locator :=
          registration.directories.foldl Locator.addDirectory chain.locator
        registry :=
          ⟨registration.strategy?.toList ++ chain.registry.strategies⟩
        defaultTools := registration.editDefaults chain.defaultTools
        hooks := chain.hooks ++ registration.hook?.toList
        canUseCommandFile :=
          registration.commandFile?.getD chain.canUseCommandFile } := by
  cases registration <;>
    simp [register, searchIn, addTarget, setDefaultExecutable, addHook,
      Registry.register, Registration.directories, Registration.strategy?,
      Registration.editDefaults, Registration.hook?,
      Registration.commandFile?]

theorem foldl_register (chain : ToolChain L) (history : History) :
    history.foldl register chain =
      { chain with
        locator :=
          (history.flatMap Registration.directories).foldl
            Locator.addDirectory chain.locator
        registry :=
          ⟨(history.filterMap Registration.strategy?).reverse ++
            chain.registry.strategies⟩
        defaultTools :=
          history.foldl Registration.editDefaults chain.defaultTools
        hooks := chain.hooks ++ history.hooks
        canUseCommandFile :=
          (history.filterMap Registration.commandFile?).getLast?.getD
            chain.canUseCommandFile } := by
  -- The start is any tool chain, since every registration leads to another.
  induction history generalizing chain with
  | nil => simp [History.hooks]
  | cons registration history induction =>
      rw [List.foldl_cons, induction, register_eq]
      cases strategy : registration.strategy? <;>
        cases hook : registration.hook? <;>
          cases enabled : registration.commandFile? <;>
            simp [History.hooks, strategy, hook, enabled, List.getLast?_cons]

/-- A tool chain whose registrations were made one after the other. -/
def ofHistory (name : String) (family : Family) (host : Host) (locator : L)
    (history : History) : ToolChain L :=
  history.foldl register (new name family host locator)

section OfHistory

variable (name : String) (family : Family) (host : Host) (locator : L)
  (history : History)

@[simp]
theorem host_ofHistory :
    (ofHistory name family host locator history).host = host := by
  rw [ofHistory, foldl_register]
  rfl

@[simp]
theorem strategies_ofHistory :
    (ofHistory name family host locator history).strategies =
      history.strategies := by
  rw [ofHistory, foldl_register]
  rfl

theorem hooks_ofHistory :
    (ofHistory name family host locator history).hooks = history.hooks := by
  rw [ofHistory, foldl_register]
  rfl

@[simp]
theorem canUseCommandFile_ofHistory :
    (ofHistory name family host locator history).canUseCommandFile =
      history.canUseCommandFile family := by
  rw [ofHistory, foldl_register]
  rfl

@[simp]
theorem defaultTools_ofHistory :
    (ofHistory name family host locator history).defaultTools =
      history.defaultTools family := by
  rw [ofHistory, foldl_register]
  exact history.foldl_editDefaults_ofFamily family

theorem locator_ofHistory :
    (ofHistory name family host locator history).locator =
      (history.flatMap Registration.directories).foldl Locator.addDirectory
        locator := by
  rw [ofHistory, foldl_register]
  rfl

/-- Tool chains with one history differ in their locators at most. -/
theorem ofHistory_withLocator (other : L) :
    { ofHistory name family host locator history with
      locator := (ofHistory name family host other history).locator } =
        ofHistory name family host other history := by
  rw [ofHistory, ofHistory, foldl_register, foldl_register]
  rfl

theorem strategyFor?_ofHistory (platform : Platform) :
    (ofHistory name family host locator history).strategyFor? platform =
      history.strategies.find? (·.buildsFor platform host) := by
  have listed := strategies_ofHistory name family host locator history
  rw [strategies] at listed
  rw [strategyFor?, Registry.find?, listed, host_ofHistory]

theorem configuredTools_ofHistory (strategy : Strategy)
    (platform : Platform) :
    (ofHistory name family host locator history).configuredTools strategy
        platform =
      history.toolsFor family host strategy platform := by
  have defaults := defaultTools_ofHistory name family host locator history
  have hosts := host_ofHistory name family host locator history
  have hooks := hooks_ofHistory name family host locator history
  rw [configuredTools, defaults, hosts, hooks, Strategy.configure_eq_made]
  rfl

end OfHistory

end ToolChain

end ToolSelect
