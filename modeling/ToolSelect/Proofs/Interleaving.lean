import ToolSelect.Proofs.Selection

/-!
# Interleaved registrations

Registrations of different sorts change different parts of a tool chain, and
default executables of different kinds different tools.  How the sorts are
interleaved in a history therefore leaves no trace in the tool chain.
-/

namespace ToolSelect

/-- The sorts of registrations.  Default executables are told apart by their
kinds of tools. -/
inductive RegistrationSort where
  | directories
  | target
  | defaultExecutable (kind : ToolKind)
  | hook
  | commandFile
deriving DecidableEq

namespace Registration

def sort : Registration → RegistrationSort
  | .searchIn _ => .directories
  | .target _ _ => .target
  | .defaultExecutable kind _ => .defaultExecutable kind
  | .eachPlatform _ => .hook
  | .commandFile _ => .commandFile

end Registration

namespace History

/-- The registrations of one sort, in their order. -/
def ofSort (history : History) (sort : RegistrationSort) : History :=
  history.filter (·.sort = sort)

/-- The histories differ at most in how the sorts are interleaved. -/
def SameBySort (left right : History) : Prop :=
  ∀ sort, left.ofSort sort = right.ofSort sort

private theorem filterMap_ofSort {α : Type} {part : Registration → Option α}
    {sort : RegistrationSort}
    (only : ∀ registration, registration.sort ≠ sort →
      part registration = none) (history : History) :
    (history.ofSort sort).filterMap part = history.filterMap part := by
  rw [ofSort, List.filterMap_filter]
  refine congrArg (List.filterMap · history) (funext fun registration => ?_)
  by_cases same : registration.sort = sort
  · simp [same]
  · simp [same, only registration same]

private theorem directories_ofSort (history : History) :
    (history.ofSort .directories).flatMap Registration.directories =
      history.flatMap Registration.directories := by
  induction history with
  | nil => rfl
  | cons registration history induction =>
      rw [List.flatMap_cons, ← induction]
      cases registration <;> rfl

theorem directories_of_same {left right : History}
    (same : left.SameBySort right) :
    left.flatMap Registration.directories =
      right.flatMap Registration.directories := by
  rw [← directories_ofSort left, same, directories_ofSort]

private theorem filterMap_of_same {α : Type} {left right : History}
    (same : left.SameBySort right) {part : Registration → Option α}
    (sort : RegistrationSort)
    (only : ∀ registration, registration.sort ≠ sort →
      part registration = none) :
    left.filterMap part = right.filterMap part := by
  rw [← filterMap_ofSort only left, same, filterMap_ofSort only]

theorem strategies_of_same {left right : History}
    (same : left.SameBySort right) :
    left.filterMap Registration.strategy? =
      right.filterMap Registration.strategy? := by
  apply filterMap_of_same same .target
  intro registration other
  cases registration with
  | target names action => exact absurd rfl other
  | _ => rfl

theorem hooks_of_same {left right : History}
    (same : left.SameBySort right) : left.hooks = right.hooks := by
  apply filterMap_of_same same .hook
  intro registration other
  cases registration with
  | eachPlatform hook => exact absurd rfl other
  | _ => rfl

theorem commandFiles_of_same {left right : History}
    (same : left.SameBySort right) :
    left.filterMap Registration.commandFile? =
      right.filterMap Registration.commandFile? := by
  apply filterMap_of_same same .commandFile
  intro registration other
  cases registration with
  | commandFile enabled => exact absurd rfl other
  | _ => rfl

theorem executables_of_same {left right : History}
    (same : left.SameBySort right) (kind : ToolKind) :
    left.filterMap (Registration.executableFor? kind) =
      right.filterMap (Registration.executableFor? kind) := by
  apply filterMap_of_same same (.defaultExecutable kind)
  intro registration other
  cases registration with
  | defaultExecutable otherKind executable =>
      have different : otherKind ≠ kind := by
        rintro rfl
        exact other rfl
      exact if_neg different
  | _ => rfl

theorem defaultTools_of_same {left right : History}
    (same : left.SameBySort right) (family : Family) :
    left.defaultTools family = right.defaultTools family := by
  refine ToolSet.ext_get fun kind => ?_
  rw [get_defaultTools, get_defaultTools, executables_of_same same]

theorem get_defaultTools_of_last {before after : History} {kind : ToolKind}
    {executable : String} {family : Family}
    (last : ∀ other, .defaultExecutable kind other ∉ after) :
    ((before ++ .defaultExecutable kind executable :: after).defaultTools
      family).get kind = some ⟨executable, []⟩ := by
  have none : after.filterMap (Registration.executableFor? kind) = [] := by
    refine List.filterMap_eq_nil_iff.mpr fun registration member => ?_
    cases registration with
    | defaultExecutable other executable =>
        have different : other ≠ kind := by
          rintro rfl
          exact last executable member
        exact if_neg different
    | _ => rfl
  have own : (Registration.defaultExecutable kind executable).executableFor?
      kind = some executable := if_pos rfl
  rw [get_defaultTools, List.filterMap_append, List.filterMap_cons, own, none]
  simp

end History

namespace ToolSet

/-- The edit leaves the executable of the kind as it is. -/
def KeepsExecutable (kind : ToolKind) (edit : ToolSet → ToolSet) : Prop :=
  ∀ tools, ((edit tools).get kind).map Tool.executable =
    (tools.get kind).map Tool.executable

/-- The edit gives the kind this executable, whatever it was before. -/
def PutsExecutable (kind : ToolKind) (executable : String)
    (edit : ToolSet → ToolSet) : Prop :=
  ∀ tools, ((edit tools).get kind).map Tool.executable = some executable

private theorem executable_foldl_hooks {kind : ToolKind} {platform : Platform}
    {hooks : List (Platform → ToolSet → ToolSet)}
    (keep : ∀ hook ∈ hooks, KeepsExecutable kind (hook platform))
    (tools : ToolSet) :
    ((hooks.foldl (fun tools hook => hook platform tools) tools).get kind).map
        Tool.executable =
      (tools.get kind).map Tool.executable := by
  induction hooks generalizing tools with
  | nil => rfl
  | cons hook hooks induction =>
      obtain ⟨first, rest⟩ := List.forall_mem_cons.mp keep
      rw [List.foldl_cons, induction rest, first]

end ToolSet

namespace ToolChain

variable {L : Type} {m : Type → Type} [Locator L m]

theorem ofHistory_of_same (name : String) (family : Family) (host : Host)
    (locator : L) {left right : History} (same : left.SameBySort right) :
    ofHistory name family host locator left =
      ofHistory name family host locator right := by
  rw [ofHistory, ofHistory, foldl_register, foldl_register,
    History.directories_of_same same, History.strategies_of_same same,
    History.hooks_of_same same, History.commandFiles_of_same same]
  simp only [new, History.foldl_editDefaults_ofFamily,
    History.defaultTools_of_same same family]

variable [Monad m]

/-- Histories that differ only in how the sorts of registrations are
interleaved make tool chains that search, list and answer alike.  The last
default executable of a kind reaches a target even if it comes after it: the
target's tools have it unless the target puts one of its own there. -/
theorem agree_of_sameBySort (name : String) (family : Family) (host : Host)
    (locator : L) :
    (∀ left right : History, left.SameBySort right →
      let chain := ofHistory name family host locator
      (chain left).directories = (chain right).directories ∧
      (chain left).strategies = (chain right).strategies ∧
      ∀ platform,
        (chain left).select platform =
          ((chain right).select platform : m ToolProvider)) ∧
    ∀ (before after : History) (kind : ToolKind) (executable : String),
      (∀ other, .defaultExecutable kind other ∉ after) →
      let chain := ofHistory name family host locator
        (before ++ .defaultExecutable kind executable :: after)
      ∀ (platform : Platform) (names : List String)
        (action : ToolSet → ToolSet),
        chain.strategyFor? platform = some (.named names action) →
        let tools := chain.configuredTools (.named names action) platform
        chain.select platform = (do
          let availability ← Availability.new.probe tools chain.locator
          return if availability.isAvailable then
            .available ⟨platform, tools, chain.canUseCommandFile⟩
          else
            .unavailable availability.reasons) ∧
        ((∀ hook ∈ chain.hooks,
            ToolSet.KeepsExecutable kind (hook platform)) →
          (ToolSet.KeepsExecutable kind action →
            (tools.get kind).map Tool.executable = some executable) ∧
          ∀ own, ToolSet.PutsExecutable kind own action →
            (tools.get kind).map Tool.executable = some own) := by
  constructor
  · intro left right same chain
    have equal : chain left = chain right :=
      ofHistory_of_same name family host locator same
    rw [equal]
    exact ⟨rfl, rfl, fun _ => rfl⟩
  · intro before after kind executable last chain platform names action
      supported tools
    refine ⟨select_of_strategy supported, fun keep => ?_⟩
    rw [hooks_ofHistory] at keep
    -- The hooks keep the executable, so that the action has the last word.
    have configured : (tools.get kind).map Tool.executable =
        ((action ((before ++ .defaultExecutable kind executable ::
          after).defaultTools family)).get kind).map Tool.executable := by
      rw [show tools = _ from configuredTools_ofHistory .., History.toolsFor,
        ToolSet.executable_foldl_hooks keep]
      rfl
    rw [configured]
    constructor
    · intro kept
      rw [kept, History.get_defaultTools_of_last last]
      rfl
    · intro own put
      exact put _

/-- A target that comes before the default executables of two kinds, and puts
a linker of its own. -/
theorem agree_of_sameBySort_late_defaults :
    let machine : Machine Id :=
      FileTree.machine ⟨[([['o', 'p', 't'], ['a', 's']], "")], [], [], []⟩
    let action : ToolSet → ToolSet := (·.setExecutable .linker "arm-ld")
    let left : History := [.target ["arm"] action, .searchIn [⟨"/opt"⟩],
      .defaultExecutable .cCompiler "gcc-13", .defaultExecutable .linker "ld"]
    let right : History := [.defaultExecutable .linker "ld",
      .defaultExecutable .cCompiler "gcc-13", .searchIn [⟨"/opt"⟩],
      .target ["arm"] action]
    let chain := ofHistory "native" .gcc ⟨.linux⟩
      (SearchPath.ofMachine machine ⟨.linux⟩)
    let platform : Platform := ⟨"arm", .other "none", .i386⟩
    let tools :=
      (chain left).configuredTools (.named ["arm"] action) platform
    (chain left).select platform = (chain right).select platform ∧
      (chain left).select platform =
        (pure (.available ⟨platform, tools, true⟩) : Id ToolProvider) ∧
      (tools.get .cCompiler).map Tool.executable = some "gcc-13" ∧
      (tools.get .linker).map Tool.executable = some "arm-ld" := by
  intro machine action left right chain platform tools
  have same : left.SameBySort right := by
    intro sort
    cases sort with
    | defaultExecutable kind => cases kind <;> rfl
    | _ => rfl
  have agree := agree_of_sameBySort "native" .gcc ⟨.linux⟩
    (SearchPath.ofMachine machine ⟨.linux⟩)
  obtain ⟨-, -, selected⟩ := agree.1 left right same
  have compiler := agree.2 [.target ["arm"] action, .searchIn [⟨"/opt"⟩]]
    [.defaultExecutable .linker "ld"] .cCompiler "gcc-13"
    (fun _ member => by simp at member) platform ["arm"] action rfl
  have linker := agree.2 [.target ["arm"] action, .searchIn [⟨"/opt"⟩],
    .defaultExecutable .cCompiler "gcc-13"] [] .linker "ld"
    (fun _ member => by simp at member) platform ["arm"] action rfl
  have found : (Id.run (Availability.new.probe tools
      (chain left).locator)).isAvailable = true := by
    decide
  refine ⟨selected platform, compiler.1.trans (if_pos found), ?_, ?_⟩
  · exact (compiler.2 nofun).1 fun _ => rfl
  · exact (linker.2 nofun).2 "arm-ld" fun _ => rfl

end ToolChain

end ToolSelect
