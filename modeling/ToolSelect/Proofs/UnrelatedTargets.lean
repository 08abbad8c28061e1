import Mathlib.Data.List.Basic
import ToolSelect.Proofs.Selection

/-!
# Targets that do not name a platform

A target can only decide the requests for the platforms that it names.  Every
other request is answered as if the target had not been registered, and two
targets without a common name can be registered in either order.
-/

namespace ToolSelect

namespace ToolChain

variable {L : Type} {m : Type → Type} [Locator L m]

/-- The tool chains differ in their strategies at most. -/
def AlikeButStrategies (left right : ToolChain L) : Prop :=
  { left with registry := right.registry } = right

namespace AlikeButStrategies

variable {left right : ToolChain L}

theorem of_target (chain : ToolChain L) (names : List String)
    (action : ToolSet → ToolSet) :
    (chain.register (.target names action)).AlikeButStrategies chain :=
  rfl

theorem of_targets (chain : ToolChain L) (names otherNames : List String)
    (action otherAction : ToolSet → ToolSet) :
    ((chain.register (.target names action)).register
      (.target otherNames otherAction)).AlikeButStrategies
        ((chain.register (.target otherNames otherAction)).register
          (.target names action)) :=
  rfl

theorem register (alike : left.AlikeButStrategies right)
    (registration : Registration) :
    (left.register registration).AlikeButStrategies
      (right.register registration) := by
  rw [AlikeButStrategies] at alike ⊢
  rw [← alike]
  cases registration <;> rfl

theorem foldl_register (alike : left.AlikeButStrategies right)
    (history : History) :
    (history.foldl ToolChain.register left).AlikeButStrategies
      (history.foldl ToolChain.register right) := by
  induction history generalizing left right with
  | nil => exact alike
  | cons registration history induction =>
      exact induction (alike.register registration)

/-- A request that one strategy decides in both tool chains has one answer. -/
theorem select_eq [Monad m] (alike : left.AlikeButStrategies right)
    {platform : Platform}
    (same : left.strategyFor? platform = right.strategyFor? platform) :
    left.select platform = (right.select platform : m ToolProvider) := by
  rw [AlikeButStrategies] at alike
  have decided : { left with registry := right.registry }.strategyFor?
      platform = left.strategyFor? platform := by
    rw [alike, same]
  calc
    left.select platform =
        { left with registry := right.registry }.select platform := by
      rw [select, select, decided]
      rfl
    _ = right.select platform := by rw [alike]

end AlikeButStrategies

end ToolChain

namespace History

theorem strategies_append_target (before after : History)
    (names : List String) (action : ToolSet → ToolSet) :
    (before ++ .target names action :: after).strategies =
      (after.filterMap Registration.strategy?).reverse ++
        .named names action :: before.strategies := by
  simp [strategies, Registration.strategy?]

theorem strategies_append (before after : History) :
    (before ++ after).strategies =
      (after.filterMap Registration.strategy?).reverse ++
        before.strategies := by
  simp [strategies]

variable {platform : Platform} (host : Host)

theorem find?_target {names : List String} (unnamed : platform.name ∉ names)
    (before after : History) (action : ToolSet → ToolSet) :
    (before ++ .target names action :: after).strategies.find?
        (·.buildsFor platform host) =
      (before ++ after).strategies.find? (·.buildsFor platform host) := by
  have passed : (Strategy.named names action).buildsFor platform host =
      false := by
    simpa [Strategy.buildsFor] using unnamed
  rw [strategies_append_target, strategies_append, List.find?_append,
    List.find?_append, List.find?_cons, passed]

/-- Of two targets without a common name one at least is passed over. -/
theorem find?_targets {names otherNames : List String}
    (disjoint : names.Disjoint otherNames) (before after : History)
    (action otherAction : ToolSet → ToolSet) :
    (before ++ .target names action :: .target otherNames otherAction ::
        after).strategies.find? (·.buildsFor platform host) =
      (before ++ .target otherNames otherAction :: .target names action ::
        after).strategies.find? (·.buildsFor platform host) := by
  by_cases named : platform.name ∈ names
  · have unnamed : platform.name ∉ otherNames := disjoint named
    have later := find?_target host unnamed
      (before ++ [.target names action]) after otherAction
    rw [List.append_assoc, List.append_assoc] at later
    exact later.trans (find?_target host unnamed before _ otherAction).symm
  · have later := find?_target host named
      (before ++ [.target otherNames otherAction]) after action
    rw [List.append_assoc, List.append_assoc] at later
    exact (find?_target host named before _ action).trans later.symm

end History

namespace ToolChain

variable {L : Type} {m : Type → Type} [Locator L m] [Monad m]

/-- Wherever a target is put into a history, it leaves the answer for every
platform that it does not name as it is.  Two targets without a common name
that follow each other can change places for all platforms. -/
theorem select_ofHistory_unrelated (name : String) (family : Family)
    (host : Host) (locator : L) :
    let select := fun (history : History) (platform : Platform) =>
      ((ofHistory name family host locator history).select platform :
        m ToolProvider)
    (∀ (before after : History) (names : List String)
      (action : ToolSet → ToolSet) (platform : Platform),
      platform.name ∉ names →
        select (before ++ .target names action :: after) platform =
          select (before ++ after) platform) ∧
    ∀ (before after : History) (names otherNames : List String)
      (action otherAction : ToolSet → ToolSet),
      names.Disjoint otherNames → ∀ platform : Platform,
        select (before ++ .target names action ::
            .target otherNames otherAction :: after) platform =
          select (before ++ .target otherNames otherAction ::
            .target names action :: after) platform := by
  intro select
  constructor
  · intro before after names action platform unnamed
    have alike : (ofHistory name family host locator
        (before ++ .target names action :: after)).AlikeButStrategies
          (ofHistory name family host locator (before ++ after)) := by
      rw [ofHistory, ofHistory, List.foldl_append, List.foldl_append,
        List.foldl_cons]
      exact (AlikeButStrategies.of_target _ names action).foldl_register after
    -- It is left to show that the same strategy comes first for the platform.
    refine alike.select_eq ?_
    rw [strategyFor?_ofHistory, strategyFor?_ofHistory]
    exact History.find?_target host unnamed before after action
  · intro before after names otherNames action otherAction disjoint platform
    have alike : (ofHistory name family host locator
        (before ++ .target names action :: .target otherNames otherAction ::
          after)).AlikeButStrategies
          (ofHistory name family host locator
            (before ++ .target otherNames otherAction ::
              .target names action :: after)) := by
      rw [ofHistory, ofHistory, List.foldl_append, List.foldl_append]
      exact (AlikeButStrategies.of_targets _ names otherNames action
        otherAction).foldl_register after
    refine alike.select_eq ?_
    rw [strategyFor?_ofHistory, strategyFor?_ofHistory]
    exact History.find?_targets host disjoint before after action otherAction

/-- A target between two others that share a name, and one that changes places
with the second of them. -/
theorem select_ofHistory_unrelated_between :
    let machine : Machine Id :=
      FileTree.machine ⟨[([['b', 'i', 'n'], ['p', 'c', 'c']], "")], [],
        [("PATH", "/bin")], []⟩
    let select (history : History) (platform : Platform) : ToolProvider :=
      Id.run ((ofHistory "native" .gcc ⟨.linux⟩
        (SearchPath.ofMachine machine ⟨.linux⟩) history).select platform)
    let first : Registration := .target ["pi", "arm"] id
    let between : Registration := .target ["tv", "x86"] fun _ => .empty
    let second : Registration :=
      .target ["pi"] (·.setExecutable .cCompiler "pcc")
    let platform : Platform := ⟨"pi", .linux, .i386⟩
    select [first, between, second] platform =
        select [first, second] platform ∧
      select [first, between, second] platform =
        select [first, second, between] platform ∧
      (select [first, between, second] platform).isAvailable = true := by
  intro machine select first between second platform
  have unrelated := select_ofHistory_unrelated "native" .gcc ⟨.linux⟩
    (SearchPath.ofMachine machine ⟨.linux⟩)
  refine ⟨?_, ?_, by decide⟩
  · exact unrelated.1 [first] [second] ["tv", "x86"] _ platform (by decide)
  · have disjoint : ["tv", "x86"].Disjoint ["pi"] := by
      simp [List.Disjoint]
    exact unrelated.2 [first] [] ["tv", "x86"] ["pi"] _ _ disjoint platform

end ToolChain

end ToolSelect
