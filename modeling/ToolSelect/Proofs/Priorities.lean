import ToolSelect.Proofs.Selection

/-!
# Priorities of strategies

A platform is built for by the latest registered strategy that fits it, and by
a built-in one where none does.  Strategies that do not fit the platform, and
the order of those that never fit the same one, decide nothing.
-/

namespace ToolSelect

namespace Strategy

section BuildsFor

variable {platform : Platform} {host : Host}

/-- The strategy builds for the platform, and no later one of the list does. -/
def IsLatestOf (strategy : Strategy) (strategies : List Strategy)
    (platform : Platform) (host : Host) : Prop :=
  ∃ before after, strategies = before ++ strategy :: after ∧
    strategy.buildsFor platform host = true ∧
    ∀ later ∈ after, later.buildsFor platform host = false

/-- The latest of the strategies is the first one from the back. -/
theorem find?_reverse_eq_some_iff {strategies : List Strategy}
    {strategy : Strategy} :
    strategies.reverse.find? (·.buildsFor platform host) = some strategy ↔
      strategy.IsLatestOf strategies platform host := by
  rw [List.find?_eq_some_iff_append]
  constructor
  · rintro ⟨builds, later, earlier, split, others⟩
    refine ⟨earlier.reverse, later.reverse, ?_, builds, ?_⟩
    · rw [← List.reverse_reverse strategies, split]
      simp
    · intro other member
      simpa using others other (List.mem_reverse.mp member)
  · rintro ⟨before, after, rfl, builds, others⟩
    refine ⟨builds, after.reverse, before.reverse, by simp, ?_⟩
    intro other member
    rw [others other (List.mem_reverse.mp member)]
    rfl

/-- The built-in strategy for an architecture, whatever the host. -/
def builtInFor? : Architecture → Option Strategy
  | .toolChainDefault => some .toolChainDefault
  | .i386 => some .intel32
  | .amd64 => some .intel64
  | .other _ => none

theorem builtInFor?_of_buildsFor {strategy : Strategy}
    (builtIn : strategy ∈ builtIns)
    (builds : strategy.buildsFor platform host = true) :
    builtInFor? platform.architecture = some strategy := by
  cases strategy with
  | named names action => simp [builtIns] at builtIn
  | _ =>
      simp only [buildsFor, Bool.and_eq_true, beq_iff_eq] at builds
      rw [builds.2]
      rfl

/-- At most one of the built-in strategies builds for a platform. -/
theorem builtIn_unique {left right : Strategy} (leftBuiltIn : left ∈ builtIns)
    (rightBuiltIn : right ∈ builtIns)
    (leftBuilds : left.buildsFor platform host = true)
    (rightBuilds : right.buildsFor platform host = true) : left = right := by
  have leftOnly := builtInFor?_of_buildsFor leftBuiltIn leftBuilds
  have rightOnly := builtInFor?_of_buildsFor rightBuiltIn rightBuilds
  exact Option.some.inj (leftOnly.symm.trans rightOnly)

/-- In whatever order the built-in strategies are tried, the one that builds
for the platform is found. -/
theorem find?_builtIns_eq_some_iff {seeds : List Strategy}
    (same : seeds.Perm builtIns) {strategy : Strategy} :
    seeds.find? (·.buildsFor platform host) = some strategy ↔
      strategy ∈ builtIns ∧ strategy.buildsFor platform host = true := by
  constructor
  · intro found
    exact ⟨same.mem_iff.mp (List.mem_of_find?_eq_some found),
      by simpa using List.find?_some found⟩
  · rintro ⟨builtIn, builds⟩
    cases found : seeds.find? (·.buildsFor platform host) with
    | none =>
        have refused := List.find?_eq_none.mp found strategy
          (same.mem_iff.mpr builtIn)
        exact absurd builds refused
    | some other =>
        have otherBuiltIn :=
          same.mem_iff.mp (List.mem_of_find?_eq_some found)
        have otherBuilds : other.buildsFor platform host = true := by
          simpa using List.find?_some found
        exact congrArg some
          (builtIn_unique otherBuiltIn builtIn otherBuilds builds)

theorem find?_of_perm_builtIns {seeds : List Strategy}
    (same : seeds.Perm builtIns) :
    seeds.find? (·.buildsFor platform host) =
      builtIns.find? (·.buildsFor platform host) := by
  refine Option.ext fun strategy => ?_
  rw [find?_builtIns_eq_some_iff same, find?_builtIns_eq_some_iff (.refl _)]

end BuildsFor

end Strategy

namespace Registry

theorem strategies_foldl_register (registry : Registry)
    (registered : List Strategy) :
    (registered.foldl register registry).strategies =
      registered.reverse ++ registry.strategies := by
  induction registered generalizing registry with
  | nil => rfl
  | cons strategy registered induction =>
      rw [List.foldl_cons, induction, strategies_register, List.reverse_cons,
        List.append_assoc]
      rfl

/-- A registry tries the registered strategies from the latest to the earliest
and then the built-in ones.  So it finds the latest registered strategy that
builds for a platform, or else the built-in one that does.  There is no second
such built-in strategy, and another order of them finds the same. -/
theorem find?_registered (registered : List Strategy) :
    let registry := registered.foldl register new
    registry.strategies =
      registered.reverse ++ [.toolChainDefault, .intel32, .intel64] ∧
    ∀ (platform : Platform) (host : Host),
      (∀ strategy, registry.find? platform host = some strategy ↔
        strategy.IsLatestOf registered platform host ∨
          (∀ other ∈ registered, other.buildsFor platform host = false) ∧
            strategy ∈ Strategy.builtIns ∧
            strategy.buildsFor platform host = true) ∧
      (registry.find? platform host = none ↔
        ∀ strategy ∈ registered ++ Strategy.builtIns,
          strategy.buildsFor platform host = false) ∧
      (∀ left ∈ Strategy.builtIns, ∀ right ∈ Strategy.builtIns,
        left.buildsFor platform host = true →
          right.buildsFor platform host = true → left = right) ∧
      ∀ seeds : List Strategy, seeds.Perm Strategy.builtIns →
        (registered.reverse ++ seeds).find? (·.buildsFor platform host) =
          registry.find? platform host := by
  intro registry
  have listed : registry.strategies =
      registered.reverse ++ Strategy.builtIns :=
    strategies_foldl_register new registered
  refine ⟨listed, fun platform host => ⟨?_, ?_, ?_, ?_⟩⟩
  · intro strategy
    rw [find?, listed, List.find?_append, Option.or_eq_some_iff,
      Strategy.find?_reverse_eq_some_iff,
      Strategy.find?_builtIns_eq_some_iff (.refl _), List.find?_eq_none]
    simp
  · rw [find?, listed, List.find?_eq_none]
    simp
  · intro left leftBuiltIn right rightBuiltIn
    exact Strategy.builtIn_unique leftBuiltIn rightBuiltIn
  · intro seeds same
    rw [find?, listed, List.find?_append, List.find?_append,
      Strategy.find?_of_perm_builtIns same]

/-- Of two strategies for one name the later one counts, also against a
built-in one that is registered once more, and the built-in ones can be tried
from the back. -/
theorem find?_registered_overlapping :
    let action : ToolSet → ToolSet := (·.setExecutable .cCompiler "cc")
    let registered : List Strategy :=
      [.named ["a", "b"] id, .named ["b", "c"] action, .intel32]
    let seeds : List Strategy := [.intel64, .intel32, .toolChainDefault]
    let registry := registered.foldl register new
    let named : Platform := ⟨"b", .linux, .amd64⟩
    let unnamed : Platform := ⟨"d", .linux, .amd64⟩
    registry.find? named ⟨.linux⟩ = some (.named ["b", "c"] action) ∧
      registry.find? unnamed ⟨.linux⟩ = some .intel64 ∧
      registry.find? unnamed ⟨.windows⟩ = none ∧
      (registered.reverse ++ seeds).find? (·.buildsFor unnamed ⟨.linux⟩) =
        some .intel64 := by
  intro action registered seeds registry named unnamed
  have found := (find?_registered registered).2
  have builtIn : registry.find? unnamed ⟨.linux⟩ = some .intel64 :=
    ((found unnamed ⟨.linux⟩).1 _).mpr
      (.inr ⟨by simp [registered, unnamed, Strategy.buildsFor],
        by simp [Strategy.builtIns], rfl⟩)
  refine ⟨((found named ⟨.linux⟩).1 _).mpr (.inl ?_), builtIn, ?_, ?_⟩
  · exact ⟨[.named ["a", "b"] id], [.intel32], rfl, rfl,
      List.forall_mem_singleton.mpr rfl⟩
  · refine (found unnamed ⟨.windows⟩).2.1.mpr ?_
    simp [registered, unnamed, Strategy.builtIns, Strategy.buildsFor]
  · have reversed : seeds.Perm Strategy.builtIns :=
      List.reverse_perm Strategy.builtIns
    rw [(found unnamed ⟨.linux⟩).2.2.2 seeds reversed]
    exact builtIn

end Registry

end ToolSelect
