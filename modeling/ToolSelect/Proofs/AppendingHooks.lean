import ToolSelect.Proofs.AppendedArguments
import ToolSelect.Proofs.Interleaving
import ToolSelect.Proofs.Results

/-!
# Hooks that append arguments

The arguments that a tool is given when all hooks only append some: first those
of the strategy, and behind them those of the hooks in the order in which these
were registered.  A built-in strategy puts nothing in front but its flags.
-/

namespace ToolSelect

/-- A hook that appends arguments and does nothing else.  They may depend on the
platform. -/
structure AppendingHook where
  hook : Platform → ToolSet → ToolSet
  extra : Platform → ToolKind → List String
  appends : ∀ platform, ToolSet.Appends (hook platform) (extra platform)

namespace AppendingHook

/-- All hooks together append their lists in the order of the hooks. -/
theorem appends_foldl (hooks : List AppendingHook) (platform : Platform) :
    ToolSet.Appends
      (fun tools => (hooks.map hook).foldl
        (fun tools hook => hook platform tools) tools)
      fun kind => hooks.flatMap (·.extra platform kind) := by
  simpa only [List.foldl_map] using ToolSet.Appends.foldl
    fun (each : AppendingHook) (_ : each ∈ hooks) => each.appends platform

end AppendingHook

namespace Strategy

theorem appends_configure {strategy : Strategy} {host : Host}
    {flags : ToolKind → List String}
    (builtIn : strategy.flags? host = some flags) :
    ToolSet.Appends (strategy.configure · host) flags := by
  simp only [configure_eq_made]
  cases strategy with
  | toolChainDefault =>
      cases builtIn
      exact .refl
  | intel32 =>
      cases builtIn
      exact fun _ _ => rfl
  | intel64 =>
      cases builtIn
      exact fun _ _ => rfl
  | named names action => cases builtIn

end Strategy

namespace ToolChain

variable {L : Type} {m : Type → Type} [Monad m] [LawfulMonad m] [Locator L m]

/-- A request is granted with the configured tools or not at all. -/
theorem select_granted (chain : ToolChain L) (platform : Platform) :
    Always (chain.select platform : m ToolProvider) fun provider =>
      ∀ provided, provider = .available provided →
        ∃ strategy, chain.strategyFor? platform = some strategy ∧
          provided = ⟨platform, chain.configuredTools strategy platform,
            chain.canUseCommandFile⟩ := by
  cases supported : chain.strategyFor? platform with
  | none =>
      rw [select_of_unsupported supported]
      exact .pure nofun
  | some strategy =>
      rw [select_of_strategy supported]
      refine .bind _ fun availability => .pure fun provided granted => ?_
      cases available : availability.isAvailable with
      | false =>
          rw [available] at granted
          cases granted
      | true =>
          rw [available] at granted
          exact ⟨strategy, rfl, (ToolProvider.available.inj granted).symm⟩

/-- If the hooks only append arguments, then a request that is granted comes
with the kinds and executables of the tools after the strategy.  Every tool has
the arguments that the strategy leaves it, and behind them those of the hooks
in the order of their registration.  Of a built-in strategy these are its flags
alone. -/
theorem select_appends_hooks (name : String) (family : Family) (host : Host)
    (locator : L) {history : History} {hooks : List AppendingHook}
    (registered : history.hooks = hooks.map AppendingHook.hook)
    (platform : Platform) :
    let chain := ofHistory name family host locator history
    Always (chain.select platform : m ToolProvider) fun provider =>
      ∀ provided, provider = .available provided →
        ∃ strategy, chain.strategyFor? platform = some strategy ∧
          let configured := strategy.configure chain.defaultTools host
          let extra := fun kind => hooks.flatMap (·.extra platform kind)
          provided.tools.kinds = configured.kinds ∧
          (∀ kind tool, configured.get kind = some tool →
            provided.tools.get kind =
              some ⟨tool.executable, tool.arguments ++ extra kind⟩) ∧
          ∀ flags, strategy.flags? host = some flags → ∀ kind,
            ∃ executable, chain.defaultTools.get kind = some ⟨executable, []⟩ ∧
              provided.tools.get kind =
                some ⟨executable, flags kind ++ extra kind⟩ := by
  intro chain
  refine (select_granted chain platform).imp fun provider given => ?_
  intro provided granted
  obtain ⟨strategy, supported, rfl⟩ := given provided granted
  refine ⟨strategy, supported, ?_⟩
  intro configured extra
  have appends := AppendingHook.appends_foldl hooks platform
  have tools := configuredTools_ofHistory name family host locator history
    strategy platform
  rw [History.toolsFor, ← Strategy.configure_eq_made, registered,
    ← defaultTools_ofHistory name family host locator] at tools
  rw [show chain.configuredTools strategy platform = _ from tools]
  refine ⟨appends.kinds_eq configured,
    fun kind tool => appends.get_of_present, fun flags builtIn kind => ?_⟩
  -- The default tools come without arguments, so the flags are in front.
  have untouched := History.get_defaultTools history family kind
  rw [← defaultTools_ofHistory name family host locator] at untouched
  have flagged := (Strategy.appends_configure builtIn).get_of_present untouched
  exact ⟨_, untouched, appends.get_of_present flagged⟩

/-- A hook that goes by the platform and a source of arguments, behind the flags
for macOS and behind those of a target. -/
theorem select_appends_hooks_in_order :
    let machine : Machine Id :=
      FileTree.machine ⟨[([['b', 'i', 'n'], ['a', 'r']], "")], [],
        [("PATH", "/bin")], []⟩
    let source : ArgumentSource :=
      .ofKindMap ((KindMap.empty.insert .assembler ["-k"]).insert .linker [])
    let named : AppendingHook :=
      ⟨fun platform => (·.editArguments .assembler (· ++ [platform.name])), _,
        fun _ => .editArguments _ _⟩
    let sourced : AppendingHook :=
      ⟨fun _ => (source.apply · ⟨.linux⟩), _,
        fun _ => source.appends_apply ⟨.linux⟩⟩
    let history : History := [.eachPlatform named.hook,
      .target ["pi"] (·.editArguments .assembler (· ++ ["-p"])),
      .eachPlatform sourced.hook, .defaultExecutable .assembler "gas"]
    let chain := ofHistory "mac" .gcc ⟨.macOs⟩
      (SearchPath.ofMachine machine ⟨.macOs⟩) history
    let mac : Platform := ⟨"m", .macOs, .i386⟩
    let pi : Platform := ⟨"pi", .linux, .amd64⟩
    history.hooks = [named, sourced].map AppendingHook.hook ∧
      (∃ provided, Id.run (chain.select mac) = .available provided ∧
        provided.tools.get .assembler =
          some ⟨"gas", ["-arch", "i386", "m", "-k"]⟩ ∧
        provided.tools.get .linker = some ⟨"g++", ["-m32"]⟩ ∧
        provided.tools.get .staticLibArchiver = some ⟨"ar", []⟩) ∧
      ∃ provided, Id.run (chain.select pi) = .available provided ∧
        provided.tools.get .assembler = some ⟨"gas", ["-p", "pi", "-k"]⟩ := by
  intro machine source named sourced history chain mac pi
  have registered : history.hooks = [named, sourced].map AppendingHook.hook :=
    rfl
  have appended (platform : Platform) := (select_appends_hooks "mac" .gcc
    ⟨.macOs⟩ (SearchPath.ofMachine machine ⟨.macOs⟩) registered platform).of_id
  have available (platform : Platform)
      (granted : (Id.run (chain.select platform)).isAvailable = true) :
      ∃ provided, Id.run (chain.select platform) = .available provided := by
    cases answer : Id.run (chain.select platform) with
    | available provided => exact ⟨provided, rfl⟩
    | unavailable reasons =>
        rw [answer] at granted
        cases granted
  obtain ⟨macTools, macGranted⟩ := available mac (by decide)
  obtain ⟨piTools, piGranted⟩ := available pi (by decide)
  refine ⟨registered, ⟨macTools, macGranted, ?_⟩, piTools, piGranted, ?_⟩
  · obtain ⟨strategy, supported, -, -, flagged⟩ := appended mac _ macGranted
    obtain rfl : Strategy.intel32 = strategy := Option.some.inj supported
    have flagged := flagged _ rfl
    refine ⟨?_, ?_, ?_⟩
    · obtain ⟨executable, untouched, given⟩ := flagged .assembler
      cases untouched
      exact given
    · obtain ⟨executable, untouched, given⟩ := flagged .linker
      cases untouched
      exact given
    · obtain ⟨executable, untouched, given⟩ := flagged .staticLibArchiver
      cases untouched
      exact given
  · obtain ⟨strategy, supported, -, behind, -⟩ := appended pi _ piGranted
    obtain rfl := Option.some.inj supported
    exact behind .assembler _ rfl

end ToolChain

end ToolSelect
