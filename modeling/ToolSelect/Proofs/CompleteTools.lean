import ToolSelect.Proofs.ConfiguredSelection
import ToolSelect.Proofs.Interleaving
import ToolSelect.Proofs.Results
import ToolSelect.Proofs.ToolSetRuns

/-!
# Complete tool sets

A tool chain starts every selection from a tool of every kind, and edits take
none away.  Where targets and hooks make no other changes, a request looks for
a tool of every kind, and it is never refused because no C compiler would be
configured.
-/

namespace ToolSelect

namespace ToolSet

/-- There is a tool of every kind. -/
def IsComplete (tools : ToolSet) : Prop :=
  ∀ kind, (tools.get kind).isSome = true

/-- The action changes the tools by edits alone.  Which ones it makes may
depend on the tools that it is given. -/
def EditsOnly (action : ToolSet → ToolSet) : Prop :=
  ∀ tools, ∃ edits : List ToolEdit,
    action tools = edits.foldl ToolEdit.run tools

theorem IsComplete.run {tools : ToolSet} (complete : tools.IsComplete)
    (edit : ToolEdit) : (edit.run tools).IsComplete := by
  intro kind
  obtain ⟨tool, present⟩ := Option.isSome_iff_exists.mp (complete kind)
  rw [edit.get_run, present]
  cases edit with
  | setExecutable other executable =>
      rw [ToolEdit.runOnTool]
      split <;> rfl
  | editArguments other edit =>
      rw [ToolEdit.runOnTool]
      split <;> rfl
  | extend application => rfl

theorem IsComplete.foldl_run {tools : ToolSet} (complete : tools.IsComplete)
    (edits : List ToolEdit) : (edits.foldl ToolEdit.run tools).IsComplete := by
  induction edits generalizing tools with
  | nil => exact complete
  | cons edit edits induction => exact induction (complete.run edit)

namespace EditsOnly

theorem refl : EditsOnly id :=
  fun _ => ⟨[], rfl⟩

theorem run (edit : ToolEdit) : EditsOnly (ToolEdit.run · edit) :=
  fun _ => ⟨[edit], rfl⟩

theorem apply (source : ArgumentSource) (host : Host) :
    EditsOnly (source.apply · host) :=
  run (.extend ⟨source, host⟩)

theorem andThen {action next : ToolSet → ToolSet} (editsOnly : EditsOnly action)
    (nextEditsOnly : EditsOnly next) :
    EditsOnly fun tools => next (action tools) := by
  intro tools
  obtain ⟨edits, same⟩ := editsOnly tools
  obtain ⟨more, nextSame⟩ := nextEditsOnly (action tools)
  refine ⟨edits ++ more, ?_⟩
  rw [List.foldl_append, ← same]
  exact nextSame

theorem foldl {α : Type} {action : α → ToolSet → ToolSet} {items : List α}
    (editsOnly : ∀ item ∈ items, EditsOnly (action item)) :
    EditsOnly fun tools =>
      items.foldl (fun tools item => action item tools) tools := by
  induction items with
  | nil => exact refl
  | cons item items induction =>
      obtain ⟨first, rest⟩ := List.forall_mem_cons.mp editsOnly
      exact first.andThen (induction rest)

theorem isComplete {action : ToolSet → ToolSet} (editsOnly : EditsOnly action)
    {tools : ToolSet} (complete : tools.IsComplete) :
    (action tools).IsComplete := by
  obtain ⟨edits, same⟩ := editsOnly tools
  rw [same]
  exact complete.foldl_run edits

end EditsOnly

end ToolSet

theorem Target.action_editsOnly (target : Target) :
    ToolSet.EditsOnly target.action := by
  have executables : ToolSet.EditsOnly fun tools =>
      target.executables.byKind.entries.foldl
        (fun tools entry => tools.setExecutable entry.1 entry.2) tools :=
    .foldl fun entry _ => .run (.setExecutable entry.1 entry.2)
  rw [← target.overrideTools_eq_action .current]
  exact executables.andThen (.apply _ .current)

/-- What the registration adds makes no change to tools but by edits. -/
def Registration.EditsOnly : Registration → Prop
  | .target _ action => ToolSet.EditsOnly action
  | .eachPlatform hook => ∀ platform, ToolSet.EditsOnly (hook platform)
  | _ => True

/-- A configuration registers no hooks, and targets that edit only. -/
theorem Config.history_editsOnly (config : Config) :
    ∀ registration ∈ config.history, registration.EditsOnly := by
  intro registration member
  rw [history, List.mem_append, List.mem_cons, List.mem_map,
    List.mem_map] at member
  rcases member with (rfl | ⟨target, -, rfl⟩) | ⟨entry, -, rfl⟩
  · exact trivial
  · exact target.action_editsOnly
  · exact trivial

namespace History

theorem isComplete_defaultTools (history : History) (family : Family) :
    (history.defaultTools family).IsComplete := by
  intro kind
  rw [get_defaultTools]
  rfl

variable {history : History}
  (editsOnly : ∀ registration ∈ history, registration.EditsOnly)
include editsOnly

theorem configure_editsOnly {strategy : Strategy}
    (member : strategy ∈ history.strategies) (host : Host) :
    ToolSet.EditsOnly (strategy.configure · host) := by
  cases strategy with
  | toolChainDefault => exact .refl
  | intel32 => exact .apply _ host
  | intel64 => exact .apply _ host
  | named names action =>
      -- It has been registered as a target, since no built-in one is named.
      rw [strategies, List.mem_append, List.mem_reverse,
        List.mem_filterMap] at member
      rcases member with ⟨registration, member, given⟩ | builtIn
      · cases registration with
        | target names action =>
            cases given
            exact editsOnly _ member
        | _ => cases given
      · simp [Strategy.builtIns] at builtIn

theorem hooks_editsOnly (platform : Platform) :
    ∀ hook ∈ history.hooks, ToolSet.EditsOnly (hook platform) := by
  intro hook member
  obtain ⟨registration, member, given⟩ := List.mem_filterMap.mp member
  cases registration with
  | eachPlatform hook =>
      cases given
      exact editsOnly _ member platform
  | _ => cases given

theorem isComplete_toolsFor {strategy : Strategy}
    (member : strategy ∈ history.strategies) (family : Family) (host : Host)
    (platform : Platform) :
    (history.toolsFor family host strategy platform).IsComplete := by
  have hooks : ToolSet.EditsOnly fun tools =>
      history.hooks.foldl (fun tools hook => hook platform tools) tools :=
    .foldl (hooks_editsOnly editsOnly platform)
  rw [toolsFor, ← Strategy.configure_eq_made]
  exact ((configure_editsOnly editsOnly member host).andThen hooks).isComplete
    (history.isComplete_defaultTools family)

end History

namespace Availability

variable {L : Type} {m : Type → Type} [Monad m] [Locator L m]

/-- A look for tools among which there is this C compiler. -/
def probeWith (availability : Availability) (tools : ToolSet) (compiler : Tool)
    (locator : L) : m Availability := do
  let results ← tools.entries.mapM fun entry =>
    Locator.locate locator entry.1 entry.2.executable
  if results.any SearchResult.isFound then
    return availability
  else
    return availability.mustBeFound
      (← Locator.locate locator .cCompiler compiler.executable)

theorem probe_of_compiler {tools : ToolSet} {compiler : Tool}
    (configured : tools.get .cCompiler = some compiler)
    (availability : Availability) (locator : L) :
    availability.probe tools locator =
      availability.probeWith tools compiler locator := by
  rw [probe, configured, probeWith]

end Availability

namespace ToolChain

section LooksForAll

variable {L : Type} {m : Type → Type} [Monad m] [Locator L m]

/-- A request for a platform that the tool chain can build for looks for a tool
of every kind.  A C compiler is among them, so that a failing request tells what
came of the search for it, and one that is granted comes with all of them. -/
def LooksForAll (chain : ToolChain L) : Prop :=
  ∀ platform,
    match chain.strategyFor? platform with
    | none =>
      chain.select platform =
        (pure (.unavailable [unsupportedReason platform]) : m ToolProvider)
    | some strategy =>
      let tools := chain.configuredTools strategy platform
      tools.IsComplete ∧
      ∃ compiler, tools.get .cCompiler = some compiler ∧
        chain.select platform = do
          let availability ←
            Availability.new.probeWith tools compiler chain.locator
          return if availability.isAvailable then
            .available ⟨platform, tools, chain.canUseCommandFile⟩
          else
            .unavailable availability.reasons

theorem looksForAll_ofHistory (name : String) (family : Family) (host : Host)
    (locator : L) {history : History}
    (editsOnly : ∀ registration ∈ history, registration.EditsOnly) :
    (ofHistory name family host locator history).LooksForAll := by
  intro platform
  have first := strategyFor?_ofHistory name family host locator history platform
  cases supported : (ofHistory name family host locator history).strategyFor?
      platform with
  | none => exact select_of_unsupported supported
  | some strategy =>
      have member : strategy ∈ history.strategies :=
        List.mem_of_find?_eq_some (first.symm.trans supported)
      have complete := History.isComplete_toolsFor editsOnly member family host
        platform
      rw [← configuredTools_ofHistory name family host locator] at complete
      obtain ⟨compiler, configured⟩ :=
        Option.isSome_iff_exists.mp (complete .cCompiler)
      refine ⟨complete, compiler, configured, ?_⟩
      rw [select_of_strategy supported,
        Availability.probe_of_compiler configured]

end LooksForAll

end ToolChain

section Machines

variable {m : Type → Type} [Monad m] [LawfulMonad m]

theorem Availability.ne_unconfiguredReason (opening rest : String)
    {first : Char} (starts : opening.toList.head? = some first)
    (differs : first ≠ 'N') : opening ++ rest ≠ unconfiguredReason := by
  intro same
  have head : (opening ++ rest).toList.head? = some 'N' := by
    rw [same]
    rfl
  rw [String.toList_append, List.head?_append, starts] at head
  exact differs (Option.some.inj head)

theorem SearchPath.locate_ne_unconfigured (search : SearchPath m)
    (kind : ToolKind) (executable : String) :
    Always (search.locate kind executable)
      (· ≠ .notFound Availability.unconfiguredReason) := by
  have absent (file : String) :
      absentReason kind file ≠ Availability.unconfiguredReason := by
    unfold absentReason
    rw [String.append_assoc, String.append_assoc]
    cases kind <;>
      exact Availability.ne_unconfiguredReason _ _ rfl (by decide)
  have unlisted : unlistedReason kind executable ≠
      Availability.unconfiguredReason := by
    unfold unlistedReason
    rw [String.append_assoc, String.append_assoc, String.append_assoc]
    exact Availability.ne_unconfiguredReason "Could not find " _ rfl
      (by decide)
  have missing : missingReason kind executable search.directories ≠
      Availability.unconfiguredReason := by
    unfold missingReason
    rw [String.append_assoc, String.append_assoc, String.append_assoc,
      String.append_assoc]
    exact Availability.ne_unconfiguredReason "Could not find " _ rfl
      (by decide)
  unfold locate
  dsimp only
  split
  · refine .bind _ fun file => ?_
    cases file with
    | true => exact .pure nofun
    | false => exact .pure (mt SearchResult.notFound.inj (absent _))
  · split
    · refine .bind _ fun directories => .bind _ fun path? => ?_
      cases path? with
      | some path => exact .pure nofun
      | none => exact .pure (mt SearchResult.notFound.inj unlisted)
    · refine .bind _ fun path? => ?_
      cases path? with
      | some path => exact .pure nofun
      | none => exact .pure (mt SearchResult.notFound.inj missing)

theorem Availability.probeWith_ne_unconfigured (tools : ToolSet)
    (compiler : Tool) (search : SearchPath m) :
    Always (Availability.new.probeWith tools compiler search)
      (·.reasons ≠ [unconfiguredReason]) := by
  refine .bind _ fun results => ?_
  split
  · exact .pure nofun
  · refine .bind_of (search.locate_ne_unconfigured _ _) fun result differs => ?_
    cases result with
    | found path => exact .pure nofun
    | notFound reason =>
        refine .pure fun same => differs ?_
        rw [List.head_eq_of_cons_eq same]

theorem ToolChain.LooksForAll.ne_unconfigured {chain : ToolChain (SearchPath m)}
    (looks : chain.LooksForAll) (platform : Platform) :
    Always (chain.select platform)
      (· ≠ .unavailable [Availability.unconfiguredReason]) := by
  have looks := looks platform
  have unsupported : unsupportedReason platform ≠
      Availability.unconfiguredReason := by
    unfold unsupportedReason
    rw [String.append_assoc]
    exact Availability.ne_unconfiguredReason
      "Don't know how to build for platform '" _ rfl (by decide)
  cases supported : chain.strategyFor? platform with
  | none =>
      rw [supported] at looks
      rw [looks]
      refine .pure fun same => unsupported ?_
      exact List.head_eq_of_cons_eq (ToolProvider.unavailable.inj same)
  | some strategy =>
      rw [supported] at looks
      obtain ⟨-, compiler, -, selected⟩ := looks
      rw [selected]
      refine .bind_of (Availability.probeWith_ne_unconfigured _ _ _)
        fun availability differs => .pure ?_
      split
      · nofun
      · exact fun same => differs (ToolProvider.unavailable.inj same)

end Machines

/-- A tool chain with any history starts from a tool of every kind, with the
executable that was last set for the kind and without arguments.  If its targets
and hooks edit only, as those of a configuration do, then every request looks
for a tool of every kind, and on a machine none is refused in the words for a
tool chain without a C compiler. -/
theorem ToolChain.looksForAll_of_editsOnly :
    (∀ {L : Type} {m : Type → Type} [Monad m] [Locator L m] (name : String)
      (family : Family) (host : Host) (locator : L) (history : History),
      let chain := ofHistory name family host locator history
      (∀ kind, chain.defaultTools.get kind =
        some ⟨(history.filterMap
          (Registration.executableFor? kind)).getLast?.getD
            (family.defaultExecutable kind), []⟩) ∧
      ((∀ registration ∈ history, registration.EditsOnly) →
        chain.LooksForAll)) ∧
    (∀ {m : Type → Type} [Monad m] {text : String} {config : Config},
      Config.parse text = .ok config →
        ∀ (machine : Machine m) (host : Host),
          ∃ chain, config.build machine host = .ok chain ∧
            chain.LooksForAll) ∧
    ∀ {m : Type → Type} [Monad m] [LawfulMonad m]
      (chain : ToolChain (SearchPath m)), chain.LooksForAll →
        ∀ platform, Always (chain.select platform)
          (· ≠ .unavailable
            ["No C compiler is configured for this tool chain."]) := by
  refine ⟨fun name family host locator history => ⟨fun kind => ?_, ?_⟩, ?_,
    fun chain looks => looks.ne_unconfigured⟩
  · rw [defaultTools_ofHistory, History.get_defaultTools]
  · exact looksForAll_ofHistory name family host locator
  · intro m _ text config accepted machine host
    have valid := Config.valid_of_parse accepted
    exact ⟨_, Config.build_of_valid valid machine host,
      looksForAll_ofHistory _ _ _ _ config.history_editsOnly⟩

/-- A target and a hook edit the tools of a tool chain on an empty machine, and
the last of two C compilers is missed there. -/
theorem ToolChain.looksForAll_of_editsOnly_missed :
    let machine : Machine Id := FileTree.machine ⟨[], [], [], []⟩
    let action (tools : ToolSet) :=
      (tools.setExecutable .linker "ld").editArguments .linker (· ++ ["-s"])
    let hook (platform : Platform) (tools : ToolSet) :=
      tools.editArguments .assembler (platform.name :: ·)
    let history : History := [.defaultExecutable .cCompiler "tcc",
      .target ["pi"] action, .defaultExecutable .cCompiler "pcc",
      .eachPlatform hook]
    let chain := ofHistory "board" .gcc ⟨.linux⟩
      (SearchPath.ofMachine machine ⟨.linux⟩) history
    let config : Config := ⟨"", .gcc, [], .empty,
      [⟨["pi"], .ofList [("linker", ["-s"])], .empty⟩]⟩
    (∀ registration ∈ history, registration.EditsOnly) ∧
      chain.defaultTools.get .cCompiler = some ⟨"pcc", []⟩ ∧
      chain.LooksForAll ∧
      Id.run (chain.select ⟨"pi", .other "none", .i386⟩) =
        .unavailable ["Could not find C compiler 'pcc' in system path."] ∧
      (∀ platform, Id.run (chain.select platform) ≠
        .unavailable ["No C compiler is configured for this tool chain."]) ∧
      Config.parse config.toJson.render = .ok config ∧
      ∃ chain, config.build machine ⟨.linux⟩ = .ok chain ∧
        chain.LooksForAll := by
  intro machine action hook history chain config
  have editsOnly : ∀ registration ∈ history, registration.EditsOnly := by
    have edited : ToolSet.EditsOnly action :=
      (ToolSet.EditsOnly.run (.setExecutable .linker "ld")).andThen
        (.run (.editArguments .linker (· ++ ["-s"])))
    have hooked : ∀ platform, ToolSet.EditsOnly (hook platform) :=
      fun platform => .run (.editArguments .assembler (platform.name :: ·))
    simp [history, Registration.EditsOnly, edited, hooked]
  have accepted : Config.parse config.toJson.render = .ok config := by
    rw [Config.parse_written, show config.validate = .ok () by decide]
    rfl
  obtain ⟨histories, configs, machines⟩ := looksForAll_of_editsOnly
  obtain ⟨defaults, complete⟩ := histories "board" .gcc ⟨.linux⟩
    (SearchPath.ofMachine machine ⟨.linux⟩) history
  have looks := complete editsOnly
  refine ⟨editsOnly, defaults .cCompiler, looks, by decide, ?_, accepted,
    configs accepted machine ⟨.linux⟩⟩
  exact fun platform => (machines chain looks platform).of_id

end ToolSelect
