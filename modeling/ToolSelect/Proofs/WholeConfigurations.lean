import ToolSelect.Config.Session
import ToolSelect.Proofs.ConfiguredSelection
import ToolSelect.Proofs.InPlace
import ToolSelect.Proofs.Results

/-!
# Configurations as a whole

A text that is no valid configuration leaves a tool chain alone, and any other
one is applied to its end.  A session can therefore answer whatever it is asked
once it has been loaded.
-/

namespace ToolSelect

variable {L : Type} {m : Type → Type}

namespace Config

/-- The tool chain after the configuration: it searches the directories behind
its own, it builds for the targets ahead of what it has built for, the last one
first, and it starts from the executables that are given, with the arguments of
those they replace.  Nothing else is different. -/
structure AppliedTo [Locator L m] (config : Config)
    (before after : ToolChain L) : Prop where
  locator : after.locator =
    config.directories.foldl Locator.addDirectory before.locator
  strategies : after.strategies =
    (config.targets.map fun target =>
      Strategy.named target.names target.action).reverse ++
      before.strategies
  defaultTools : ∀ kind, after.defaultTools.get kind =
    match config.executables.valueFor? kind with
    | some executable => some ⟨executable, before.defaultTools.arguments kind⟩
    | none => before.defaultTools.get kind
  name : after.name = before.name
  family : after.family = before.family
  host : after.host = before.host
  hooks : after.hooks = before.hooks
  canUseCommandFile : after.canUseCommandFile = before.canUseCommandFile

/-- There is one tool chain after the configuration. -/
theorem AppliedTo.unique [Locator L m] {config : Config}
    {before after other : ToolChain L} (applied : config.AppliedTo before after)
    (again : config.AppliedTo before other) : after = other := by
  have registries : after.registry = other.registry :=
    congrArg Registry.mk (applied.strategies.trans again.strategies.symm)
  have defaults : after.defaultTools = other.defaultTools :=
    ToolSet.ext_get fun kind =>
      (applied.defaultTools kind).trans (again.defaultTools kind).symm
  exact ToolChain.ext (applied.name.trans again.name.symm)
    (applied.family.trans again.family.symm)
    (applied.host.trans again.host.symm)
    (applied.locator.trans again.locator.symm) registries defaults
    (applied.hooks.trans again.hooks.symm)
    (applied.canUseCommandFile.trans again.canUseCommandFile.symm)

theorem appliedTo_history [Locator L m] (config : Config)
    (chain : ToolChain L) :
    config.AppliedTo chain
      (config.history.foldl ToolChain.register chain) := by
  rw [ToolChain.foldl_register, directories_history,
    filterMap_strategy?_history, hooks_history,
    filterMap_commandFile?_history]
  exact {
    locator := rfl
    strategies := rfl
    defaultTools := config.get_foldl_editDefaults_history _
    name := rfl
    family := rfl
    host := rfl
    hooks := List.append_nil _
    canUseCommandFile := rfl }

theorem apply_of_valid [Locator L m] {config : Config}
    (valid : config.validate = .ok ()) (chain : ToolChain L) :
    ∃ applied, config.apply chain = .ok applied ∧
      config.applyInPlace.on chain = (.ok (), applied) ∧
      config.AppliedTo chain applied := by
  have applied : config.apply chain =
      .ok (config.history.foldl ToolChain.register chain) := by
    rw [apply, registrations_of_valid valid]
    rfl
  have inPlace := config.applyInPlace_of_apply chain
  rw [applied] at inPlace
  exact ⟨_, applied, inPlace, config.appliedTo_history chain⟩

theorem appliedTo_toolChain [Monad m] (config : Config)
    (machine : Machine m) (host : Host) :
    config.AppliedTo
      (.onMachine config.toolChainName config.family machine host)
      (config.toolChain machine host) :=
  config.appliedTo_history _

end Config

namespace Session

/-- The session builds the whole of its tool chain, and answers from it. -/
def Serves [Monad m] (session : Session) (machine : Machine m) : Prop :=
  ∃ chain, session.build machine = .ok chain ∧
    session.config.AppliedTo
      (.onMachine session.config.toolChainName session.config.family machine
        session.host) chain ∧
    (∀ platform, session.select machine platform =
      do return .ok (← chain.select platform)) ∧
    session.strategies machine = .ok (chain.strategies.map Strategy.display)

theorem serves_of_valid [Monad m] {session : Session}
    (valid : session.config.validate = .ok ()) (machine : Machine m) :
    session.Serves machine := by
  have built : session.build machine =
      .ok (session.config.toolChain machine session.host) :=
    Config.build_of_valid valid machine session.host
  refine ⟨_, built, session.config.appliedTo_toolChain machine session.host,
    fun platform => ?_, ?_⟩
  · rw [select, built]
  · rw [strategies, built]
    rfl

end Session

variable [Monad m] [LawfulMonad m]

namespace Config

/-- A configuration that is loaded from a file is valid. -/
theorem load_valid (machine : Machine m) (path : Path) :
    Always (load machine path) (IfOk (·.validate = .ok ())) := by
  refine .bind _ fun read => ?_
  cases read with
  | error failure => exact .pure (ifOk_error _)
  | ok text =>
      cases accepted : parse text with
      | error problem =>
          simp only [accepted]
          exact .pure (ifOk_error _)
      | ok config =>
          simp only [accepted]
          exact .pure (ifOk_ok (valid_of_parse accepted))

theorem find_valid (machine : Machine m) (requested : Option Path) :
    Always (find machine requested) (IfOk (·.validate = .ok ())) := by
  cases requested with
  | some path =>
      refine .bind_of (load_valid machine path) fun outcome valid => ?_
      cases outcome with
      | error problem => exact .pure (ifOk_error _)
      | ok config => exact .pure (ifOk_ok (valid config rfl))
  | none =>
      refine .bind _ fun standard => ?_
      cases standard with
      | none => exact .pure (ifOk_ok rfl)
      | some path =>
          refine .bind _ fun present => ?_
          cases present with
          | false => exact .pure (ifOk_ok rfl)
          | true =>
              refine .bind_of (load_valid machine path) fun outcome valid => ?_
              cases outcome with
              | error problem => exact .pure (ifOk_error _)
              | ok config => exact .pure (ifOk_ok (valid config rfl))

end Config

/-- What is given on top of a configuration needs no check. -/
theorem Session.load_serves (machine : Machine m) (host : Host)
    (requested : Option Path) (family : Option Family)
    (directories : List Path) :
    Always (load machine host requested family directories)
      (IfOk (·.Serves machine)) := by
  refine .bind_of (Config.find_valid machine requested)
    fun outcome valid => ?_
  cases outcome with
  | error problem => exact .pure (ifOk_error _)
  | ok config =>
      have overridden : (config.override family directories).validate =
          .ok () := valid config rfl
      exact .pure (ifOk_ok (serves_of_valid overridden machine))

theorem Session.load_of_read {machine : Machine m} {path : Path}
    {text : String} {config : Config}
    (read : machine.readText path = pure (.ok text))
    (accepted : Config.parse text = .ok config) (host : Host)
    (family : Option Family) (directories : List Path) :
    load machine host (some path) family directories =
      pure (.ok ⟨host, config.override family directories⟩) := by
  simp [load, Config.find, Config.load, read, accepted]

namespace Config

/-- Loading a text into a tool chain either fails and changes nothing, or it
applies the whole of a configuration.  Such a configuration can be built on
every machine, and a session that has been loaded never fails to answer. -/
theorem load_all_or_nothing :
    (∀ text : String,
      match parse text with
      | .error problem =>
        ∀ {L : Type} {m : Type → Type} [Locator L m] (chain : ToolChain L),
          (loadInPlace text).on chain = (.error problem, chain)
      | .ok config =>
        (∀ {L : Type} {m : Type → Type} [Locator L m] (chain : ToolChain L),
          ∃ applied, config.apply chain = .ok applied ∧
            (loadInPlace text).on chain = (.ok (), applied) ∧
            config.AppliedTo chain applied) ∧
        ∀ {m : Type → Type} [Monad m] (machine : Machine m) (host : Host),
          ∃ chain, config.build machine host = .ok chain ∧
            config.AppliedTo
              (.onMachine config.toolChainName config.family machine host)
              chain) ∧
    ∀ {m : Type → Type} [Monad m] [LawfulMonad m] (machine : Machine m)
      (host : Host) (requested : Option Path) (family : Option Family)
      (directories : List Path),
      Always (Session.load machine host requested family directories)
        (IfOk (·.Serves machine)) := by
  refine ⟨fun text => ?_, Session.load_serves⟩
  cases accepted : parse text with
  | error problem => exact loadInPlace_of_error accepted
  | ok config =>
      have valid := valid_of_parse accepted
      refine ⟨fun chain => ?_, fun machine host => ?_⟩
      · obtain ⟨applied, once, inPlace, whole⟩ := apply_of_valid valid chain
        exact ⟨applied, once, (loadInPlace_of_ok accepted chain).trans inPlace,
          whole⟩
      · exact ⟨_, build_of_valid valid machine host,
          config.appliedTo_toolChain machine host⟩

/-- What is in a file goes on top of what a tool chain has, and is loaded with
another family and one more directory. -/
theorem load_all_or_nothing_overridden :
    let config : Config :=
      ⟨"", .gcc, [⟨"/opt"⟩], .ofList [("CCOMPILER", "cc")],
        [⟨["pi"], .ofList [("linker", ["-s"])], .empty⟩]⟩
    let text := config.toJson.render
    let machine : Machine Id := FileTree.machine
      ⟨[([['c']], text), ([['o', 'p', 't'], ['c', 'c']], "")], [], [], []⟩
    let chain := (ToolChain.onMachine "board" .gcc machine ⟨.linux⟩).addTarget
      ["tv"] id
    let session : Session :=
      ⟨⟨.linux⟩, config.override (some .clang) [⟨"/more"⟩]⟩
    let platform : Platform := ⟨"pi", .windows, .amd64⟩
    let tool (c other : String) : ToolKind → Tool
      | .cCompiler => ⟨"cc", []⟩
      | .objcCompiler => ⟨c, []⟩
      | .linker => ⟨other, ["-s"]⟩
      | .assembler => ⟨"as", []⟩
      | .staticLibArchiver => ⟨"ar", []⟩
      | _ => ⟨other, []⟩
    parse text = .ok config ∧
      (∃ applied, (loadInPlace text).on chain = (.ok (), applied) ∧
        applied.strategies.map Strategy.display =
          ["platforms named [pi]", "platforms named [tv]",
            "tool chain default architecture", "x86", "x86-64"] ∧
        applied.select platform =
          pure (.available
            ⟨platform, ⟨.ofFunction (tool "gcc" "g++")⟩, true⟩)) ∧
      Session.load machine ⟨.linux⟩ (some ⟨"/c"⟩) (some .clang) [⟨"/more"⟩] =
        pure (.ok session) ∧
      session.strategies machine =
        .ok ["platforms named [pi]", "tool chain default architecture", "x86",
          "x86-64"] ∧
      session.select machine platform =
        pure (.ok (.available
          ⟨platform, ⟨.ofFunction (tool "clang" "clang++")⟩, true⟩)) := by
  intro config text machine chain session platform tool
  have accepted : parse text = .ok config := by
    rw [parse_written, show config.validate = .ok () by decide]
    rfl
  have found : ((config.searchPath machine ⟨.linux⟩).lookUps fun kind =>
      (tool "gcc" "g++" kind).executable).any SearchResult.isFound = true := by
    decide
  have refound : ((session.config.searchPath machine ⟨.linux⟩).lookUps
      fun kind => (tool "clang" "clang++" kind).executable).any
        SearchResult.isFound = true := by
    decide
  -- The text is long: from here on it is any text for the configuration.
  clear_value text
  have loaded := Session.load_of_read
    (show machine.readText ⟨"/c"⟩ = pure (.ok text) from rfl) accepted ⟨.linux⟩
    (some .clang) [⟨"/more"⟩]
  obtain ⟨texts, sessions⟩ := load_all_or_nothing
  have given := texts text
  rw [accepted] at given
  obtain ⟨applied, -, inPlace, whole⟩ := given.1 chain
  have served := Always.of_id
    (sessions machine ⟨.linux⟩ (some ⟨"/c"⟩) (some .clang) [⟨"/more"⟩])
  rw [loaded] at served
  obtain ⟨built, -, overridden, selected, listed⟩ := served session rfl
  cases whole.unique (config.appliedTo_history chain)
  cases overridden.unique (session.config.appliedTo_history _)
  let target : Target := ⟨["pi"], .ofList [("linker", ["-s"])], .empty⟩
  let pi := Strategy.named ["pi"] target.action
  have configured : (config.history.foldl ToolChain.register
      chain).configuredTools pi platform =
        ⟨.ofFunction (tool "gcc" "g++")⟩ :=
    ToolSet.ext_get fun kind => by cases kind <;> rfl
  have reconfigured : (session.config.history.foldl ToolChain.register
      (.onMachine session.config.toolChainName session.config.family machine
        session.host)).configuredTools pi platform =
          ⟨.ofFunction (tool "clang" "clang++")⟩ :=
    ToolSet.ext_get fun kind => by cases kind <;> rfl
  refine ⟨accepted, ⟨_, inPlace, rfl, ?_⟩, loaded, listed, ?_⟩
  · rw [ToolChain.select_of_ofFunction rfl configured]
    exact if_pos found
  · rw [selected, ToolChain.select_of_ofFunction rfl reconfigured]
    exact congrArg Except.ok (if_pos refound)

end Config

end ToolSelect
