import ToolSelect.Proofs.ConfiguredSelection

/-!
# The arguments of a configured target

What becomes of the arguments that a configuration lists for a target.  Keys
that are spelled differently can name one kind of tool, and then only the
arguments under the last of them reach the tool.
-/

namespace ToolSelect

namespace Config

theorem run_select {σ : Type} {config : Config}
    {machine : Machine (StateM σ)} {host : Host} {platform : Platform}
    {tool : ToolKind → Tool}
    (configured : config.toolsFor? host platform = some tool) {before : σ}
    {looked : List SearchResult × σ}
    (looks : ((config.searchPath machine host).lookUps fun kind =>
      (tool kind).executable).run before = looked) :
    ((config.toolChain machine host).select platform).run before =
      (if looked.1.any SearchResult.isFound then
        .available ⟨platform, ⟨.ofFunction tool⟩, true⟩
      else
        .unavailable (looked.1.getLast?.bind SearchResult.reason?).toList,
        looked.2) := by
  rw [select_toolChain, configured]
  dsimp only
  rw [StateT.run_bind, looks]
  change (if looked.1.any SearchResult.isFound then _ else _ :
    StateM σ ToolProvider).run looked.2 = _
  split <;> rfl

/-- A request is granted with the tools of the configuration or not at all,
whatever state the machine is in. -/
theorem tools_of_granted {σ : Type} {config : Config}
    {machine : Machine (StateM σ)} {host : Host} {platform : Platform}
    {tool : ToolKind → Tool}
    (configured : config.toolsFor? host platform = some tool)
    {before after : σ} {provided : PlatformTools}
    (granted : ((config.toolChain machine host).select platform).run before =
      (.available provided, after)) :
    provided.tools = ⟨.ofFunction tool⟩ := by
  rw [run_select configured rfl] at granted
  have answer := congrArg Prod.fst granted
  dsimp only at answer
  split at answer
  · cases answer
    rfl
  · cases answer

/-- The tool of a kind gets the arguments under the last key that names the
kind.  What is listed under another key reaches it if and only if it is part
of these. -/
theorem arguments_of_target {σ : Type} {text : String} {config : Config}
    (accepted : parse text = .ok config) {machine : Machine (StateM σ)}
    {host : Host} {chain : ToolChain (SearchPath (StateM σ))}
    (built : config.build machine host = .ok chain) {platform : Platform}
    {target : Target} (resolved : config.targetFor? platform = some target)
    {before after : σ} {provided : PlatformTools}
    (granted :
      (chain.select platform).run before = (.available provided, after))
    {key : String} {arguments : List String}
    (listed : (key, arguments) ∈ target.arguments.entries) :
    ∃ kind last, kind.IsNamedBy key ∧
      target.arguments.IsLastFor kind last ∧
      provided.tools.arguments kind = last.2 ∧
      (arguments <:+: provided.tools.arguments kind ↔
        arguments <:+: last.2) := by
  have valid := valid_of_parse accepted
  rw [build_of_valid valid] at built
  obtain rfl := Except.ok.inj built
  have member : target ∈ config.targets :=
    (List.mem_filter.mp (List.mem_of_getLast? resolved)).1
  have targetValid := (parts_of_valid valid).2 target member
  obtain ⟨-, byKind, -⟩ := Target.tables_of_valid targetValid
  obtain ⟨kind, named⟩ := KindMap.named_of_ofEntries byKind _ listed
  obtain ⟨last, isLast, value⟩ := Table.exists_isLastFor listed named
  have configured : config.toolsFor? host platform = some fun kind =>
      ⟨(target.executables.valueFor? kind).getD (config.executableFor kind),
        (target.arguments.valueFor? kind).getD []⟩ := by
    rw [toolsFor?, resolved]
  have given : provided.tools.arguments kind = last.2 := by
    rw [tools_of_granted configured granted]
    simp [ToolSet.arguments, ToolSet.get, KindMap.ofFunction, value]
  refine ⟨kind, last, named, isLast, given, ?_⟩
  rw [given]

/-- An argument under a first spelling of a kind is lost to an empty list under
a second one. -/
theorem arguments_of_target_respelled :
    let target : Target :=
      ⟨["p"], .ofList [("CCOMPILER", ["-a"]), ("cCompiler", [])], .empty⟩
    let config : Config := ⟨"", .gcc, [⟨"/bin"⟩], .empty, [target]⟩
    let machine : Machine (StateM Unit) :=
      ⟨fun _ => pure none, fun path => pure (.error (.ofFile path "")),
        fun _ => pure true, fun _ => pure false, pure none⟩
    parse config.toJson.render = .ok config ∧
      ("CCOMPILER", ["-a"]) ∈ target.arguments.entries ∧
      ∃ chain provided, config.build machine ⟨.linux⟩ = .ok chain ∧
        (chain.select ⟨"p", .linux, .toolChainDefault⟩).run () =
          (.available provided, ()) ∧
        ToolKind.cCompiler.IsNamedBy "CCOMPILER" ∧
        ¬["-a"] <:+: provided.tools.arguments .cCompiler := by
  intro target config machine
  have valid : config.validate = .ok () := by decide
  have accepted : parse config.toJson.render = .ok config := by
    rw [parse_written, valid]
    rfl
  have listed : ("CCOMPILER", ["-a"]) ∈ target.arguments.entries := by
    decide
  have configured : config.toolsFor? ⟨.linux⟩
      ⟨"p", .linux, .toolChainDefault⟩ =
        some fun kind => ⟨Family.gcc.defaultExecutable kind, []⟩ := by
    refine congrArg some (funext fun kind => ?_)
    cases kind <;> rfl
  have granted : ((config.toolChain machine ⟨.linux⟩).select
      ⟨"p", .linux, .toolChainDefault⟩).run () = _ :=
    run_select configured rfl
  rw [if_pos (by decide)] at granted
  have built := build_of_valid valid machine ⟨.linux⟩
  refine ⟨accepted, listed, _, _, built, granted, by decide, ?_⟩
  obtain ⟨kind, last, named, isLast, given, kept⟩ :=
    arguments_of_target accepted built rfl granted listed
  obtain rfl : kind = .cCompiler := named.unique (by decide)
  rw [kept, ← given]
  decide

end Config

end ToolSelect
