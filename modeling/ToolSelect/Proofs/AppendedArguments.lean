import ToolSelect.Proofs.ToolEdits

/-!
# Appended arguments

Edits of a tool set that append arguments to the tools that are there, and do
nothing else.  To apply a source of arguments is such an edit.  Such edits one
after the other append their lists in that order, and those that append to
different kinds of tools can change places.
-/

namespace ToolSelect

namespace ToolSet

/-- The edit appends these arguments to the tool of every kind that is there,
and makes no other change. -/
def Appends (edit : ToolSet → ToolSet) (extra : ToolKind → List String) :
    Prop :=
  ∀ tools kind,
    (edit tools).get kind = (tools.get kind).map (·.append (extra kind))

namespace Appends

variable {edit next : ToolSet → ToolSet}
  {extra more : ToolKind → List String}

theorem kinds_eq (appends : Appends edit extra) (tools : ToolSet) :
    (edit tools).kinds = tools.kinds := by
  have present : ∀ kind,
      ((edit tools).get kind).isSome = (tools.get kind).isSome := by
    intro kind
    rw [appends, Option.isSome_map]
  exact List.filter_congr fun kind _ => present kind

theorem executable_eq (appends : Appends edit extra) (tools : ToolSet)
    (kind : ToolKind) :
    ((edit tools).get kind).map Tool.executable =
      (tools.get kind).map Tool.executable := by
  rw [appends, Option.map_map]
  rfl

theorem get_of_present (appends : Appends edit extra) {tools : ToolSet}
    {kind : ToolKind} {tool : Tool} (present : tools.get kind = some tool) :
    (edit tools).get kind =
      some ⟨tool.executable, tool.arguments ++ extra kind⟩ := by
  rw [appends, present]
  rfl

theorem refl : Appends id fun _ => [] := by
  intro tools kind
  simp

theorem editArguments (kind : ToolKind) (arguments : List String) :
    Appends (·.editArguments kind (· ++ arguments)) fun other =>
      if other = kind then arguments else [] := by
  intro tools other
  by_cases same : other = kind
  · subst same
    simp [Tool.append]
  · simp [same]

theorem andThen (appends : Appends edit extra)
    (appendsNext : Appends next more) :
    Appends (fun tools => next (edit tools)) fun kind =>
      extra kind ++ more kind := by
  intro tools kind
  rw [appendsNext, appends, Option.map_map]
  refine congrArg (Option.map · _) (funext fun tool => ?_)
  exact tool.append_append (extra kind) (more kind)

theorem foldl {α : Type} {edit : α → ToolSet → ToolSet}
    {extra : α → ToolKind → List String} {items : List α}
    (appends : ∀ item ∈ items, Appends (edit item) (extra item)) :
    Appends (fun tools => items.foldl (fun tools item => edit item tools) tools)
      fun kind => items.flatMap (extra · kind) := by
  induction items with
  | nil => exact refl
  | cons item items induction =>
      obtain ⟨first, rest⟩ := List.forall_mem_cons.mp appends
      exact first.andThen (induction rest)

/-- Edits that append to different kinds can change places. -/
theorem comm (appends : Appends edit extra) (appendsNext : Appends next more)
    (apart : ∀ kind, extra kind = [] ∨ more kind = []) (tools : ToolSet) :
    next (edit tools) = edit (next tools) := by
  refine ext_get fun kind => ?_
  rw [appends.andThen appendsNext tools kind,
    appendsNext.andThen appends tools kind]
  rcases apart kind with none | none
  · simp [none]
  · simp [none]

end Appends

end ToolSet

namespace ArgumentSource

theorem appends_apply (source : ArgumentSource) (host : Host) :
    ToolSet.Appends (source.apply · host) (source.argumentsFor · host) :=
  fun tools kind => source.get_apply tools host kind

structure Application where
  source : ArgumentSource
  host : Host

namespace Application

def on (application : Application) (tools : ToolSet) : ToolSet :=
  application.source.apply tools application.host

def arguments (application : Application) (kind : ToolKind) : List String :=
  application.source.argumentsFor kind application.host

def Apart (left right : Application) : Prop :=
  ∀ kind, left.arguments kind = [] ∨ right.arguments kind = []

theorem Apart.symm {left right : Application} (apart : left.Apart right) :
    right.Apart left :=
  fun kind => (apart kind).symm

theorem appends (application : Application) :
    ToolSet.Appends application.on application.arguments :=
  application.source.appends_apply application.host

theorem Apart.comm {left right : Application} (apart : left.Apart right)
    (tools : ToolSet) : right.on (left.on tools) = left.on (right.on tools) :=
  left.appends.comm right.appends apart tools

/-- Applications no two of which share a kind can be made in any order. -/
theorem foldl_perm {first second : List Application}
    (apart : first.Pairwise Apart) (same : first.Perm second)
    (tools : ToolSet) :
    first.foldl (fun tools application => application.on tools) tools =
      second.foldl (fun tools application => application.on tools) tools := by
  -- Only where two neighbours change places is there anything to show.
  induction same generalizing tools with
  | nil => rfl
  | cons application _ induction =>
      exact induction (List.pairwise_cons.mp apart).2 _
  | swap left right rest =>
      have apart : right.Apart left :=
        (List.pairwise_cons.mp apart).1 left (List.mem_cons_self ..)
      rw [List.foldl_cons, List.foldl_cons, List.foldl_cons, List.foldl_cons,
        apart.comm]
  | trans permuted _ firstInduction secondInduction =>
      have reordered := (permuted.pairwise_iff Apart.symm).mp apart
      exact (firstInduction apart tools).trans
        (secondInduction reordered tools)

end Application

/-- To apply a source leaves the kinds and the executables of the tools as they
are, and puts its arguments for each kind behind those of the tool.  What it
has for other kinds changes nothing.  One source after the other appends what
they have in that order, and sources without a kind in common can be applied in
any order. -/
theorem apply_appends :
    (∀ (source : ArgumentSource) (tools : ToolSet) (host : Host),
      let applied := source.apply tools host
      applied.kinds = tools.kinds ∧
      (∀ kind tool, tools.get kind = some tool →
        applied.get kind =
          some ⟨tool.executable,
            tool.arguments ++ source.argumentsFor kind host⟩) ∧
      ∀ other : ArgumentSource,
        (∀ kind ∈ tools.kinds,
          other.argumentsFor kind host = source.argumentsFor kind host) →
        other.apply tools host = applied) ∧
    (∀ (applications : List Application) (tools : ToolSet),
      let applied :=
        applications.foldl (fun tools application => application.on tools) tools
      applied.kinds = tools.kinds ∧
      ∀ kind tool, tools.get kind = some tool →
        applied.get kind =
          some ⟨tool.executable,
            tool.arguments ++ applications.flatMap (·.arguments kind)⟩) ∧
    (∀ left right : Application, left.Apart right → ∀ tools,
      right.on (left.on tools) = left.on (right.on tools)) ∧
    ∀ first second : List Application, first.Pairwise Application.Apart →
      first.Perm second → ∀ tools,
        first.foldl (fun tools application => application.on tools) tools =
          second.foldl (fun tools application => application.on tools)
            tools := by
  refine ⟨fun source tools host => ?_, fun applications tools => ?_,
    fun left right apart => apart.comm,
    fun first second apart same => Application.foldl_perm apart same⟩
  · have appends := source.appends_apply host
    refine ⟨appends.kinds_eq tools, fun kind tool => appends.get_of_present,
      fun other agree => ToolSet.ext_get fun kind => ?_⟩
    rw [get_apply, get_apply]
    cases present : tools.get kind with
    | none => rfl
    | some tool =>
        have member : kind ∈ tools.kinds := by
          rw [ToolSet.mem_kinds, present]
          rfl
        rw [agree kind member]
  · have appends : ToolSet.Appends (fun tools : ToolSet =>
        applications.foldl (fun tools application => application.on tools)
          tools) fun kind => applications.flatMap (·.arguments kind) :=
      .foldl fun application _ => application.appends
    exact ⟨appends.kinds_eq tools, fun kind tool => appends.get_of_present⟩

/-- Flags for a compiler and an assembler of macOS go behind what is there, and
arguments for a linker that is not there go nowhere. -/
theorem apply_appends_partial :
    let tools := ((ToolSet.empty.setExecutable .cCompiler "cc").setExecutable
      .assembler "as").editArguments .cCompiler (· ++ ["-g"])
    let flags : Application := ⟨ArchitectureFlags.amd64.source, ⟨.macOs⟩⟩
    let compiler : Application :=
      ⟨ofKindMap (KindMap.empty.insert .cCompiler ["-c"]), ⟨.linux⟩⟩
    let assembler : Application :=
      ⟨ofKindMap (KindMap.empty.insert .assembler ["-k"]), ⟨.linux⟩⟩
    let linker := KindMap.empty.insert .linker ["-s"]
    let both := ofKindMap (linker.insert .cCompiler ["-c"])
    (flags.on tools).get .assembler = some ⟨"as", ["-arch", "x86_64"]⟩ ∧
      (flags.on tools).get .linker = none ∧
      both.apply tools ⟨.linux⟩ = compiler.on tools ∧
      (compiler.on (flags.on tools)).get .cCompiler =
        some ⟨"cc", ["-g", "-m64", "-c"]⟩ ∧
      assembler.on (compiler.on tools) = compiler.on (assembler.on tools) := by
  intro tools flags compiler assembler linker both
  obtain ⟨single, sequence, commutes, -⟩ := apply_appends
  have apart : compiler.Apart assembler := by
    intro kind
    cases kind <;> decide
  obtain ⟨flagKinds, flagged, -⟩ := single flags.source tools flags.host
  obtain ⟨-, -, ignored⟩ := single compiler.source tools compiler.host
  have absent : ToolKind.linker ∉ (flags.on tools).kinds := by
    rw [show (flags.on tools).kinds = _ from flagKinds]
    decide
  refine ⟨flagged .assembler _ rfl, ?_, ignored both ?_, ?_,
    commutes compiler assembler apart tools⟩
  · rw [ToolSet.mem_kinds, Option.not_isSome_iff_eq_none] at absent
    exact absent
  · intro kind member
    cases kind with
    | linker => exact absurd member (by decide)
    | _ => rfl
  · exact (sequence [flags, compiler] tools).2 .cCompiler _ rfl

end ArgumentSource

end ToolSelect
