import ToolSelect.Config.Registrations

/-!
# Edits of tool sets, kind by kind

An edit that goes through the kinds of a tool set one after the other leaves
under each kind what it does to that kind alone.
-/

namespace ToolSelect

def Tool.append (tool : Tool) (extra : List String) : Tool :=
  { tool with arguments := tool.arguments ++ extra }

@[simp]
theorem Tool.append_nil (tool : Tool) : tool.append [] = tool := by
  simp [Tool.append]

@[simp]
theorem Tool.append_append (tool : Tool) (first second : List String) :
    (tool.append first).append second = tool.append (first ++ second) := by
  simp [Tool.append]

theorem ToolSet.nodup_kinds (set : ToolSet) : set.kinds.Nodup := by
  rw [kinds, KindMap.kinds_eq]
  exact ToolKind.nodup_all.filter _

theorem ToolSet.mem_kinds (set : ToolSet) (kind : ToolKind) :
    kind ∈ set.kinds ↔ (set.get kind).isSome = true :=
  KindMap.mem_kinds set.tools kind

/-- The tools with arguments for their kinds behind those they have. -/
def ToolSet.appended (tools : ToolSet) (extra : ToolKind → List String) :
    ToolSet :=
  ⟨⟨fun kind => (tools.get kind).map (·.append (extra kind))⟩⟩

namespace ArgumentSource

theorem get_extend (source : ArgumentSource) (host : Host) (tools : ToolSet)
    (kind other : ToolKind) :
    (source.extend host tools kind).get other =
      if other = kind then
        (tools.get kind).map (·.append (source.argumentsFor kind host))
      else
        tools.get other := by
  unfold extend
  by_cases none : source.argumentsFor kind host = []
  · by_cases same : other = kind <;> simp [none, same]
  · simp only [List.isEmpty_iff, none, if_false, ToolSet.get_editArguments]
    rfl

private theorem get_foldl_extend (source : ArgumentSource) (host : Host)
    {kinds : List ToolKind} (nodup : kinds.Nodup) (tools : ToolSet)
    (kind : ToolKind) :
    (kinds.foldl (source.extend host) tools).get kind =
      if kind ∈ kinds then
        (tools.get kind).map (·.append (source.argumentsFor kind host))
      else
        tools.get kind := by
  induction kinds generalizing tools with
  | nil => simp
  | cons first kinds induction =>
      obtain ⟨fresh, nodup⟩ := List.nodup_cons.mp nodup
      rw [List.foldl_cons, induction nodup, get_extend]
      by_cases same : kind = first
      · subst same
        simp [fresh]
      · simp [same]

/-- Applying a source appends its arguments to every tool that is there. -/
theorem get_apply (source : ArgumentSource) (tools : ToolSet) (host : Host)
    (kind : ToolKind) :
    (source.apply tools host).get kind =
      (tools.get kind).map (·.append (source.argumentsFor kind host)) := by
  rw [apply, get_foldl_extend source host tools.nodup_kinds]
  split
  next => rfl
  next absent =>
    rw [ToolSet.mem_kinds, Option.not_isSome_iff_eq_none] at absent
    rw [absent, Option.map_none]

theorem apply_eq (source : ArgumentSource) (tools : ToolSet) (host : Host) :
    source.apply tools host = tools.appended (source.argumentsFor · host) :=
  ToolSet.ext_get (source.get_apply tools host)

end ArgumentSource

namespace ToolSet

private theorem get_foldl_setExecutable (executables : KindMap String)
    (kinds : List ToolKind) (tools : ToolSet) (kind : ToolKind) :
    ((kinds.filterMap fun each => (executables.get each).map (each, ·)).foldl
        (fun tools entry => tools.setExecutable entry.1 entry.2) tools).get
        kind =
      match executables.get kind with
      | some executable =>
        if kind ∈ kinds then some ⟨executable, tools.arguments kind⟩
        else tools.get kind
      | none => tools.get kind := by
  induction kinds generalizing tools with
  | nil => cases executables.get kind <;> rfl
  | cons first kinds induction =>
      cases given : executables.get first with
      | none =>
          rw [List.filterMap_cons_none (by simp [given]), induction]
          cases wanted : executables.get kind with
          | none => rfl
          | some executable =>
              have different : kind ≠ first := by
                rintro rfl
                simp [given] at wanted
              simp [different]
      | some executable =>
          rw [List.filterMap_cons_some (by rw [given, Option.map_some]),
            List.foldl_cons, induction]
          by_cases same : kind = first
          · subst same
            simp [given, arguments]
          · simp [same, arguments]

/-- A map of executables replaces those of the kinds that it knows; the
arguments stay. -/
theorem get_foldl_entries (executables : KindMap String) (tools : ToolSet)
    (kind : ToolKind) :
    (executables.entries.foldl
        (fun tools entry => tools.setExecutable entry.1 entry.2) tools).get
        kind =
      match executables.get kind with
      | some executable => some ⟨executable, tools.arguments kind⟩
      | none => tools.get kind := by
  rw [KindMap.entries_eq, get_foldl_setExecutable]
  simp

end ToolSet

/-- An executable is put in the place of that of the tool, or is a tool of its
own where there is none.  The arguments go behind those of the tool. -/
theorem get_overrideTools (executables : KindMap String)
    (arguments : KindMap (List String)) (host : Host) (tools : ToolSet)
    (kind : ToolKind) :
    (overrideTools executables arguments host tools).get kind =
      match executables.get kind, tools.get kind with
      | some executable, some tool =>
        some ⟨executable, tool.arguments ++ (arguments.get kind).getD []⟩
      | some executable, none =>
        some ⟨executable, (arguments.get kind).getD []⟩
      | none, some tool =>
        some ⟨tool.executable,
          tool.arguments ++ (arguments.get kind).getD []⟩
      | none, none => none := by
  rw [overrideTools, ArgumentSource.get_apply, ToolSet.get_foldl_entries]
  cases executables.get kind with
  | none =>
      cases present : tools.get kind with
      | none => rfl
      | some tool => rfl
  | some executable =>
      cases present : tools.get kind <;>
        simp [ToolSet.arguments, present, Tool.append, ArgumentSource.ofKindMap]

end ToolSelect
