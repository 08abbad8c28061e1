import ToolSelect.Proofs.AppendedArguments
import ToolSelect.Proofs.Probing

/-!
# Runs of edits

What a tool set comes to after any run of edits.  Every edit treats each kind
of tool by itself: what becomes of a tool depends on that tool alone.  A run
therefore leaves under a kind what those of its steps that address the kind
make of it.
-/

namespace ToolSelect

/-- An edit of the tools that are there.  Only a new executable can add one. -/
inductive ToolEdit where
  | setExecutable (kind : ToolKind) (executable : String)
  | editArguments (kind : ToolKind) (edit : List String → List String)
  | extend (application : ArgumentSource.Application)

namespace ToolEdit

def run (tools : ToolSet) : ToolEdit → ToolSet
  | .setExecutable kind executable => tools.setExecutable kind executable
  | .editArguments kind edit => tools.editArguments kind edit
  | .extend application => application.on tools

/-- Whether the edit is one of the kind, or of all kinds. -/
def addresses (kind : ToolKind) : ToolEdit → Bool
  | .setExecutable other _ | .editArguments other _ => other == kind
  | .extend _ => true

def runOnTool (kind : ToolKind) (tool? : Option Tool) :
    ToolEdit → Option Tool
  | .setExecutable other executable =>
    if other = kind then
      some ⟨executable, (tool?.map Tool.arguments).getD []⟩
    else
      tool?
  | .editArguments other edit =>
    if other = kind then
      tool?.map fun tool => { tool with arguments := edit tool.arguments }
    else
      tool?
  | .extend application => tool?.map (·.append (application.arguments kind))

/-- What becomes of a tool depends on that tool alone. -/
theorem get_run (edit : ToolEdit) (tools : ToolSet) (kind : ToolKind) :
    (edit.run tools).get kind = edit.runOnTool kind (tools.get kind) := by
  cases edit with
  | setExecutable other executable =>
      rw [run, ToolSet.get_setExecutable, runOnTool]
      by_cases same : other = kind
      · subst same
        rfl
      · rw [if_neg (Ne.symm same), if_neg same]
  | editArguments other edit =>
      rw [run, ToolSet.get_editArguments, runOnTool]
      by_cases same : other = kind
      · subst same
        rfl
      · rw [if_neg (Ne.symm same), if_neg same]
  | extend application => exact application.appends tools kind

theorem runOnTool_of_unaddressed {edit : ToolEdit} {kind : ToolKind}
    (unaddressed : edit.addresses kind = false) (tool? : Option Tool) :
    edit.runOnTool kind tool? = tool? := by
  cases edit with
  | setExecutable other executable =>
      exact if_neg (by simpa [addresses] using unaddressed)
  | editArguments other edit =>
      exact if_neg (by simpa [addresses] using unaddressed)
  | extend application => cases unaddressed

end ToolEdit

/-- A step in the making of a tool set: an edit, or a new start without tools
or with those of a family. -/
inductive ToolStep where
  | inPlace (edit : ToolEdit)
  | clear
  | restart (family : Family)

namespace ToolStep

def run (tools : ToolSet) : ToolStep → ToolSet
  | .inPlace edit => edit.run tools
  | .clear => .empty
  | .restart family => .ofFamily family

def addresses (kind : ToolKind) : ToolStep → Bool
  | .inPlace edit => edit.addresses kind
  | .clear | .restart _ => true

def runOnTool (kind : ToolKind) (tool? : Option Tool) :
    ToolStep → Option Tool
  | .inPlace edit => edit.runOnTool kind tool?
  | .clear => none
  | .restart family => some (.ofExecutable (family.defaultExecutable kind))

theorem get_run (step : ToolStep) (tools : ToolSet) (kind : ToolKind) :
    (step.run tools).get kind = step.runOnTool kind (tools.get kind) := by
  cases step with
  | inPlace edit => exact edit.get_run tools kind
  | clear => rfl
  | restart family => rfl

theorem runOnTool_of_unaddressed {step : ToolStep} {kind : ToolKind}
    (unaddressed : step.addresses kind = false) (tool? : Option Tool) :
    step.runOnTool kind tool? = tool? := by
  cases step with
  | inPlace edit => exact ToolEdit.runOnTool_of_unaddressed unaddressed tool?
  | clear => cases unaddressed
  | restart family => cases unaddressed

/-- A run goes through the steps for each kind by itself. -/
theorem get_foldl_run (steps : List ToolStep) (tools : ToolSet)
    (kind : ToolKind) :
    (steps.foldl run tools).get kind =
      steps.foldl (runOnTool kind) (tools.get kind) := by
  induction steps generalizing tools with
  | nil => rfl
  | cons step steps induction =>
      rw [List.foldl_cons, List.foldl_cons, induction, get_run]

/-- Steps that do not address the kind can be left out. -/
theorem foldl_runOnTool_filter (steps : List ToolStep) (kind : ToolKind)
    (tool? : Option Tool) :
    (steps.filter (·.addresses kind)).foldl (runOnTool kind) tool? =
      steps.foldl (runOnTool kind) tool? := by
  induction steps generalizing tool? with
  | nil => rfl
  | cons step steps induction =>
      rw [List.filter_cons]
      cases addressed : step.addresses kind with
      | true => exact induction _
      | false =>
          rw [if_neg Bool.false_ne_true, induction, List.foldl_cons,
            runOnTool_of_unaddressed addressed]

end ToolStep

namespace ToolSet

theorem map_fst_entries (tools : ToolSet) :
    tools.entries.map Prod.fst = tools.kinds := by
  rw [entries, KindMap.entries_eq, List.map_filterMap, kinds, KindMap.kinds_eq,
    ← List.filterMap_eq_filter]
  refine congrArg (List.filterMap · ToolKind.all) (funext fun kind => ?_)
  cases present : tools.tools.get kind <;> simp [Option.guard, present]

theorem arguments_setExecutable (tools : ToolSet) (kind : ToolKind)
    (executable : String) (other : ToolKind) :
    (tools.setExecutable kind executable).arguments other =
      tools.arguments other := by
  rw [arguments, get_setExecutable]
  by_cases same : other = kind
  · rw [if_pos same, same]
    rfl
  · rw [if_neg same]
    rfl

theorem executable_editArguments (tools : ToolSet) (kind : ToolKind)
    (edit : List String → List String) (other : ToolKind) :
    ((tools.editArguments kind edit).get other).map Tool.executable =
      (tools.get other).map Tool.executable := by
  rw [get_editArguments]
  by_cases same : other = kind
  · rw [if_pos same, Option.map_map, same]
    rfl
  · rw [if_neg same]

def ofSteps (steps : List ToolStep) : ToolSet :=
  steps.foldl ToolStep.run .empty

/-- The tools that a run of steps leaves are listed by their kinds, each once
and in the order of the kinds.  What is left under a kind is what the steps
that address the kind leave there without the others.  A new executable leaves
all arguments as they are, an edit of arguments all executables, and it adds no
tool; and no step changes what it does not address. -/
theorem ofSteps_by_kind :
    (∀ steps : List ToolStep,
      let tools := ofSteps steps
      tools.entries.map Prod.fst =
        ToolKind.all.filter (fun kind => (tools.get kind).isSome) ∧
      (tools.entries.map Prod.fst).Nodup ∧
      (∀ kind tool, (kind, tool) ∈ tools.entries ↔
        tools.get kind = some tool) ∧
      ∀ kind, tools.get kind =
        (ofSteps (steps.filter (·.addresses kind))).get kind) ∧
    ∀ tools : ToolSet,
      (∀ kind executable other,
        (tools.setExecutable kind executable).arguments other =
          tools.arguments other) ∧
      (∀ kind edit other,
        ((tools.editArguments kind edit).get other).map Tool.executable =
          (tools.get other).map Tool.executable) ∧
      (∀ (application : ArgumentSource.Application) other,
        ((application.on tools).get other).map Tool.executable =
          (tools.get other).map Tool.executable) ∧
      ∀ (step : ToolStep) kind, step.addresses kind = false →
        (step.run tools).get kind = tools.get kind := by
  refine ⟨fun steps => ?_, fun tools => ⟨tools.arguments_setExecutable,
    tools.executable_editArguments,
    fun application => application.appends.executable_eq tools, ?_⟩⟩
  · refine ⟨(map_fst_entries _).trans (KindMap.kinds_eq _), ?_, mem_entries _,
      fun kind => ?_⟩
    · rw [map_fst_entries]
      exact nodup_kinds _
    · rw [ofSteps, ofSteps, ToolStep.get_foldl_run, ToolStep.get_foldl_run,
        ToolStep.foldl_runOnTool_filter]
  · intro step kind unaddressed
    rw [step.get_run, ToolStep.runOnTool_of_unaddressed unaddressed]

/-- Arguments come too early for a linker, those of the one that a family brings
go with it, and flags come too early for the last one.  The assembler keeps its
arguments under another executable. -/
theorem ofSteps_by_kind_cleared :
    let flags : ArgumentSource.Application :=
      ⟨ArchitectureFlags.i386.source, ⟨.linux⟩⟩
    let steps : List ToolStep :=
      [.inPlace (.editArguments .linker (· ++ ["-s"])), .restart .clang,
        .inPlace (.editArguments .linker (· ++ ["-g"])), .clear,
        .inPlace (.setExecutable .assembler "nasm"), .inPlace (.extend flags),
        .inPlace (.setExecutable .linker "ld"),
        .inPlace (.editArguments .assembler ("-k" :: ·)),
        .inPlace (.setExecutable .assembler "yasm")]
    let tools := ofSteps steps
    let linkerSteps := steps.filter (·.addresses .linker)
    linkerSteps.length = 6 ∧
      tools.get .linker = (ofSteps linkerSteps).get .linker ∧
      tools.get .linker = some ⟨"ld", []⟩ ∧
      tools.get .assembler = some ⟨"yasm", ["-k", "--32"]⟩ ∧
      tools.entries.map Prod.fst = [.linker, .assembler] ∧
      ((ToolStep.inPlace (.setExecutable .linker "gold")).run tools).get
        .assembler = tools.get .assembler := by
  intro flags steps tools linkerSteps
  obtain ⟨runs, edits⟩ := ofSteps_by_kind
  obtain ⟨listed, -, -, alone⟩ := runs steps
  obtain ⟨-, -, -, kept⟩ := edits tools
  refine ⟨rfl, alone .linker, ?_, ?_, ?_, kept _ .assembler rfl⟩
  · rw [show tools.get .linker = _ from alone .linker]
    rfl
  · decide
  · rw [show tools.entries.map Prod.fst = _ from listed]
    decide

end ToolSet

end ToolSelect
