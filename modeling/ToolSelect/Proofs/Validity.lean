import ToolSelect.Config.Json
import ToolSelect.Config.Registrations
import ToolSelect.Proofs.History
import ToolSelect.Proofs.KindNames
import ToolSelect.Proofs.Results
import ToolSelect.Proofs.ToolEdits

/-!
# Valid configurations

A configuration that is read is valid, and the registrations that a valid
configuration stands for are given by the tables of its kinds.
-/

namespace ToolSelect

namespace KindMap

theorem ofTable_of_discard {α : Type} {table : Table α}
    (valid : discard (ofTable table) = .ok ()) :
    ofTable table = .ok table.byKind := by
  obtain ⟨map, success⟩ := discard_eq_ok.mp valid
  rw [success, eq_byKind_of_ofTable success]

end KindMap

namespace Target

/-- A valid target names a platform, and its tables know all their kinds. -/
theorem tables_of_valid {target : Target} (valid : target.validate = .ok ()) :
    target.names ≠ [] ∧
      KindMap.ofTable target.arguments = .ok target.arguments.byKind ∧
      KindMap.ofTable target.executables = .ok target.executables.byKind := by
  unfold validate at valid
  split at valid
  next => cases valid
  next named =>
    obtain ⟨_, arguments, executables⟩ := bind_eq_ok.mp valid
    exact ⟨fun empty => named (by rw [empty]; rfl),
      KindMap.ofTable_of_discard arguments,
      KindMap.ofTable_of_discard executables⟩

/-- The target names a platform, and its tables have no keys but those of
kinds of tools. -/
structure IsValid (target : Target) : Prop where
  named : target.names ≠ []
  arguments : target.arguments.NamesKinds
  executables : target.executables.NamesKinds

theorem validate_eq_ok_iff {target : Target} :
    target.validate = .ok () ↔ target.IsValid := by
  constructor
  · intro valid
    obtain ⟨named, arguments, executables⟩ := tables_of_valid valid
    exact ⟨named, KindMap.exists_ofTable_iff.mp ⟨_, arguments⟩,
      KindMap.exists_ofTable_iff.mp ⟨_, executables⟩⟩
  · rintro ⟨named, arguments, executables⟩
    rw [validate, if_neg (by simpa using named)]
    refine bind_eq_ok.mpr ⟨(), ?_, ?_⟩
    · exact discard_eq_ok.mpr (KindMap.exists_ofTable_iff.mpr arguments)
    · exact discard_eq_ok.mpr (KindMap.exists_ofTable_iff.mpr executables)

/-- What a target does to tools.  Its executable for a kind is put in the place
of that of the tool, or is a tool of its own where there is none, and its
arguments go behind those of the tool.  A kind that it does not name keeps its
tool. -/
def action (target : Target) (tools : ToolSet) : ToolSet :=
  ⟨⟨fun kind =>
    let extra := (target.arguments.valueFor? kind).getD []
    match target.executables.valueFor? kind, tools.get kind with
    | some executable, some tool => some ⟨executable, tool.arguments ++ extra⟩
    | some executable, none => some ⟨executable, extra⟩
    | none, some tool => some ⟨tool.executable, tool.arguments ++ extra⟩
    | none, none => none⟩⟩

theorem overrideTools_eq_action (target : Target) (host : Host) :
    overrideTools target.executables.byKind target.arguments.byKind host =
      target.action := by
  funext tools
  exact ToolSet.ext_get (get_overrideTools _ _ host tools)

theorem registration_of_valid {target : Target}
    (valid : target.validate = .ok ()) (host : Host) :
    target.registration host = .ok (.target target.names target.action) := by
  obtain ⟨-, arguments, executables⟩ := tables_of_valid valid
  rw [← target.overrideTools_eq_action host, registration, arguments,
    executables]
  rfl

end Target

namespace Config

theorem valid_of_parse {text : String} {config : Config}
    (accepted : parse text = .ok config) : config.validate = .ok () := by
  unfold parse at accepted
  split at accepted
  next read _ =>
    obtain ⟨⟨⟩, valid, same⟩ := bind_eq_ok.mp accepted
    cases same
    exact valid
  next => cases accepted

theorem parts_of_valid {config : Config} (valid : config.validate = .ok ()) :
    KindMap.ofTable config.executables = .ok config.executables.byKind ∧
      ∀ target ∈ config.targets, target.validate = .ok () := by
  obtain ⟨_, executables, targets⟩ := bind_eq_ok.mp valid
  exact ⟨KindMap.ofTable_of_discard executables, forM_eq_ok.mp targets⟩

/-- The tables of the configuration and of its targets have no keys but those
of kinds of tools, and every target names a platform. -/
structure IsValid (config : Config) : Prop where
  executables : config.executables.NamesKinds
  targets : ∀ target ∈ config.targets, target.IsValid

theorem validate_eq_ok_iff {config : Config} :
    config.validate = .ok () ↔ config.IsValid := by
  constructor
  · intro valid
    obtain ⟨executables, targets⟩ := parts_of_valid valid
    exact ⟨KindMap.exists_ofTable_iff.mp ⟨_, executables⟩,
      fun target member => Target.validate_eq_ok_iff.mp (targets target member)⟩
  · rintro ⟨executables, targets⟩
    refine bind_eq_ok.mpr ⟨(), ?_, forM_eq_ok.mpr fun target member => ?_⟩
    · exact discard_eq_ok.mpr (KindMap.exists_ofTable_iff.mpr executables)
    · exact Target.validate_eq_ok_iff.mpr (targets target member)

/-- What a configuration stands for: its directories, its targets, and its
default executables. -/
def history (config : Config) : History :=
  .searchIn config.directories ::
    config.targets.map (fun target => .target target.names target.action) ++
    config.executables.byKind.entries.map fun entry =>
      .defaultExecutable entry.1 entry.2

/-- No step of a valid configuration fails. -/
theorem registrations_of_valid {config : Config}
    (valid : config.validate = .ok ()) (host : Host) :
    config.registrations host = .ok config.history := by
  obtain ⟨executables, targets⟩ := parts_of_valid valid
  rw [registrations, executables, mapM_eq_ok fun target member =>
    target.registration_of_valid (targets target member) host]
  rfl

end Config

end ToolSelect
