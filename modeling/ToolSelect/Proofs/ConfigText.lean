import ToolSelect.Proofs.ConfigShape
import ToolSelect.Proofs.Json.Written
import ToolSelect.Proofs.Tables

/-!
# The text of a configuration

The value of a configuration stands for the configuration, and is spelled by
its compact text.  Parsing that text then only adds the check of the
configuration.
-/

namespace ToolSelect

open Json

section Meanings

variable {α : Type} {meaning : Value → Option α} {write : α → Value}

private theorem list?_map {values : List α}
    (meant : ∀ value ∈ values, meaning (write value) = some value) :
    (Value.list (values.map write)).list? meaning = some values := by
  rw [Value.list?]
  induction values with
  | nil => rfl
  | cons value values induction =>
      obtain ⟨first, others⟩ := List.forall_mem_cons.mp meant
      rw [List.map_cons, List.mapM_cons, first, induction others]
      rfl

private theorem table?_toJson {table : Table α}
    (meant : ∀ entry ∈ table.entries, meaning (write entry.2) = some entry.2) :
    (table.toJson write).table? meaning = some table := by
  have filled : ∀ (entries : List (String × α)) (start : Table α),
      (∀ entry ∈ entries, meaning (write entry.2) = some entry.2) →
      (entries.map fun entry => (entry.1, write entry.2)).foldlM
        (fun table field => return table.insert field.1 (← meaning field.2))
        start =
      some (entries.foldl (fun table entry => table.insert entry.1 entry.2)
        start) := by
    intro entries start meant
    induction entries generalizing start with
    | nil => rfl
    | cons entry entries induction =>
        obtain ⟨first, others⟩ := List.forall_mem_cons.mp meant
        rw [List.map_cons, List.foldlM_cons, first]
        exact induction _ others
  rw [Table.toJson, Value.table?, filled _ _ meant]
  exact congrArg some table.ofList_entries

end Meanings

private theorem texts_ofValue? (texts : List String) :
    (textsToJson texts).list? Value.text? = some texts :=
  list?_map fun _ _ => rfl

private theorem isSpelled_texts (texts : List String) :
    (textsToJson texts).IsSpelled := by
  refine Value.isSpelled_list fun item member => ?_
  obtain ⟨text, -, rfl⟩ := List.mem_map.mp member
  exact Value.isSpelled_text text

private theorem isSpelled_table {α : Type} {write : α → Value}
    (spelled : ∀ value, (write value).IsSpelled) (table : Table α) :
    (table.toJson write).IsSpelled := by
  refine Value.isSpelled_object fun field member => ?_
  obtain ⟨entry, -, rfl⟩ := List.mem_map.mp member
  exact spelled entry.2

namespace Target

theorem ofValue?_toJson (target : Target) :
    ofValue? target.toJson = some target := by
  have arguments : (target.arguments.toJson textsToJson).table?
      (Value.list? Value.text?) = some target.arguments :=
    table?_toJson fun entry _ => texts_ofValue? entry.2
  have executables : (target.executables.toJson .text).table? Value.text? =
      some target.executables :=
    table?_toJson fun _ _ => rfl
  simp [ofValue?, ofParts?, toJson, Value.parts?, given?_of_ne,
    texts_ofValue?, arguments, executables]

theorem isSpelled_toJson (target : Target) : target.toJson.IsSpelled := by
  refine Value.isSpelled_object ?_
  simp only [List.forall_mem_cons]
  refine ⟨isSpelled_texts _, isSpelled_table isSpelled_texts _, ?_⟩
  exact ⟨isSpelled_table Value.isSpelled_text _, nofun⟩

end Target

namespace Config

theorem ofValue?_toJson (config : Config) :
    ofValue? config.toJson = some config := by
  have family : Family.ofValue? config.family.toJson = some config.family := by
    cases config.family <;> rfl
  have spelled : (config.directories.map Path.text).map Path.mk =
      config.directories := by
    rw [List.map_map]
    exact List.map_id config.directories
  have executables : (config.executables.toJson .text).table? Value.text? =
      some config.executables :=
    table?_toJson fun _ _ => rfl
  have targets : (Value.list (config.targets.map Target.toJson)).list?
      Target.ofValue? = some config.targets :=
    list?_map fun target _ => target.ofValue?_toJson
  simp [ofValue?, ofParts?, toJson, Value.parts?, given?_of_ne,
    texts_ofValue?, family, spelled, executables, targets, Value.text?]

theorem isSpelled_toJson (config : Config) : config.toJson.IsSpelled := by
  refine Value.isSpelled_object ?_
  simp only [List.forall_mem_cons]
  refine ⟨Value.isSpelled_text _, Value.isSpelled_text _, isSpelled_texts _, ?_⟩
  refine ⟨isSpelled_table Value.isSpelled_text _, ?_, nofun⟩
  refine Value.isSpelled_list fun value member => ?_
  obtain ⟨target, -, rfl⟩ := List.mem_map.mp member
  exact target.isSpelled_toJson

theorem parse_written (config : Config) :
    parse config.toJson.render =
      (do config.validate; return config) := by
  have shown : Shows config.toJson.write (config.toJson.tokens ++ []) := by
    rw [List.append_nil]
    exact config.isSpelled_toJson
  have read : (Reader.record shape).run config.toJson.render = .ok config :=
    ((recognises shown).run config).mpr config.ofValue?_toJson
  rw [parse, read]

/-- What is written for a configuration is parsed as that configuration where
it is valid, and fails with the problem of the configuration where it is not.
So whatever parsing once gave, it gives again from what is written for it. -/
theorem parse_render_toJson :
    (∀ config : Config, parse config.toJson.render =
      match config.validate with
      | .ok () => .ok config
      | .error problem => .error problem) ∧
    ∀ (text : String) (config : Config), parse text = .ok config →
      parse config.toJson.render = .ok config := by
  constructor
  · intro config
    rw [parse_written]
    cases config.validate with
    | ok _ => rfl
    | error problem => rfl
  · intro text config parsed
    rw [parse_written, valid_of_parse parsed]
    rfl

end Config

end ToolSelect
