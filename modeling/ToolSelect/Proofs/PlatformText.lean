import ToolSelect.Platform.Json
import ToolSelect.Proofs.Json.Records
import ToolSelect.Proofs.Json.Written
import ToolSelect.Proofs.NormalNames
import ToolSelect.Proofs.Tables

/-!
# The text of a platform

A platform is written by the names of its operating system and architecture,
and these are read like any name.  What was read from a name once is read from
its own name again, so writing and reading settles after one round.
-/

namespace ToolSelect

open Json

namespace OperatingSystem

def named : List OperatingSystem :=
  [.windows, .macOs, .linux, .freeBsd, .solaris]

theorem ofName?_name_of_named :
    ∀ system ∈ named, ofName? system.name = some system := by
  decide

theorem ofLowerName_cases (name : List Char) :
    ofLowerName name ∈ named ∨
      ofLowerName name = .other (String.ofList name) := by
  rw [ofLowerName]
  cases found : aliases.lookup (String.ofList name) with
  | some system =>
      have listed : ∀ entry ∈ aliases, entry.2 ∈ named := by
        decide
      exact .inl (listed _ (mem_of_lookup found))
  | none =>
      dsimp only
      split
      next => exact .inl (by decide)
      next => exact .inr rfl

theorem ofName?_eq_none_iff {text : String} :
    ofName? text = none ↔ Text.trim text.toList = [] := by
  simp [ofName?, Text.lower, Text.lowerAfter_eq_nil_iff]

/-- A system that a name stands for has a name that stands for it. -/
theorem ofName?_name {text : String} {system : OperatingSystem}
    (known : ofName? text = some system) :
    ofName? system.name = some system := by
  rw [ofName?] at known
  split at known
  next => cases known
  next nonempty =>
    cases known
    rcases ofLowerName_cases (Text.lower (Text.trim text.toList)) with
      listed | other
    · exact ofName?_name_of_named _ listed
    · rw [other, name, ofName?, String.toList_ofList,
        Text.lower_trim_lower_trim, if_neg nonempty, other]

end OperatingSystem

namespace Architecture

def named : List Architecture :=
  [.toolChainDefault, .i386, .amd64]

theorem ofName_name_of_named :
    ∀ architecture ∈ named, ofName architecture.name = architecture := by
  decide

theorem ofLowerName_cases (name : List Char) :
    ofLowerName name ∈ named ∨
      ofLowerName name = .other (String.ofList name) := by
  rw [ofLowerName]
  cases found : aliases.lookup (String.ofList name) with
  | some architecture =>
      have listed : ∀ entry ∈ aliases, entry.2 ∈ named := by
        decide
      exact .inl (listed _ (mem_of_lookup found))
  | none => exact .inr rfl

/-- An architecture that a name stands for has a name that stands for it. -/
theorem ofName_name (text : String) :
    ofName (ofName text).name = ofName text := by
  have read : ofName text =
      ofLowerName (Text.lower (Text.trim text.toList)) := rfl
  rw [read]
  rcases ofLowerName_cases (Text.lower (Text.trim text.toList)) with
    listed | other
  · exact ofName_name_of_named _ listed
  · rw [other, name, ofName, String.toList_ofList, Text.lower_trim_lower_trim,
      other]

end Architecture

def OperatingSystem.ofValue? (value : Value) : Option OperatingSystem :=
  value.text?.bind ofName?

theorem OperatingSystem.recognises : Recognises reader ofValue? := by
  intro value after text shown
  refine .bind (Recognises.text shown) fun name rest shown => ?_
  cases ofName? name with
  | some system => exact .pure system shown
  | none => exact .refused (.raise _ rest)

def Architecture.ofValue? (value : Value) : Option Architecture :=
  value.text?.map ofName

theorem Architecture.recognises : Recognises reader ofValue? :=
  Recognises.text.map ofName

namespace Platform

def change? : String → Value → Option (Platform → Platform)
  | "name", value =>
    value.text?.map fun name platform => { platform with name }
  | "operating_system", value =>
    (OperatingSystem.ofValue? value).map fun operatingSystem platform =>
      { platform with operatingSystem }
  | "architecture", value =>
    (Architecture.ofValue? value).map fun architecture platform =>
      { platform with architecture }
  | _, _ => none

theorem recognises_fields :
    ∀ field ∈ shape.fields, Recognises field.update (change? field.name) := by
  simp only [shape, List.forall_mem_cons]
  refine ⟨Recognises.text.map _, OperatingSystem.recognises.map _, ?_⟩
  exact ⟨Architecture.recognises.map _, nofun⟩

theorem isSpelled_toJson (platform : Platform) : platform.toJson.IsSpelled := by
  refine Value.isSpelled_object ?_
  simp only [List.forall_mem_cons]
  refine ⟨Value.isSpelled_text _, Value.isSpelled_text _, ?_⟩
  exact ⟨Value.isSpelled_text _, nofun⟩

def parts (platform : Platform) : List (String × Value) :=
  [("name", .text platform.name),
    ("operating_system", platform.operatingSystem.toJson),
    ("architecture", platform.architecture.toJson)]

theorem completes_parts (platform : Platform) :
    shape.Completes [] platform.parts where
  known _ member := List.mem_map_of_mem member
  unseen _ _ := List.not_mem_nil
  distinct := show ["name", "operating_system", "architecture"].Nodup by
    decide
  complete _ member _ := .inr (List.mem_map_of_mem member)

/-- The platform with what its names stand for, if they stand for anything. -/
def reread? (platform : Platform) : Option Platform :=
  (OperatingSystem.ofName? platform.operatingSystem.name).map fun system =>
    ⟨platform.name, system, Architecture.ofName platform.architecture.name⟩

theorem fill?_parts (platform : Platform) :
    fill? change? shape.start platform.parts = platform.reread? := by
  have system : change? "operating_system" platform.operatingSystem.toJson =
      (OperatingSystem.ofName? platform.operatingSystem.name).map
        fun operatingSystem platform => { platform with operatingSystem } :=
    rfl
  simp only [parts, reread?, fill?_cons, system]
  cases OperatingSystem.ofName? platform.operatingSystem.name <;> rfl

theorem run_toJson (platform result : Platform) :
    reader.run platform.toJson.render = .ok result ↔
      platform.reread? = some result := by
  have shown : Shows platform.toJson.write (platform.toJson.tokens ++ []) := by
    rw [List.append_nil]
    exact platform.isSpelled_toJson
  have reads := Reads.recordOfObject recognises_fields shown
    platform.completes_parts
  rw [← fill?_parts]
  exact reads.run result

theorem exists_error_run_toJson (platform : Platform) :
    (∃ error, reader.run platform.toJson.render = .error error) ↔
      platform.reread? = none := by
  have readsTo := platform.run_toJson
  cases ran : reader.run platform.toJson.render with
  | ok result => simp [(readsTo result).mp ran]
  | error error =>
      have unread : platform.reread? = none := by
        refine Option.eq_none_iff_forall_ne_some.mpr fun result reread => ?_
        rw [(readsTo result).mpr reread] at ran
        cases ran
      simp [unread]

theorem reread?_of_names {system : OperatingSystem} {systemName : String}
    (known : OperatingSystem.ofName? systemName = some system)
    (name architectureName : String) :
    reread? ⟨name, system, Architecture.ofName architectureName⟩ =
      some ⟨name, system, Architecture.ofName architectureName⟩ := by
  rw [reread?, OperatingSystem.ofName?_name known, Architecture.ofName_name]
  rfl

/-- A platform whose operating system and architecture were read from names is
read from what is written for it.  For any other platform too that is read
where the name of the operating system is not blank: the result has what the
two names stand for, and it stays as it is from then on. -/
theorem run_render_toJson :
    (∀ (name systemName architectureName : String) (system : OperatingSystem),
      OperatingSystem.ofName? systemName = some system →
      let platform : Platform :=
        ⟨name, system, Architecture.ofName architectureName⟩
      reader.run platform.toJson.render = .ok platform) ∧
    ∀ platform : Platform,
      ((∃ error, reader.run platform.toJson.render = .error error) ↔
        Text.trim platform.operatingSystem.name.toList = []) ∧
      (Text.trim platform.operatingSystem.name.toList ≠ [] →
        ∃ system,
          OperatingSystem.ofName? platform.operatingSystem.name =
            some system ∧
          let result : Platform := ⟨platform.name, system,
            Architecture.ofName platform.architecture.name⟩
          reader.run platform.toJson.render = .ok result ∧
            reader.run result.toJson.render = .ok result) := by
  constructor
  · intro name systemName architectureName system known platform
    rw [run_toJson]
    exact reread?_of_names known name architectureName
  · intro platform
    rw [exists_error_run_toJson, reread?, Option.map_eq_none_iff, Ne,
      ← OperatingSystem.ofName?_eq_none_iff]
    refine ⟨Iff.rfl, fun named => ?_⟩
    obtain ⟨system, known⟩ := Option.ne_none_iff_exists'.mp named
    refine ⟨system, known, ?_, ?_⟩
    · rw [run_toJson, reread?, known]
      rfl
    · rw [run_toJson]
      exact reread?_of_names known platform.name platform.architecture.name

/-- A name that ends in a capital sigma and one with a dotted capital stay as
they were read, names with aliases settle on the system that they stand for,
and a blank name cannot be read. -/
theorem run_render_toJson_settled :
    let lowered : Platform :=
      ⟨"a\"b\n", .other "haikς", .other "i\u0307386"⟩
    let capital : Platform := ⟨"p", .other " Mac OS X", .other "AMD64"⟩
    let blank : Platform := ⟨"p", .other "\t ", .amd64⟩
    reader.run lowered.toJson.render = .ok lowered ∧
      reader.run capital.toJson.render = .ok ⟨"p", .macOs, .amd64⟩ ∧
      ∃ error, reader.run blank.toJson.render = .error error := by
  intro lowered capital blank
  obtain ⟨named, every⟩ := run_render_toJson
  refine ⟨?_, ?_, (every blank).1.mpr (by decide)⟩
  · have architecture : Architecture.ofName "İ386" = .other "i\u0307386" := by
      decide
    have system : OperatingSystem.ofName? " HAIKΣ " = some (.other "haikς") := by
      decide +kernel
    have settled := named "a\"b\n" " HAIKΣ " "İ386" (.other "haikς") system
    rwa [architecture] at settled
  · obtain ⟨system, known, read, -⟩ := (every capital).2 (by decide)
    have same : OperatingSystem.ofName? capital.operatingSystem.name =
        some .macOs := by
      decide
    have architecture : Architecture.ofName capital.architecture.name =
        .amd64 := by
      decide
    cases known.symm.trans same
    rw [architecture] at read
    exact read

end Platform

end ToolSelect
