import ToolSelect.Config.Json
import ToolSelect.Proofs.Json.Records
import ToolSelect.Proofs.Json.Written
import ToolSelect.Proofs.Validity

/-!
# The shape of a configuration

The configuration that a value stands for is said here without a reader.  A
text is parsed as a configuration exactly where it spells a value that stands
for this configuration, and the configuration is valid.
-/

namespace ToolSelect

open Json

def Family.ofValue? : Value → Option Family :=
  Value.choice? [("gcc", .gcc), ("clang", .clang)]

theorem Family.recognises : Recognises reader ofValue? :=
  Recognises.choice _

namespace Target

/-- The target that the parts of a record stand for.  Where a part is left out,
the target is as it was. -/
def ofParts? (start : Target) (parts : List (String × Value)) :
    Option Target := do
  let names ← given? (Value.list? Value.text?) start.names "names" parts
  let arguments ← given? (Value.table? (Value.list? Value.text?))
    start.arguments "args" parts
  let executables ← given? (Value.table? Value.text?) start.executables
    "executables" parts
  return { names, arguments, executables }

def ofValue? (value : Value) : Option Target := do
  ofParts? .empty (← value.parts? ["names", "args", "executables"])

def change? : String → Value → Option (Target → Target)
  | "names", value =>
    (value.list? Value.text?).map fun names target => { target with names }
  | "args", value =>
    (value.table? (Value.list? Value.text?)).map fun arguments target =>
      { target with arguments }
  | "executables", value =>
    (value.table? Value.text?).map fun executables target =>
      { target with executables }
  | _, _ => none

theorem fill?_eq_ofParts? {parts : List (String × Value)}
    (known : ∀ part ∈ parts, part.1 ∈ ["names", "args", "executables"])
    (distinct : (parts.map Prod.fst).Nodup) (start : Target) :
    fill? change? start parts = ofParts? start parts := by
  induction parts generalizing start with
  | nil => rfl
  | cons part parts induction =>
      obtain ⟨name, value⟩ := part
      obtain ⟨named, known⟩ := List.forall_mem_cons.mp known
      obtain ⟨fresh, distinct⟩ := List.nodup_cons.mp distinct
      rw [fill?_cons]
      simp only [induction known distinct]
      simp only [List.mem_cons, List.not_mem_nil, or_false] at named
      rcases named with rfl | rfl | rfl
      · cases read : value.list? Value.text? <;>
          simp [change?, ofParts?, read, given?_of_ne, given?_of_not_mem fresh]
      · cases read : value.table? (Value.list? Value.text?) <;>
          simp [change?, ofParts?, read, given?_of_ne, given?_of_not_mem fresh]
      · cases read : value.table? Value.text? <;>
          simp [change?, ofParts?, read, given?_of_ne, given?_of_not_mem fresh]

theorem recognises : Recognises (Reader.record shape) ofValue? := by
  refine Recognises.record_ofParts rfl (by decide) (by decide) ?_
    fun parts known distinct => fill?_eq_ofParts? known distinct .empty
  simp only [shape, List.forall_mem_cons]
  refine ⟨(Recognises.list .text).map _, ?_⟩
  refine ⟨(Recognises.table (.list .text)).map _, ?_⟩
  exact ⟨(Recognises.table .text).map _, nofun⟩

end Target

namespace Config

/-- The configuration that the parts of a record stand for.  Where a part is
left out, the configuration is as it was. -/
def ofParts? (start : Config) (parts : List (String × Value)) :
    Option Config := do
  let name ← given? Value.text? start.name "name" parts
  let family ← given? Family.ofValue? start.family "family" parts
  let directories ← given? (fun value =>
    (value.list? Value.text?).map (·.map Path.mk))
    start.directories "path" parts
  let executables ← given? (Value.table? Value.text?) start.executables
    "executables" parts
  let targets ← given? (Value.list? Target.ofValue?) start.targets "targets"
    parts
  return { name, family, directories, executables, targets }

def ofValue? (value : Value) : Option Config := do
  ofParts? .empty
    (← value.parts? ["name", "family", "path", "executables", "targets"])

def change? : String → Value → Option (Config → Config)
  | "name", value =>
    value.text?.map fun name config => { config with name }
  | "family", value =>
    (Family.ofValue? value).map fun family config => { config with family }
  | "path", value =>
    (value.list? Value.text?).map fun directories config =>
      { config with directories := directories.map Path.mk }
  | "executables", value =>
    (value.table? Value.text?).map fun executables config =>
      { config with executables }
  | "targets", value =>
    (value.list? Target.ofValue?).map fun targets config =>
      { config with targets }
  | _, _ => none

theorem fill?_eq_ofParts? {parts : List (String × Value)}
    (known : ∀ part ∈ parts,
      part.1 ∈ ["name", "family", "path", "executables", "targets"])
    (distinct : (parts.map Prod.fst).Nodup) (start : Config) :
    fill? change? start parts = ofParts? start parts := by
  induction parts generalizing start with
  | nil => rfl
  | cons part parts induction =>
      obtain ⟨name, value⟩ := part
      obtain ⟨named, known⟩ := List.forall_mem_cons.mp known
      obtain ⟨fresh, distinct⟩ := List.nodup_cons.mp distinct
      rw [fill?_cons]
      simp only [induction known distinct]
      simp only [List.mem_cons, List.not_mem_nil, or_false] at named
      rcases named with rfl | rfl | rfl | rfl | rfl
      · cases read : value.text? <;>
          simp [change?, ofParts?, read, given?_of_ne, given?_of_not_mem fresh]
      · cases read : Family.ofValue? value <;>
          simp [change?, ofParts?, read, given?_of_ne, given?_of_not_mem fresh]
      · cases read : value.list? Value.text? <;>
          simp [change?, ofParts?, read, given?_of_ne, given?_of_not_mem fresh]
      · cases read : value.table? Value.text? <;>
          simp [change?, ofParts?, read, given?_of_ne, given?_of_not_mem fresh]
      · cases read : value.list? Target.ofValue? <;>
          simp [change?, ofParts?, read, given?_of_ne, given?_of_not_mem fresh]

theorem recognises : Recognises (Reader.record shape) ofValue? := by
  refine Recognises.record_ofParts rfl (by decide) (by decide) ?_
    fun parts known distinct => fill?_eq_ofParts? known distinct .empty
  simp only [shape, List.forall_mem_cons]
  refine ⟨Recognises.text.map _, Family.recognises.map _, ?_⟩
  refine ⟨(Recognises.list (.textCalled _)).map _, ?_⟩
  refine ⟨(Recognises.table .text).map _, ?_⟩
  exact ⟨(Recognises.list Target.recognises).map _, nofun⟩

/-- A text that spells a value is parsed as a configuration exactly where the
value stands for this configuration, and the configuration is valid. -/
theorem parse_spelled {text : String} {value : Value}
    (spelled : value.SpelledBy text.toList) (config : Config) :
    parse text = .ok config ↔
      ofValue? value = some config ∧ config.IsValid := by
  have shown : Shows text.toList (value.tokens ++ []) := by
    rwa [List.append_nil]
  have read := (recognises shown).run
  rw [String.ofList_toList] at read
  rw [parse, ← validate_eq_ok_iff]
  constructor
  · intro parsed
    split at parsed
    next other success =>
      cases valid : other.validate with
      | ok _ =>
          rw [valid] at parsed
          cases parsed
          exact ⟨(read config).mp success, valid⟩
      | error problem =>
          rw [valid] at parsed
          cases parsed
    next => cases parsed
  · rintro ⟨meant, valid⟩
    rw [(read config).mpr meant]
    dsimp only
    rw [valid]
    rfl

theorem parse_spelled_list :
    parse (" [\"a\",\x7b\"clang\":null\x7d,[]," ++
        "\x7b\"LINKER\":\"x\",\"LINKER\":\"y\"\x7d,[[[\"p\"]]]]") =
      .ok ⟨"a", .clang, [], .ofList [("LINKER", "y")],
        [⟨["p"], .empty, .empty⟩]⟩ := by
  let family : Value := .object [("clang", .null)]
  let executables : Value :=
    .object [("LINKER", .text "x"), ("LINKER", .text "y")]
  let targets : Value := .list [.list [.list [.text "p"]]]
  let value : Value := .list [.text "a", family, .list [], executables, targets]
  have written : value.IsSpelled := by
    have familyWritten : family.IsSpelled :=
      Value.isSpelled_object (by simp [Value.isSpelled_null])
    have executablesWritten : executables.IsSpelled :=
      Value.isSpelled_object (by simp [Value.isSpelled_text])
    have namesWritten : (Value.list [.text "p"]).IsSpelled :=
      Value.isSpelled_list (by simp [Value.isSpelled_text])
    have targetsWritten : targets.IsSpelled := by
      refine Value.isSpelled_list (List.forall_mem_singleton.mpr ?_)
      exact Value.isSpelled_list (List.forall_mem_singleton.mpr namesWritten)
    refine Value.isSpelled_list ?_
    simp [*, Value.isSpelled_text, Value.isSpelled_list]
  refine Iff.mpr (@parse_spelled _ value ?_ _) ⟨by decide, by decide, ?_⟩
  · have spaced : Shows ([' '] ++ value.write) value.tokens :=
      written.blank (by simp [IsBlank])
    exact spaced
  · exact List.forall_mem_singleton.mpr ⟨by decide, by decide, by decide⟩

end Config

end ToolSelect
