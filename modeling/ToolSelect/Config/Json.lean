import ToolSelect.Config.Basic
import ToolSelect.Tool.Json

/-!
# Configurations in JSON

A configuration is a record whose fields may all be missing, and so is each of
its targets.  Fields with other names are refused.
-/

namespace ToolSelect

open Json

def Table.toJson {α : Type} (table : Table α) (value : α → Value) : Value :=
  .object (table.entries.map fun entry => (entry.1, value entry.2))

def textsToJson (texts : List String) : Value :=
  .list (texts.map .text)

namespace Target

def shape : Record Target where
  title := "struct TargetConfig"
  fields :=
    [⟨"names", false, do
        let names ← Reader.list Reader.text
        return fun target => { target with names }⟩,
      ⟨"args", false, do
        let arguments ← Reader.table (Reader.list Reader.text)
        return fun target => { target with arguments }⟩,
      ⟨"executables", false, do
        let executables ← Reader.table Reader.text
        return fun target => { target with executables }⟩]
  strict := true
  start := .empty

def toJson (target : Target) : Value :=
  .object [("names", textsToJson target.names),
    ("args", target.arguments.toJson textsToJson),
    ("executables", target.executables.toJson .text)]

end Target

namespace Config

def shape : Record Config where
  title := "struct ToolChainConfig"
  fields :=
    [⟨"name", false, do
        let name ← Reader.text
        return fun config => { config with name }⟩,
      ⟨"family", false, do
        let family ← Family.reader
        return fun config => { config with family }⟩,
      ⟨"path", false, do
        let directories ← Reader.list (Reader.textCalled "path string")
        return fun config =>
          { config with directories := directories.map Path.mk }⟩,
      ⟨"executables", false, do
        let executables ← Reader.table Reader.text
        return fun config => { config with executables }⟩,
      ⟨"targets", false, do
        let targets ← Reader.list (Reader.record Target.shape)
        return fun config => { config with targets }⟩]
  strict := true
  start := .empty

def toJson (config : Config) : Value :=
  .object [("name", .text config.name),
    ("family", config.family.toJson),
    ("path", textsToJson (config.directories.map Path.text)),
    ("executables", config.executables.toJson .text),
    ("targets", .list (config.targets.map Target.toJson))]

/-- The valid configuration that a text stands for. -/
def parse (text : String) : Except ConfigProblem Config := do
  match (Reader.record shape).run text with
  | .ok config =>
    config.validate
    return config
  | .error error => throw (.unreadable error)

end Config

end ToolSelect
