import ToolSelect.Json.Shape
import ToolSelect.Json.Value
import ToolSelect.Platform.Basic

/-!
# Platforms in JSON

Operating systems and architectures are written by the names that are shown
and read like any name of theirs.  A platform is a record; the architecture
may be missing.
-/

namespace ToolSelect

open Json

namespace OperatingSystem

def reader : Reader OperatingSystem := do
  match ofName? (← Reader.text) with
  | some system => return system
  | none => Reader.raise (.refused blankNameMessage)

def toJson (system : OperatingSystem) : Value :=
  .text system.name

end OperatingSystem

namespace Architecture

def reader : Reader Architecture := do
  return ofName (← Reader.text)

def toJson (architecture : Architecture) : Value :=
  .text architecture.name

end Architecture

namespace Platform

/-- The fields of a platform.  Fields with other names are passed over. -/
def shape : Record Platform where
  title := "struct Platform"
  fields :=
    [⟨"name", true, do
        let name ← Reader.text
        return fun platform => { platform with name }⟩,
      ⟨"operating_system", true, do
        let operatingSystem ← OperatingSystem.reader
        return fun platform => { platform with operatingSystem }⟩,
      ⟨"architecture", false, do
        let architecture ← Architecture.reader
        return fun platform => { platform with architecture }⟩]
  strict := false
  start := ⟨"", .current, .toolChainDefault⟩

def reader : Reader Platform :=
  Reader.record shape

def toJson (platform : Platform) : Value :=
  .object [("name", .text platform.name),
    ("operating_system", platform.operatingSystem.toJson),
    ("architecture", platform.architecture.toJson)]

end Platform

end ToolSelect
