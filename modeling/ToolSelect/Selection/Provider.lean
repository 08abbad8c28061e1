import ToolSelect.Platform.Basic
import ToolSelect.Tool.Set

/-!
# Tool providers

The answer to a request for a platform: its tools, or the reasons why there
are none.
-/

namespace ToolSelect

structure PlatformTools where
  platform : Platform
  tools : ToolSet
  supportsCommandFile : Bool
deriving DecidableEq

namespace PlatformTools

def objectFileSuffix (provided : PlatformTools) : String :=
  if provided.platform.operatingSystem.isWindows then ".obj" else ".o"

def display (provided : PlatformTools) : String :=
  "platform: " ++ provided.platform.display ++ "\n" ++
    String.join (provided.tools.entries.map fun entry =>
      entry.1.id ++ ": " ++ entry.2.display ++ "\n") ++
    "object file suffix: " ++ provided.objectFileSuffix ++ "\n" ++
    "command file: " ++
    (if provided.supportsCommandFile then "true" else "false")

end PlatformTools

inductive ToolProvider where
  | available (provided : PlatformTools)
  | unavailable (reasons : List String)
deriving DecidableEq

namespace ToolProvider

def isAvailable : ToolProvider → Bool
  | .available _ => true
  | .unavailable _ => false

def provided? : ToolProvider → Option PlatformTools
  | .available provided => some provided
  | .unavailable _ => none

def reasons : ToolProvider → List String
  | .available _ => []
  | .unavailable reasons => reasons

/-- Why there are no tools, in one text. -/
def message? : ToolProvider → Option String
  | .available _ => none
  | .unavailable reasons => some ("\n".intercalate reasons)

def display : ToolProvider → String
  | .available provided => provided.display
  | .unavailable reasons =>
    "unavailable:" ++ String.join (reasons.map ("\n" ++ ·))

end ToolProvider

end ToolSelect
