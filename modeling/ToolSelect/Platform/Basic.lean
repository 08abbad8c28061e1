import ToolSelect.Platform.Architecture
import ToolSelect.Platform.OperatingSystem

/-!
# Platforms

What a program is built for: an operating system and an architecture under a
name of the user's choice.
-/

namespace ToolSelect

structure Platform where
  name : String
  operatingSystem : OperatingSystem
  architecture : Architecture
deriving DecidableEq, Repr

namespace Platform

def display (platform : Platform) : String :=
  platform.name ++ " (" ++ platform.operatingSystem.name ++ ", " ++
    platform.architecture.name ++ ")"

end Platform

end ToolSelect
