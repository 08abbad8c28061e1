import ToolSelect.Path
import ToolSelect.Platform.Basic
import ToolSelect.Text.Ascii

/-!
# The host of a build

The machine that the tools run on.  Its operating system decides how an
executable file is named and how a list of directories is written.
-/

namespace ToolSelect

structure Host where
  operatingSystem : OperatingSystem
deriving DecidableEq, Repr

namespace Host

def current : Host :=
  ⟨.current⟩

def runnableExtensions : List String :=
  ["exe", "com", "bat", "cmd"]

def isRunnable (name : String) : Bool :=
  match (Path.mk name).extension? with
  | some extension =>
    runnableExtensions.any fun known =>
      Text.sameAsciiFold known.toList extension
  | none => false

/-- The file that a tool's name stands for on the host. -/
def executableName (host : Host) (name : String) : String :=
  if host.operatingSystem.isWindows && !isRunnable name then
    name ++ ".exe"
  else
    name

def pathSeparator (host : Host) : Char :=
  if host.operatingSystem.isWindows then ';' else ':'

/-- The host as a target, in the architecture of the tool chain's choice. -/
def platform (host : Host) : Platform :=
  ⟨"current", host.operatingSystem, .toolChainDefault⟩

end Host

end ToolSelect
