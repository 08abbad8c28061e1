import ToolSelect.Path

/-!
# The machine

What can be asked of the machine that a program runs on: the variables of its
environment, its files, and where its user keeps configurations.  The answers
come in a monad of the caller's choice.
-/

namespace ToolSelect

/-- Why a file could not be read, the outermost cause first. -/
structure ReadFailure where
  causes : List String
deriving DecidableEq, Repr

def ReadFailure.ofFile (path : Path) (reason : String) : ReadFailure :=
  ⟨["Failed to read file " ++ path.text, reason]⟩

/-- The questions to a machine. -/
structure Machine (m : Type → Type) where
  /-- The value of an environment variable. -/
  variableValue : String → m (Option String)
  readText : Path → m (Except ReadFailure String)
  /-- Whether anything is found under the path. -/
  isPresent : Path → m Bool
  isDirectory : Path → m Bool
  /-- The directory of the user's configurations. -/
  configDirectory : m (Option Path)

/-- The directory of a user's configurations: the one that the environment
names by an absolute path, or else the hidden one in the home directory. -/
def configDirectoryOf (configHome home : Option String) : Option Path :=
  match configHome.filter fun text => (Path.mk text).isAbsolute with
  | some directory => some ⟨directory⟩
  | none =>
    (home.filter fun text => !text.isEmpty).map fun directory =>
      (Path.mk directory).join ".config"

namespace Machine

variable {m : Type → Type} [Monad m]

/-- Whether something other than a directory is found under the path.  Nothing
more is asked about a path where nothing is found. -/
def isFile (machine : Machine m) (path : Path) : m Bool := do
  if ← machine.isPresent path then
    return !(← machine.isDirectory path)
  else
    return false

end Machine

end ToolSelect
