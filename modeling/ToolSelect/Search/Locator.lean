import ToolSelect.Path
import ToolSelect.Tool.Kind

/-!
# Locators

A locator finds the executables of tools.  It searches directories of its own
and can be given more of them.
-/

namespace ToolSelect

inductive SearchResult where
  | found (path : Path)
  | notFound (reason : String)
deriving DecidableEq, Repr

namespace SearchResult

def isFound : SearchResult → Bool
  | .found _ => true
  | .notFound _ => false

def path? : SearchResult → Option Path
  | .found path => some path
  | .notFound _ => none

def reason? : SearchResult → Option String
  | .found _ => none
  | .notFound reason => some reason

end SearchResult

/-- Types whose values find executables, asking in the monad. -/
class Locator (L : Type) (m : outParam (Type → Type)) where
  /-- Searches for the executable of a kind of tool. -/
  locate : L → ToolKind → String → m SearchResult
  addDirectory : L → Path → L
  /-- The directories to search, in order. -/
  directories : L → List Path

end ToolSelect
