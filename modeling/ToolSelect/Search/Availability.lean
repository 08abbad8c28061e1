import ToolSelect.Search.Locator
import ToolSelect.Tool.Set

/-!
# Availability

The reasons why a tool chain cannot be used, in the order in which they were
found.  A tool chain without any is available.
-/

namespace ToolSelect

structure Availability where
  reasons : List String
deriving DecidableEq, Repr

namespace Availability

def new : Availability :=
  ⟨[]⟩

def unavailable (availability : Availability) (reason : String) :
    Availability :=
  ⟨availability.reasons ++ [reason]⟩

def mustBeFound (availability : Availability) (result : SearchResult) :
    Availability :=
  match result.reason? with
  | some reason => availability.unavailable reason
  | none => availability

def isAvailable (availability : Availability) : Bool :=
  availability.reasons.isEmpty

def unconfiguredReason : String :=
  "No " ++ ToolKind.cCompiler.displayName ++
    " is configured for this tool chain."

variable {m : Type → Type} [Monad m] {L : Type} [Locator L m]

/-- The availability after a look for the tools.  Every tool is looked up, and
one that is found is enough.  Otherwise the C compiler is looked up once more
to say what is missing. -/
def probe (availability : Availability) (tools : ToolSet) (locator : L) :
    m Availability := do
  let results ← tools.entries.mapM fun entry =>
    Locator.locate locator entry.1 entry.2.executable
  if results.any SearchResult.isFound then
    return availability
  else
    match tools.get .cCompiler with
    | some tool =>
      return availability.mustBeFound
        (← Locator.locate locator .cCompiler tool.executable)
    | none => return availability.unavailable unconfiguredReason

end Availability

end ToolSelect
