import ToolSelect.Selection.Strategy

/-!
# The registry of strategies

The strategies of a tool chain in the order in which they are tried.  There is
one list: it starts with the built-in strategies, and every strategy that is
registered goes in front.
-/

namespace ToolSelect

/-- Strategies in the order in which they are tried. -/
structure Registry where
  strategies : List Strategy

namespace Registry

def new : Registry :=
  ⟨Strategy.builtIns⟩

def register (registry : Registry) (strategy : Strategy) : Registry :=
  ⟨strategy :: registry.strategies⟩

def find? (registry : Registry) (platform : Platform) (host : Host) :
    Option Strategy :=
  registry.strategies.find? (·.buildsFor platform host)

@[simp]
theorem strategies_register (registry : Registry) (strategy : Strategy) :
    (registry.register strategy).strategies =
      strategy :: registry.strategies :=
  rfl

end Registry

end ToolSelect
