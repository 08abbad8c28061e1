import ToolSelect.Tool.Family
import ToolSelect.Tool.KindMap

/-!
# Tool sets

The tools that build for one platform: for each kind at most one executable
with the arguments it is called with.
-/

namespace ToolSelect

structure Tool where
  executable : String
  arguments : List String
deriving DecidableEq, Repr

namespace Tool

def ofExecutable (executable : String) : Tool :=
  ⟨executable, []⟩

def display (tool : Tool) : String :=
  tool.arguments.foldl (fun line argument => line ++ " " ++ argument)
    tool.executable

end Tool

/-- At most one tool for each kind. -/
@[ext]
structure ToolSet where
  tools : KindMap Tool
deriving DecidableEq

namespace ToolSet

def empty : ToolSet :=
  ⟨.empty⟩

def ofFamily (family : Family) : ToolSet :=
  ⟨.ofFunction fun kind => .ofExecutable (family.defaultExecutable kind)⟩

def get (set : ToolSet) (kind : ToolKind) : Option Tool :=
  set.tools.get kind

def kinds (set : ToolSet) : List ToolKind :=
  set.tools.kinds

def entries (set : ToolSet) : List (ToolKind × Tool) :=
  set.tools.entries

/-- The arguments of the kind; a missing tool has none. -/
def arguments (set : ToolSet) (kind : ToolKind) : List String :=
  ((set.get kind).map Tool.arguments).getD []

/-- The set with another executable for the kind.  The arguments stay, and a
missing tool is added without any. -/
def setExecutable (set : ToolSet) (kind : ToolKind) (executable : String) :
    ToolSet :=
  ⟨set.tools.insert kind ⟨executable, set.arguments kind⟩⟩

/-- The set with the arguments of the kind edited; a missing tool stays
missing. -/
def editArguments (set : ToolSet) (kind : ToolKind)
    (edit : List String → List String) : ToolSet :=
  ⟨set.tools.alter kind
    (·.map fun tool => { tool with arguments := edit tool.arguments })⟩

theorem ext_get {left right : ToolSet}
    (same : ∀ kind, left.get kind = right.get kind) : left = right :=
  ToolSet.ext (KindMap.ext (funext same))

@[simp]
theorem get_setExecutable (set : ToolSet) (kind other : ToolKind)
    (executable : String) :
    (set.setExecutable kind executable).get other =
      if other = kind then some ⟨executable, set.arguments kind⟩
      else set.get other :=
  rfl

@[simp]
theorem get_editArguments (set : ToolSet) (kind other : ToolKind)
    (edit : List String → List String) :
    (set.editArguments kind edit).get other =
      if other = kind then
        (set.get kind).map fun tool =>
          { tool with arguments := edit tool.arguments }
      else
        set.get other :=
  rfl

end ToolSet

end ToolSelect
