import ToolSelect.Json.Error
import ToolSelect.Path
import ToolSelect.Table
import ToolSelect.Tool.Family
import ToolSelect.Tool.KindMap

/-!
# Configurations

What a user can say about a tool chain: its name and family, the directories of
its tools, and the platforms it builds for.  Kinds of tools are given by their
identifiers, in any case of the letters; a valid configuration has no others.
-/

namespace ToolSelect

/-- Platforms that are built alike, with the arguments and executables that
differ from the defaults, by the identifier of the kind of tool. -/
structure Target where
  names : List String
  arguments : Table (List String)
  executables : Table String
deriving DecidableEq

structure Config where
  name : String
  family : Family
  directories : List Path
  executables : Table String
  targets : List Target
deriving DecidableEq

inductive ConfigProblem where
  | unreadable (error : Json.Error)
  | unknownKind (identifier : String)
  | namelessTarget
deriving DecidableEq

def ToolKind.unknownMessage (identifier : String) : String :=
  "Unknown tool kind: " ++ identifier ++ ". Expected one of: " ++
    ", ".intercalate (ToolKind.all.map ToolKind.id)

def ConfigProblem.causes : ConfigProblem → List String
  | .unreadable error =>
    ["Failed to parse tool chain configuration", error.message]
  | .unknownKind identifier => [ToolKind.unknownMessage identifier]
  | .namelessTarget => ["Every target must name at least one platform."]

/-- The values of a table under the kinds of tools that its keys name.  Of two
spellings of one kind the later one in the order of the table counts. -/
def KindMap.ofEntries {α : Type} (map : KindMap α) :
    List (String × α) → Except ConfigProblem (KindMap α)
  | [] => .ok map
  | (identifier, value) :: rest =>
    match ToolKind.ofId? identifier with
    | some kind => (map.insert kind value).ofEntries rest
    | none => .error (.unknownKind identifier)

@[inherit_doc KindMap.ofEntries]
def KindMap.ofTable {α : Type} (table : Table α) :
    Except ConfigProblem (KindMap α) :=
  KindMap.empty.ofEntries table.entries

namespace Target

def empty : Target :=
  ⟨[], .empty, .empty⟩

def validate (target : Target) : Except ConfigProblem Unit := do
  if target.names.isEmpty then
    throw .namelessTarget
  discard (KindMap.ofTable target.arguments)
  discard (KindMap.ofTable target.executables)

end Target

namespace Config

def empty : Config :=
  ⟨"", .standard, [], .empty, []⟩

def validate (config : Config) : Except ConfigProblem Unit := do
  discard (KindMap.ofTable config.executables)
  config.targets.forM Target.validate

def toolChainName (config : Config) : String :=
  if config.name.isEmpty then config.family.id else config.name

end Config

end ToolSelect
