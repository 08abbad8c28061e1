import ToolSelect.Machine.Basic
import ToolSelect.Platform.Host
import ToolSelect.Search.Locator

/-!
# The search path

The directories that are searched for executables, in order and without two
spellings of one path.  A search path without directories of its own searches
those that the machine's path variable lists.
-/

namespace ToolSelect

structure SearchPath (m : Type → Type) where
  machine : Machine m
  host : Host
  directories : List Path

namespace SearchPath

variable {m : Type → Type}

/-- A search path without directories of its own. -/
def ofMachine (machine : Machine m) (host : Host) : SearchPath m :=
  ⟨machine, host, []⟩

/-- The directories with one more at the end, unless it is the same path as one
that is there. -/
def insertLast (directories : List Path) (directory : Path) : List Path :=
  if directories.any (Path.Same · directory) then directories
  else directories ++ [directory]

def addDirectory (search : SearchPath m) (directory : Path) : SearchPath m :=
  { search with directories := insertLast search.directories directory }

/-- The directories that a path variable lists; empty entries are none. -/
def listed (host : Host) (value : String) : List Path :=
  ((Text.fields host.pathSeparator value.toList).filter (!·.isEmpty)).map
    fun entry => ⟨String.ofList entry⟩

/-- The reason why a file that was named by its whole path is not found. -/
def absentReason (kind : ToolKind) (file : String) : String :=
  kind.displayName ++ " '" ++ file ++ "' does not exist."

def unlistedReason (kind : ToolKind) (executable : String) : String :=
  "Could not find " ++ kind.displayName ++ " '" ++ executable ++
    "' in system path."

def missingReason (kind : ToolKind) (executable : String)
    (directories : List Path) : String :=
  "Could not find " ++ kind.displayName ++ " '" ++ executable ++
    "'. Searched in:" ++
    String.join (directories.map fun directory => "\n  - " ++ directory.text)

variable [Monad m]

def systemDirectories (search : SearchPath m) : m (List Path) := do
  match ← search.machine.variableValue "PATH" with
  | some value => return listed search.host value
  | none => return []

/-- The first directory with the file, asked in order and no further. -/
def firstFile (machine : Machine m) (file : String) :
    List Path → m (Option Path)
  | [] => return none
  | directory :: rest => do
    let candidate := directory.join file
    if ← machine.isFile candidate then
      return some candidate
    else
      firstFile machine file rest

/-- The search for the executable of a kind of tool.  An absolute name is only
looked at where it points. -/
def locate (search : SearchPath m) (kind : ToolKind) (executable : String) :
    m SearchResult := do
  let file := search.host.executableName executable
  if (Path.mk file).isAbsolute then
    if ← search.machine.isFile ⟨file⟩ then
      return .found ⟨file⟩
    else
      return .notFound (absentReason kind file)
  else if search.directories.isEmpty then
    match ← firstFile search.machine file (← search.systemDirectories) with
    | some path => return .found path
    | none => return .notFound (unlistedReason kind executable)
  else
    match ← firstFile search.machine file search.directories with
    | some path => return .found path
    | none =>
      return .notFound (missingReason kind executable search.directories)

instance : Locator (SearchPath m) m where
  locate := locate
  addDirectory := addDirectory
  directories := directories

end SearchPath

end ToolSelect
