import ToolSelect.Machine.Basic

/-!
# Machines held in memory

A machine with a given environment and given files.  A path is looked up from
the root or from the working directory, field by field, and every field but
the last has to lead to a directory.
-/

namespace ToolSelect

inductive FileNode where
  | file (content : String)
  | directory
deriving DecidableEq, Repr

inductive FileProblem where
  | absent
  | notDirectory
  | isDirectory
  | nameTooLong
  | invalidName
deriving DecidableEq, Repr

def FileProblem.message : FileProblem → String
  | .absent => "No such file or directory (os error 2)"
  | .notDirectory => "Not a directory (os error 20)"
  | .isDirectory => "Is a directory (os error 21)"
  | .nameTooLong => "File name too long (os error 36)"
  | .invalidName => "file name contained an unexpected NUL byte"

/-- A place in the tree: the names on the way from the root. -/
abbrev TreePlace := List (List Char)

structure FileTree where
  files : List (TreePlace × String)
  directories : List TreePlace
  environment : List (String × String)
  workingDirectory : TreePlace

namespace FileTree

/-- The place that a text stands for if it leads there by names alone. -/
def placeOf (text : String) : TreePlace :=
  (Text.fields '/' text.toList).filter fun field =>
    !field.isEmpty && field != ['.']

/-- What is at a place.  Whatever lies on the way to something is a
directory. -/
def node? (tree : FileTree) (place : TreePlace) : Option FileNode :=
  match tree.files.lookup place with
  | some content => some (.file content)
  | none =>
    let known :=
      tree.workingDirectory :: tree.directories ++ tree.files.map Prod.fst
    if place.isEmpty || known.any place.isPrefixOf then some .directory
    else none

def byteCount (text : List Char) : Nat :=
  text.foldr (fun c bytes => c.utf8Size + bytes) 0

/-- What the fields of a path lead to from a place. -/
def walk (tree : FileTree) (place : TreePlace) :
    TreePlace → Except FileProblem FileNode
  | [] =>
    match tree.node? place with
    | some node => .ok node
    | none => .error .absent
  | field :: rest =>
    match tree.node? place with
    | some .directory =>
      if field.isEmpty || field = ['.'] then tree.walk place rest
      else if field = ['.', '.'] then tree.walk place.dropLast rest
      else if 255 < byteCount field then .error .nameTooLong
      else tree.walk (place ++ [field]) rest
    | some (.file _) => .error .notDirectory
    | none => .error .absent

def find (tree : FileTree) (path : Path) : Except FileProblem FileNode :=
  let text := path.text.toList
  if text.any (·.toNat == 0) then .error .invalidName
  else if text.isEmpty then .error .absent
  else if 4096 ≤ byteCount text then .error .nameTooLong
  else
    let start := if path.isAbsolute then [] else tree.workingDirectory
    tree.walk start (Text.fields '/' text)

def read (tree : FileTree) (path : Path) : Except FileProblem String := do
  match ← tree.find path with
  | .file content => return content
  | .directory => throw .isDirectory

def variableValue (tree : FileTree) (name : String) : Option String :=
  tree.environment.lookup name

end FileTree

def FileTree.machine (tree : FileTree) : Machine Id where
  variableValue name := tree.variableValue name
  readText path :=
    match tree.read path with
    | .ok content => .ok content
    | .error problem => .error (.ofFile path problem.message)
  isPresent path :=
    match tree.find path with
    | .ok _ => true
    | .error _ => false
  isDirectory path :=
    match tree.find path with
    | .ok .directory => true
    | _ => false
  configDirectory :=
    configDirectoryOf (tree.variableValue "XDG_CONFIG_HOME")
      (tree.variableValue "HOME")

end ToolSelect
