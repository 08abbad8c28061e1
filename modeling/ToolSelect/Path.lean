import ToolSelect.Text.Fields

/-!
# Paths

A path is a text read as components between slashes.  Repeated slashes, a dot
after the start and a slash at the end mean nothing, so two spellings are the
same path when their components are equal.
-/

namespace ToolSelect

inductive Component where
  | root
  | here
  | parent
  | named (name : List Char)
deriving DecidableEq, Repr

structure Path where
  text : String
deriving DecidableEq, Repr

namespace Path

def componentOf? (field : List Char) : Option Component :=
  if field = [] ∨ field = ['.'] then none
  else if field = ['.', '.'] then some .parent
  else some (.named field)

/-- The components of a spelling.  A dot counts only as the first field of a
relative path. -/
def componentsOf (text : List Char) : List Component :=
  let fields := Text.fields '/' text
  let start : List Component :=
    if text.head? = some '/' then [.root]
    else if fields.head? = some ['.'] then [.here]
    else []
  start ++ fields.filterMap componentOf?

def components (path : Path) : List Component :=
  componentsOf path.text.toList

def isAbsolute (path : Path) : Bool :=
  path.text.toList.head? == some '/'

def Same (left right : Path) : Prop :=
  left.components = right.components

instance (left right : Path) : Decidable (Same left right) :=
  inferInstanceAs (Decidable (left.components = right.components))

/-- The path of `name` as seen from the directory.  An absolute name stands
for itself. -/
def join (directory : Path) (name : String) : Path :=
  if (Path.mk name).isAbsolute then
    ⟨name⟩
  else if directory.text.toList.getLast?.all (· == '/') then
    ⟨directory.text ++ name⟩
  else
    ⟨directory.text ++ "/" ++ name⟩

/-- The part of a file name behind its last dot.  A name whose only dot comes
first has none. -/
def extensionOf? (name : List Char) : Option (List Char) :=
  let behind := name.reverse.takeWhile (· != '.')
  let before := name.reverse.drop (behind.length + 1)
  if before = [] then none else some behind.reverse

def extension? (path : Path) : Option (List Char) :=
  match path.components.getLast? with
  | some (.named name) => extensionOf? name
  | _ => none

end Path

end ToolSelect
