import ToolSelect.Tool.Kind

/-!
# Values by kind of tool

A partial assignment of values to the kinds of tools.  Two assignments that
agree on every kind are equal, and the entries are listed in the order in which
the kinds are declared.
-/

namespace ToolSelect

@[ext]
structure KindMap (α : Type) where
  get : ToolKind → Option α

namespace KindMap

variable {α : Type}

def empty : KindMap α :=
  ⟨fun _ => none⟩

def ofFunction (value : ToolKind → α) : KindMap α :=
  ⟨fun kind => some (value kind)⟩

def alter (map : KindMap α) (kind : ToolKind)
    (change : Option α → Option α) : KindMap α :=
  ⟨fun other => if other = kind then change (map.get kind) else map.get other⟩

def insert (map : KindMap α) (kind : ToolKind) (value : α) : KindMap α :=
  map.alter kind fun _ => some value

def kinds (map : KindMap α) : List ToolKind :=
  ToolKind.declared.filter fun kind => (map.get kind).isSome

def entries (map : KindMap α) : List (ToolKind × α) :=
  ToolKind.declared.filterMap fun kind => (map.get kind).map (kind, ·)

theorem kinds_eq (map : KindMap α) :
    map.kinds = ToolKind.all.filter fun kind => (map.get kind).isSome := by
  rw [kinds, ToolKind.declared_eq_all]

theorem entries_eq (map : KindMap α) :
    map.entries =
      ToolKind.all.filterMap fun kind => (map.get kind).map (kind, ·) := by
  rw [entries, ToolKind.declared_eq_all]

@[simp]
theorem get_empty (kind : ToolKind) : (empty : KindMap α).get kind = none :=
  rfl

@[simp]
theorem get_insert (map : KindMap α) (kind other : ToolKind) (value : α) :
    (map.insert kind value).get other =
      if other = kind then some value else map.get other :=
  rfl

@[simp]
theorem mem_kinds (map : KindMap α) (kind : ToolKind) :
    kind ∈ map.kinds ↔ (map.get kind).isSome = true := by
  simp [kinds_eq]

instance [DecidableEq α] : DecidableEq (KindMap α) := fun left right =>
  if agree : ∀ kind ∈ ToolKind.all, left.get kind = right.get kind then
    .isTrue (KindMap.ext (funext fun kind => agree kind (ToolKind.mem_all kind)))
  else
    .isFalse fun equal => agree fun _ _ => by rw [equal]

end KindMap

end ToolSelect
