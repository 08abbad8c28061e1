import ToolSelect.Config.Basic

/-!
# Keys that name kinds of tools

A key names a kind of tool if it is the identifier of the kind in some case of
its letters.  No key names two kinds, but one kind can have several keys in a
table; the last of them in the order of the table gives its value.
-/

namespace ToolSelect

namespace ToolKind

/-- The key is the identifier of the kind, but for the case of ASCII
letters. -/
def IsNamedBy (kind : ToolKind) (key : String) : Prop :=
  Text.asciiLower kind.id.toList = Text.asciiLower key.toList

instance (kind : ToolKind) (key : String) : Decidable (kind.IsNamedBy key) :=
  inferInstanceAs (Decidable
    (Text.asciiLower kind.id.toList = Text.asciiLower key.toList))

instance (key : String) : Decidable (∃ kind : ToolKind, kind.IsNamedBy key) :=
  decidable_of_iff (∃ kind ∈ all, kind.IsNamedBy key) (by simp)

private theorem eq_of_asciiLower_id :
    ∀ left ∈ all, ∀ right ∈ all,
      Text.asciiLower left.id.toList = Text.asciiLower right.id.toList →
        left = right := by
  decide

theorem IsNamedBy.unique {left right : ToolKind} {key : String}
    (leftNamed : left.IsNamedBy key) (rightNamed : right.IsNamedBy key) :
    left = right :=
  eq_of_asciiLower_id left (mem_all left) right (mem_all right)
    (leftNamed.trans rightNamed.symm)

theorem ofId?_eq_some_iff {kind : ToolKind} {key : String} :
    ofId? key = some kind ↔ kind.IsNamedBy key := by
  have foundNamed : ∀ {other}, ofId? key = some other →
      other.IsNamedBy key := by
    intro other found
    have holds : Text.sameAsciiFold other.id.toList key.toList = true := by
      simpa using List.find?_some found
    exact (Text.sameAsciiFold_eq_true_iff _ _).mp holds
  constructor
  · exact foundNamed
  · intro named
    cases found : ofId? key with
    | none =>
        have refused := List.find?_eq_none.mp found kind (mem_all kind)
        exact absurd ((Text.sameAsciiFold_eq_true_iff _ _).mpr named) refused
    | some other =>
        rw [(foundNamed found).unique named]

end ToolKind

namespace Table

variable {α : Type}

/-- The entries whose keys name the kind, in the order of the table. -/
def spellings (table : Table α) (kind : ToolKind) : List (String × α) :=
  table.entries.filter fun entry => kind.IsNamedBy entry.1

/-- The value that the table gives the kind, under the last of its keys. -/
def valueFor? (table : Table α) (kind : ToolKind) : Option α :=
  (table.spellings kind).getLast?.map Prod.snd

def byKind (table : Table α) : KindMap α :=
  ⟨table.valueFor?⟩

/-- Every key of the table names a kind of tool. -/
def NamesKinds (table : Table α) : Prop :=
  ∀ entry ∈ table.entries, ∃ kind : ToolKind, kind.IsNamedBy entry.1

instance (table : Table α) : Decidable table.NamesKinds :=
  inferInstanceAs (Decidable
    (∀ entry ∈ table.entries, ∃ kind : ToolKind, kind.IsNamedBy entry.1))

theorem mem_spellings {table : Table α} {kind : ToolKind}
    {entry : String × α} :
    entry ∈ table.spellings kind ↔
      entry ∈ table.entries ∧ kind.IsNamedBy entry.1 := by
  simp [spellings]

/-- The entry of the last key that names the kind. -/
def IsLastFor (table : Table α) (kind : ToolKind) (entry : String × α) :
    Prop :=
  entry ∈ table.entries ∧ kind.IsNamedBy entry.1 ∧
    ∀ other ∈ table.entries, kind.IsNamedBy other.1 → other.1 ≤ entry.1

/-- A kind with a key has a last one, and its value counts. -/
theorem exists_isLastFor {table : Table α} {kind : ToolKind}
    {entry : String × α} (listed : entry ∈ table.entries)
    (named : kind.IsNamedBy entry.1) :
    ∃ last, table.IsLastFor kind last ∧
      table.valueFor? kind = some last.2 := by
  have sorted : (table.spellings kind).Pairwise
      fun left right => left.1 < right.1 :=
    table.sorted.filter _
  cases spelled : (table.spellings kind).getLast? with
  | none =>
      rw [List.getLast?_eq_none_iff] at spelled
      have member := mem_spellings.mpr ⟨listed, named⟩
      rw [spelled] at member
      cases member
  | some last =>
      refine ⟨last, ?_, by rw [valueFor?, spelled, Option.map_some]⟩
      obtain ⟨earlier, split⟩ := List.getLast?_eq_some_iff.mp spelled
      have lastMember : last ∈ table.spellings kind := by simp [split]
      obtain ⟨lastListed, lastNamed⟩ := mem_spellings.mp lastMember
      refine ⟨lastListed, lastNamed, ?_⟩
      intro other otherListed otherNamed
      have otherMember := mem_spellings.mpr ⟨otherListed, otherNamed⟩
      rw [split] at otherMember sorted
      rcases List.mem_append.mp otherMember with before | same
      · have ahead := (List.pairwise_append.mp sorted).2.2 other before last
          (List.mem_singleton_self last)
        exact String.not_lt.mp (String.lt_asymm ahead)
      · obtain rfl := List.mem_singleton.mp same
        exact String.le_refl _

end Table

namespace KindMap

variable {α : Type}

private theorem getLast?_map_cons_or {β : Type} (read : β → α) (first : β)
    (rest : List β) (before : Option α) :
    ((first :: rest).getLast?.map read).or before =
      (rest.getLast?.map read).or (some (read first)) := by
  rw [List.getLast?_cons]
  cases rest.getLast? <;> rfl

/-- What a list of entries leaves under a kind: the value of the last entry
that names it, or what was there before. -/
theorem get_of_ofEntries {entries : List (String × α)}
    {map result : KindMap α} (success : map.ofEntries entries = .ok result)
    (kind : ToolKind) :
    result.get kind =
      ((entries.filter fun entry => kind.IsNamedBy entry.1).getLast?.map
        Prod.snd).or (map.get kind) := by
  induction entries generalizing map with
  | nil =>
      cases success
      rfl
  | cons entry entries induction =>
      obtain ⟨key, value⟩ := entry
      rw [ofEntries] at success
      split at success
      next named found =>
        have keyNamed := ToolKind.ofId?_eq_some_iff.mp found
        rw [induction success, get_insert]
        by_cases same : kind = named
        · subst same
          rw [List.filter_cons_of_pos (by simpa using keyNamed),
            getLast?_map_cons_or, if_pos rfl]
        · have different : ¬kind.IsNamedBy key :=
            fun kindNamed => same (kindNamed.unique keyNamed)
          rw [List.filter_cons_of_neg (by simpa using different), if_neg same]
      next => cases success

theorem named_of_ofEntries {entries : List (String × α)}
    {map result : KindMap α} (success : map.ofEntries entries = .ok result) :
    ∀ entry ∈ entries, ∃ kind : ToolKind, kind.IsNamedBy entry.1 := by
  induction entries generalizing map with
  | nil => nofun
  | cons entry entries induction =>
      obtain ⟨key, value⟩ := entry
      rw [ofEntries] at success
      split at success
      next named found =>
        exact List.forall_mem_cons.mpr
          ⟨⟨named, ToolKind.ofId?_eq_some_iff.mp found⟩, induction success⟩
      next => cases success

theorem exists_ofEntries {entries : List (String × α)} (map : KindMap α)
    (named : ∀ entry ∈ entries, ∃ kind : ToolKind, kind.IsNamedBy entry.1) :
    ∃ result, map.ofEntries entries = .ok result := by
  induction entries generalizing map with
  | nil => exact ⟨map, rfl⟩
  | cons entry entries induction =>
      obtain ⟨⟨kind, first⟩, rest⟩ := List.forall_mem_cons.mp named
      rw [ofEntries, ToolKind.ofId?_eq_some_iff.mpr first]
      exact induction (map.insert kind entry.2) rest

theorem exists_ofTable_iff {table : Table α} :
    (∃ result, ofTable table = .ok result) ↔ table.NamesKinds := by
  constructor
  · rintro ⟨result, success⟩
    exact named_of_ofEntries success
  · exact exists_ofEntries .empty

/-- A table that is read by kinds gives each kind its last value. -/
theorem eq_byKind_of_ofTable {table : Table α} {result : KindMap α}
    (success : ofTable table = .ok result) : result = table.byKind := by
  apply KindMap.ext
  funext kind
  rw [get_of_ofEntries success kind, get_empty, Option.or_none]
  rfl

end KindMap

end ToolSelect
