import ToolSelect.Table

/-!
# Tables filled in order

Entries that are put into a table in the order of their keys stay as they are,
so a table is the one that its own entries fill.
-/

namespace ToolSelect

theorem mem_of_lookup {κ α : Type} [BEq κ] [LawfulBEq κ]
    {entries : List (κ × α)} {key : κ} {value : α}
    (found : entries.lookup key = some value) : (key, value) ∈ entries := by
  obtain ⟨before, after, rfl, -⟩ := List.lookup_eq_some_iff.mp found
  exact List.mem_append_right _ List.mem_cons_self

/-- Under distinct keys, what is looked up is what has been listed. -/
theorem lookup_eq_some_iff_mem {κ α : Type} [BEq κ] [LawfulBEq κ]
    {entries : List (κ × α)} (distinct : (entries.map Prod.fst).Nodup)
    {key : κ} {value : α} :
    entries.lookup key = some value ↔ (key, value) ∈ entries := by
  refine ⟨mem_of_lookup, fun listed => ?_⟩
  obtain ⟨before, after, rfl⟩ := List.append_of_mem listed
  refine List.lookup_eq_some_iff.mpr ⟨before, after, rfl, fun entry member => ?_⟩
  rw [List.map_append, List.map_cons, List.nodup_append] at distinct
  have different := distinct.2.2 entry.1 (List.mem_map_of_mem member) key
    (List.mem_cons_self ..)
  exact bne_iff_ne.mpr different.symm

namespace Table

variable {α : Type}

private theorem insertEntry_of_ahead {entries : List (String × α)}
    {key : String} (ahead : ∀ entry ∈ entries, entry.1 < key) (value : α) :
    insertEntry key value entries = entries ++ [(key, value)] := by
  induction entries with
  | nil => rfl
  | cons entry entries induction =>
      obtain ⟨first, rest⟩ := List.forall_mem_cons.mp ahead
      rw [insertEntry, if_neg (String.lt_asymm first), if_pos first,
        induction rest]
      rfl

private theorem entries_foldl_insert {entries : List (String × α)}
    (table : Table α)
    (sorted : (table.entries ++ entries).Pairwise
      fun left right => left.1 < right.1) :
    (entries.foldl (fun table entry => table.insert entry.1 entry.2)
        table).entries = table.entries ++ entries := by
  induction entries generalizing table with
  | nil => simp
  | cons entry entries induction =>
      have ahead : ∀ before ∈ table.entries, before.1 < entry.1 :=
        fun before member => (List.pairwise_append.mp sorted).2.2 before member
          entry (List.mem_cons_self ..)
      have inserted : (table.insert entry.1 entry.2).entries =
          table.entries ++ [entry] :=
        insertEntry_of_ahead ahead entry.2
      rw [List.foldl_cons, induction, inserted, List.append_assoc]
      · rfl
      · rw [inserted, List.append_assoc]
        exact sorted

theorem ofList_entries (table : Table α) : ofList table.entries = table := by
  apply Table.ext
  exact entries_foldl_insert empty table.sorted

end Table

end ToolSelect
