/-!
# Tables

Values under texts, sorted by the texts.  A table is determined by what it
holds, so two tables with the same values are equal.
-/

namespace ToolSelect

/-- Values under texts, in the order of the texts. -/
@[ext]
structure Table (α : Type) where
  entries : List (String × α)
  sorted : entries.Pairwise fun left right => left.1 < right.1

namespace Table

variable {α : Type}

instance [DecidableEq α] : DecidableEq (Table α) := fun left right =>
  if same : left.entries = right.entries then
    .isTrue (Table.ext same)
  else
    .isFalse fun equal => same (congrArg entries equal)

def empty : Table α :=
  ⟨[], .nil⟩

/-- The entries with a value put under a text, in place of the one there. -/
def insertEntry (key : String) (value : α) :
    List (String × α) → List (String × α)
  | [] => [(key, value)]
  | entry :: rest =>
    if key < entry.1 then (key, value) :: entry :: rest
    else if entry.1 < key then entry :: insertEntry key value rest
    else (key, value) :: rest

theorem fst_mem_insertEntry {key : String} {value : α}
    {entries : List (String × α)} {entry : String × α}
    (member : entry ∈ insertEntry key value entries) :
    entry.1 = key ∨ entry ∈ entries := by
  induction entries with
  | nil => simp_all [insertEntry]
  | cons first rest hypothesis =>
    rw [insertEntry] at member
    split at member
    · rcases List.mem_cons.mp member with rfl | member
      · exact .inl rfl
      · exact .inr member
    · split at member
      · rcases List.mem_cons.mp member with rfl | member
        · exact .inr (List.mem_cons_self ..)
        · rcases hypothesis member with same | member
          · exact .inl same
          · exact .inr (List.mem_cons_of_mem _ member)
      · rcases List.mem_cons.mp member with rfl | member
        · exact .inl rfl
        · exact .inr (List.mem_cons_of_mem _ member)

theorem pairwise_insertEntry (key : String) (value : α)
    {entries : List (String × α)}
    (sorted : entries.Pairwise fun left right => left.1 < right.1) :
    (insertEntry key value entries).Pairwise
      fun left right => left.1 < right.1 := by
  induction entries with
  | nil => simp [insertEntry]
  | cons first rest hypothesis =>
    obtain ⟨ahead, sorted⟩ := List.pairwise_cons.mp sorted
    rw [insertEntry]
    split
    next before =>
      refine List.pairwise_cons.mpr ⟨fun entry member => ?_,
        List.pairwise_cons.mpr ⟨ahead, sorted⟩⟩
      rcases List.mem_cons.mp member with rfl | member
      · exact before
      · exact String.lt_trans before (ahead entry member)
    next notBefore =>
      split
      next behind =>
        refine List.pairwise_cons.mpr ⟨fun entry member => ?_,
          hypothesis sorted⟩
        rcases fst_mem_insertEntry member with same | member
        · rw [same]
          exact behind
        · exact ahead entry member
      next notBehind =>
        have same : first.1 = key :=
          String.le_antisymm (String.not_lt.mp notBefore)
            (String.not_lt.mp notBehind)
        refine List.pairwise_cons.mpr ⟨fun entry member => ?_, sorted⟩
        simpa [same] using ahead entry member

def insert (table : Table α) (key : String) (value : α) : Table α :=
  ⟨insertEntry key value table.entries,
    pairwise_insertEntry key value table.sorted⟩

def get? (table : Table α) (key : String) : Option α :=
  table.entries.lookup key

/-- The table of a list of entries; of two values under one text the later one
counts. -/
def ofList (entries : List (String × α)) : Table α :=
  entries.foldl (fun table entry => table.insert entry.1 entry.2) empty

theorem lookup_cons_eq (entry : String × α) (rest : List (String × α))
    (key : String) :
    (entry :: rest).lookup key =
      if key = entry.1 then some entry.2 else rest.lookup key := by
  rw [List.lookup_cons]
  by_cases same : key = entry.1
  · simp [same]
  · simp [same, beq_eq_false_iff_ne.mpr same]

/-- Only the look-up of the new key sees a new entry. -/
theorem lookup_insertEntry (key other : String) (value : α)
    (entries : List (String × α)) :
    (insertEntry key value entries).lookup other =
      if other = key then some value else entries.lookup other := by
  induction entries with
  | nil => rw [insertEntry, lookup_cons_eq]
  | cons first rest hypothesis =>
    rw [insertEntry]
    split
    next => rw [lookup_cons_eq]
    next notBefore =>
      split
      next behind =>
        rw [lookup_cons_eq, hypothesis, lookup_cons_eq]
        by_cases same : other = first.1
        · have different : first.1 ≠ key := fun equal =>
            String.lt_irrefl key (equal ▸ behind)
          simp [same, different]
        · simp [same]
      next notBehind =>
        have equal : first.1 = key :=
          String.le_antisymm (String.not_lt.mp notBefore)
            (String.not_lt.mp notBehind)
        rw [lookup_cons_eq, lookup_cons_eq, equal]
        by_cases same : other = key <;> simp [same]

@[simp]
theorem get?_insert (table : Table α) (key other : String) (value : α) :
    (table.insert key value).get? other =
      if other = key then some value else table.get? other :=
  lookup_insertEntry key other value table.entries

end Table

end ToolSelect
