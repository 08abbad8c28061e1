import ToolSelect.Proofs.Json.Recognising

/-!
# Readers recognise records

A record is recognised by the meanings of its fields: an object of some of
them, each there once at most, or a list of the first ones.
-/

namespace ToolSelect.Json

/-- The parts of a record by the names of its fields.  An object gives some of
the fields, each once at most, and a list the first ones. -/
def Value.parts? (names : List String) :
    Value → Option (List (String × Value))
  | .object parts =>
    if (∀ part ∈ parts, part.1 ∈ names) ∧ (parts.map Prod.fst).Nodup then
      some parts
    else
      none
  | .list items =>
    if items.length ≤ names.length then some (names.zip items) else none
  | _ => none

namespace Value

private theorem fst_zip_sublist (names : List String) (items : List Value) :
    ((names.zip items).map Prod.fst).Sublist names := by
  induction names generalizing items with
  | nil => exact .slnil
  | cons name names induction =>
      cases items with
      | nil => exact List.nil_sublist _
      | cons item items => exact (induction items).cons_cons name

theorem names_of_parts? {names : List String} {value : Value}
    {parts : List (String × Value)} (distinct : names.Nodup)
    (read : value.parts? names = some parts) :
    (∀ part ∈ parts, part.1 ∈ names) ∧ (parts.map Prod.fst).Nodup := by
  cases value with
  | object fields =>
      rw [parts?] at read
      split at read
      next fits =>
        cases read
        exact fits
      next => cases read
  | list items =>
      rw [parts?] at read
      split at read
      next =>
        cases read
        refine ⟨fun part member => ?_, (fst_zip_sublist _ _).nodup distinct⟩
        exact (List.of_mem_zip member).1
      next => cases read
  | _ => cases read

end Value

section Given

variable {α : Type} {meaning : Value → Option α} {default : α} {name : String}

/-- What the part of a name means, or the default where there is none. -/
def given? (meaning : Value → Option α) (default : α) (name : String)
    (parts : List (String × Value)) : Option α :=
  match parts.lookup name with
  | some value => meaning value
  | none => some default

@[simp]
theorem given?_self (value : Value) (parts : List (String × Value)) :
    given? meaning default name ((name, value) :: parts) = meaning value := by
  simp [given?]

theorem given?_of_ne {other : String} (different : name ≠ other)
    (value : Value) (parts : List (String × Value)) :
    given? meaning default name ((other, value) :: parts) =
      given? meaning default name parts := by
  rw [given?, Table.lookup_cons_eq, if_neg different]
  rfl

theorem given?_of_not_mem {parts : List (String × Value)}
    (absent : name ∉ parts.map Prod.fst) :
    given? meaning default name parts = some default := by
  induction parts with
  | nil => rfl
  | cons part parts induction =>
      obtain ⟨different, absent⟩ := List.ne_and_not_mem_of_not_mem_cons absent
      rw [given?_of_ne different, induction absent]

end Given

variable {σ : Type}

/-- What the parts make of a record, one after the other. -/
def fill? (meaning : String → Value → Option (σ → σ)) (state : σ)
    (parts : List (String × Value)) : Option σ :=
  parts.foldlM (fun state part => return (← meaning part.1 part.2) state) state

/-- The parts complete a record of which some names have been seen. -/
structure Record.Completes (record : Record σ) (seen : List String)
    (parts : List (String × Value)) : Prop where
  known : ∀ part ∈ parts, part.1 ∈ record.names
  unseen : ∀ part ∈ parts, part.1 ∉ seen
  distinct : (parts.map Prod.fst).Nodup
  complete : ∀ field ∈ record.fields, field.required = true →
    field.name ∈ seen ∨ field.name ∈ parts.map Prod.fst

namespace Record

variable {record : Record σ} {name : String}

theorem exists_field (known : name ∈ record.names) :
    ∃ field ∈ record.fields, field.name = name ∧
      record.fields.find? (·.name = name) = some field := by
  obtain ⟨other, member, same⟩ := List.mem_map.mp known
  cases found : record.fields.find? (·.name = name) with
  | none =>
      have refused := List.find?_eq_none.mp found other member
      exact absurd (decide_eq_true same) refused
  | some field =>
      refine ⟨field, List.mem_of_find?_eq_some found, ?_, rfl⟩
      simpa using List.find?_some found

theorem no_field (unknown : name ∉ record.names) :
    record.fields.find? (·.name = name) = none := by
  refine List.find?_eq_none.mpr fun field member same => unknown ?_
  rw [← of_decide_eq_true same]
  exact List.mem_map_of_mem member

theorem completes_cons {seen : List String} {part : String × Value}
    {parts : List (String × Value)} :
    record.Completes seen (part :: parts) ↔
      part.1 ∈ record.names ∧ part.1 ∉ seen ∧
        record.Completes (part.1 :: seen) parts := by
  constructor
  · intro completes
    obtain ⟨known, others⟩ := List.forall_mem_cons.mp completes.known
    obtain ⟨unseen, apart⟩ := List.forall_mem_cons.mp completes.unseen
    have fresh := List.nodup_cons.mp completes.distinct
    refine ⟨known, unseen, others, ?_, fresh.2, ?_⟩
    · intro other member again
      rcases List.mem_cons.mp again with same | earlier
      · exact fresh.1 (List.mem_map.mpr ⟨other, member, same⟩)
      · exact apart other member earlier
    · intro field member required
      rcases completes.complete field member required with earlier | later
      · exact .inl (List.mem_cons_of_mem _ earlier)
      · rcases List.mem_cons.mp later with same | later
        · exact .inl (List.mem_cons.mpr (.inl same))
        · exact .inr later
  · rintro ⟨known, unseen, completes⟩
    refine ⟨List.forall_mem_cons.mpr ⟨known, completes.known⟩,
      List.forall_mem_cons.mpr ⟨unseen, ?_⟩,
      List.nodup_cons.mpr ⟨?_, completes.distinct⟩, ?_⟩
    · intro other member earlier
      exact completes.unseen other member (List.mem_cons_of_mem _ earlier)
    · intro again
      obtain ⟨other, member, same⟩ := List.mem_map.mp again
      exact completes.unseen other member (List.mem_cons.mpr (.inl same))
    · intro field member required
      rcases completes.complete field member required with earlier | later
      · rcases List.mem_cons.mp earlier with same | earlier
        · exact .inr (List.mem_cons.mpr (.inl same))
        · exact .inl earlier
      · exact .inr (List.mem_cons_of_mem _ later)

end Record

theorem fill?_cons (meaning : String → Value → Option (σ → σ)) (state : σ)
    (part : String × Value) (parts : List (String × Value)) :
    fill? meaning state (part :: parts) =
      (meaning part.1 part.2).bind fun change =>
        fill? meaning (change state) parts := by
  simp only [fill?, List.foldlM_cons, bind_assoc, pure_bind]
  rfl

section Object

variable {record : Record σ} {meaning : String → Value → Option (σ → σ)}
  {text : List Char} {after : List Token}

private theorem Reads.field
    (recognises : ∀ field ∈ record.fields,
      Recognises field.update (meaning field.name))
    {seen : List String} {state : σ} {rounds : Nat} {part : String × Value}
    {parts : List (String × Value)} {outcomes : (σ → σ) → Option σ}
    (shown : Shows text
      (Value.fieldTokens seen.isEmpty (part :: parts) ++ after))
    (known : part.1 ∈ record.names) (unseen : part.1 ∉ seen)
    (follows : ∀ change rest,
      Shows rest (Value.fieldTokens false parts ++ after) →
      Reads (Reader.fieldsOfObject record (part.1 :: seen) (change state)
        rounds) rest (.mark '\x7d' :: after) (outcomes change)) :
    Reads (Reader.fieldsOfObject record seen state (rounds + 1)) text
      (.mark '\x7d' :: after) ((meaning part.1 part.2).bind outcomes) := by
  obtain ⟨name, value⟩ := part
  obtain ⟨field, member, rfl, found⟩ := record.exists_field known
  simp only [Value.fieldTokens, List.append_assoc, List.cons_append] at shown
  obtain ⟨middle, rest, more, -, key, shown⟩ := shown.key
  obtain ⟨behind, colon, shown⟩ := shown.colon
  refine .after_take more (.after_take key ?_)
  rw [found]
  dsimp only
  rw [if_neg unseen]
  refine .after_take colon ?_
  exact .bind (recognises field member shown) follows

private theorem Reads.fieldsEnd {seen : List String} {state : σ} {rounds : Nat}
    (shown : Shows text (.mark '\x7d' :: after))
    (complete : ∀ field ∈ record.fields, field.required = true →
      field.name ∈ seen) :
    Reads (Reader.fieldsOfObject record seen state (rounds + 1)) text
      (.mark '\x7d' :: after) (some state) := by
  have noneMissing : (record.fields.find? fun field =>
      field.required && !seen.contains field.name) = none := by
    refine List.find?_eq_none.mpr fun field member => ?_
    have named := complete field member
    cases required : field.required with
    | false => simp
    | true => simp [named required]
  obtain ⟨rest, taken, shown⟩ := shown.noKey seen.isEmpty
  refine .after_take taken ?_
  rw [if_neg Bool.false_ne_true, noneMissing]
  exact .pure state shown

theorem Reads.fieldsOfObject
    (recognises : ∀ field ∈ record.fields,
      Recognises field.update (meaning field.name))
    {seen : List String} {state : σ} {rounds : Nat}
    {parts : List (String × Value)}
    (shown : Shows text (Value.fieldTokens seen.isEmpty parts ++ after))
    (completes : record.Completes seen parts)
    (enough : parts.length < rounds) :
    Reads (Reader.fieldsOfObject record seen state rounds) text
      (.mark '\x7d' :: after) (fill? meaning state parts) := by
  induction parts generalizing seen state text rounds with
  | nil =>
      cases rounds with
      | zero => cases enough
      | succ rounds =>
          refine .fieldsEnd shown fun field member required => ?_
          rcases completes.complete field member required with seen | missing
          · exact seen
          · cases missing
  | cons part parts induction =>
      cases rounds with
      | zero => cases enough
      | succ rounds =>
          obtain ⟨known, unseen, completes⟩ :=
            Record.completes_cons.mp completes
          rw [fill?_cons]
          refine .field recognises shown known unseen ?_
          intro change rest shown
          exact induction shown completes (Nat.lt_of_succ_lt_succ enough)

/-- An object whose parts complete the record is read as what they make of its
start. -/
theorem Reads.recordOfObject
    (recognises : ∀ field ∈ record.fields,
      Recognises field.update (meaning field.name))
    {parts : List (String × Value)}
    (shown : Shows text ((Value.object parts).tokens ++ after))
    (completes : record.Completes [] parts) :
    Reads (Reader.record record) text after
      (fill? meaning record.start parts) := by
  obtain ⟨rest, past, shown⟩ := shown.object
  have enough : parts.length < rest.length + 1 :=
    Nat.lt_succ_of_lt shown.length_fields
  refine .after_take past.takes ?_
  refine .after_take (Takes.advance _ _) ?_
  exact .enclosed_object
    (.bounded (.fieldsOfObject recognises shown completes enough))

/-- A name that no field has, or that has been seen, is refused before its
value is read. -/
private theorem Refuses.misfitName (strict : record.strict = true)
    {seen : List String} {state : σ} {rounds : Nat} {part : String × Value}
    {parts : List (String × Value)}
    (shown : Shows text
      (Value.fieldTokens seen.isEmpty (part :: parts) ++ after))
    (misfit : part.1 ∈ record.names → part.1 ∈ seen) :
    Refuses (Reader.fieldsOfObject record seen state (rounds + 1)) text := by
  obtain ⟨name, value⟩ := part
  simp only [Value.fieldTokens, List.append_assoc, List.cons_append] at shown
  obtain ⟨middle, rest, more, -, key, -⟩ := shown.key
  refine .after_take more (.after_take key ?_)
  by_cases known : name ∈ record.names
  · obtain ⟨field, -, -, found⟩ := record.exists_field known
    rw [found]
    dsimp only
    rw [if_pos (misfit known)]
    exact .raise _ rest
  · rw [record.no_field known]
    dsimp only
    rw [if_pos strict]
    exact .raise _ rest

/-- Parts that do not complete the record are refused: at the first name that
does not fit, or at the end. -/
theorem Reads.misfitFields
    (recognises : ∀ field ∈ record.fields,
      Recognises field.update (meaning field.name))
    (strict : record.strict = true)
    {seen : List String} {state : σ} {rounds : Nat}
    {parts : List (String × Value)}
    (shown : Shows text (Value.fieldTokens seen.isEmpty parts ++ after))
    (incomplete : ¬record.Completes seen parts)
    (enough : parts.length < rounds) :
    Reads (Reader.fieldsOfObject record seen state rounds) text
      (.mark '\x7d' :: after) none := by
  induction parts generalizing seen state text rounds with
  | nil =>
      cases rounds with
      | zero => cases enough
      | succ rounds =>
          obtain ⟨rest, taken, shown⟩ := shown.noKey seen.isEmpty
          refine .after_take taken (.refused ?_)
          rw [if_neg Bool.false_ne_true]
          split
          next => exact .raise _ rest
          next noneMissing =>
            refine absurd ?_ incomplete
            refine ⟨nofun, nofun, .nil, fun field member required => .inl ?_⟩
            have present := List.find?_eq_none.mp noneMissing field member
            simpa [required] using present
  | cons part parts induction =>
      cases rounds with
      | zero => cases enough
      | succ rounds =>
          by_cases fits : part.1 ∈ record.names ∧ part.1 ∉ seen
          · -- The part itself is read, and the refusal comes from a later one.
            obtain ⟨known, unseen⟩ := fits
            rw [← Option.bind_fun_none (meaning part.1 part.2)]
            refine .field recognises shown known unseen ?_
            intro change rest shown
            refine induction shown ?_ (Nat.lt_of_succ_lt_succ enough)
            intro completes
            exact incomplete
              (Record.completes_cons.mpr ⟨known, unseen, completes⟩)
          · refine .refused (.misfitName strict shown fun known => ?_)
            exact Decidable.not_not.mp fun unseen => fits ⟨known, unseen⟩

end Object

section List

variable {record : Record σ} {meaning : String → Value → Option (σ → σ)}
  {text : List Char} {after : List Token}

/-- A list gives the fields in their order, and keeps the items that are left
when no field is. -/
theorem Reads.fieldsOfList {fields : List (Field σ)}
    (recognises : ∀ field ∈ fields,
      Recognises field.update (meaning field.name))
    (optional : ∀ field ∈ fields, field.required = false)
    {items : List Value} {state : σ} {index : Nat}
    (shown : Shows text (Value.itemTokens (index == 0) items ++ after)) :
    Reads (Reader.fieldsOfList record state index fields) text
      (Value.itemTokens (index + fields.length == 0)
        (items.drop fields.length) ++ after)
      (fill? meaning state ((fields.map Field.name).zip items)) := by
  induction fields generalizing items state index text with
  | nil => exact .pure state shown
  | cons field fields induction =>
      obtain ⟨recognisesField, recognises⟩ := List.forall_mem_cons.mp recognises
      obtain ⟨optionalField, optional⟩ := List.forall_mem_cons.mp optional
      -- Only the first item of a list stands without a comma, and that is the
      -- one at the index zero.
      have size : index + (field :: fields).length =
          index + 1 + fields.length := by
        rw [List.length_cons]
        omega
      rw [size]
      cases items with
      | nil =>
          obtain ⟨rest, taken, shown⟩ := shown.noItem (index == 0)
          refine .after_take taken ?_
          rw [if_neg Bool.false_ne_true, optionalField]
          have more := @induction rest recognises optional [] state (index + 1)
            shown
          rw [List.zip_nil_right] at more ⊢
          simpa using more
      | cons item items =>
          rw [Value.itemTokens, List.append_assoc, List.append_assoc] at shown
          obtain ⟨rest, taken, shown⟩ := shown.item
          rw [List.map_cons, List.zip_cons_cons, fill?_cons]
          refine .after_take taken ?_
          refine .bind (recognisesField shown) fun change rest shown => ?_
          exact induction recognises optional shown

theorem Refuses.unclosedList {body : Reader σ} {first : Bool}
    {items : List Value} {outcome : Option σ} (more : items ≠ [])
    (reads : Reads body text (Value.itemTokens first items ++ after) outcome) :
    Refuses (Reader.enclosed Reader.closeList body) text := by
  cases reads with
  | refused refuses => exact refuses.enclosed _
  | @taken rest state taken shown =>
      obtain ⟨c, left, past, other⟩ : ∃ c left,
          PastSpaces rest (c :: left) ∧ c ≠ ']' := by
        cases items with
        | nil => exact absurd rfl more
        | cons item items =>
            rw [Value.itemTokens, List.append_assoc, List.append_assoc] at shown
            cases first with
            | true =>
                obtain ⟨c, left, starts, past, -⟩ := shown.value
                exact ⟨c, left, past, starts.ne_end⟩
            | false =>
                obtain ⟨left, past, -⟩ := shown.mark
                exact ⟨',', left, past, by decide⟩
      refine .unclosed taken fun position => ?_
      obtain ⟨stop, skipped⟩ := past position
      rw [Reader.closeList, skipped]
      dsimp only [List.head?_cons]
      split
      next same =>
        cases same
        exact absurd rfl other
      next =>
        split
        · exact ⟨_, _, rfl⟩
        · exact ⟨_, _, rfl⟩
      next => exact ⟨_, _, rfl⟩
      next => exact ⟨_, _, rfl⟩

end List

/-- A strict record without required fields is recognised by what its parts
make of its start. -/
theorem Recognises.record {record : Record σ}
    {meaning : String → Value → Option (σ → σ)} (strict : record.strict = true)
    (optional : ∀ field ∈ record.fields, field.required = false)
    (recognises : ∀ field ∈ record.fields,
      Recognises field.update (meaning field.name)) :
    Recognises (Reader.record record) fun value =>
      (value.parts? record.names).bind (fill? meaning record.start) := by
  intro value after text shown
  cases value with
  | list items =>
      obtain ⟨rest, past, shown⟩ := shown.list
      have reads := @Reads.fieldsOfList _ record meaning _ _ _ recognises
        optional _ record.start 0 shown
      refine .after_take past.takes ?_
      refine .after_take (Takes.advance _ _) ?_
      dsimp only [Value.parts?]
      split
      next short =>
        rw [Record.names, List.length_map] at short
        rw [List.drop_eq_nil_of_le short] at reads
        exact .enclosed_list reads
      next long =>
        -- The items that have a field are read before the list turns out to be
        -- too long.
        rw [Record.names, List.length_map] at long
        refine .refused (.unclosedList ?_ reads)
        rwa [Ne, List.drop_eq_nil_iff]
  | object parts =>
      dsimp only [Value.parts?]
      split
      next fits =>
        refine .recordOfObject recognises shown ?_
        refine ⟨fits.1, nofun, fits.2, fun field member required => ?_⟩
        rw [optional field member] at required
        cases required
      next misfit =>
        obtain ⟨rest, past, shown⟩ := shown.object
        have enough : parts.length < rest.length + 1 :=
          Nat.lt_succ_of_lt shown.length_fields
        refine .after_take past.takes ?_
        refine .after_take (Takes.advance _ _) ?_
        refine .enclosed_object (.bounded ?_)
        refine .misfitFields recognises strict shown ?_ enough
        exact fun completes => misfit ⟨completes.known, completes.distinct⟩
  | _ =>
      refine .misfit shown fun c rest starts => ?_
      split
      next none => cases none
      next same =>
        cases same
        obtain ⟨items, same⟩ := starts.list
        cases same
      next same =>
        cases same
        obtain ⟨fields, same⟩ := starts.object
        cases same
      next => exact .wrongShape _ _

theorem Recognises.record_ofParts {record : Record σ}
    {meaning : String → Value → Option (σ → σ)}
    {ofParts? : List (String × Value) → Option σ}
    (strict : record.strict = true)
    (optional : ∀ field ∈ record.fields, field.required = false)
    (names : record.names.Nodup)
    (recognises : ∀ field ∈ record.fields,
      Recognises field.update (meaning field.name))
    (filled : ∀ parts, (∀ part ∈ parts, part.1 ∈ record.names) →
      (parts.map Prod.fst).Nodup →
      fill? meaning record.start parts = ofParts? parts) :
    Recognises (Reader.record record)
      fun value => (value.parts? record.names).bind ofParts? := by
  intro value after text shown
  have reads := Recognises.record strict optional recognises shown
  dsimp only at reads ⊢
  cases read : value.parts? record.names with
  | none =>
      rw [read] at reads
      exact reads
  | some parts =>
      obtain ⟨known, distinct⟩ := Value.names_of_parts? names read
      rw [read, Option.bind_some, filled parts known distinct] at reads
      exact reads

end ToolSelect.Json
