import ToolSelect.Proofs.Json.Reading
import ToolSelect.Proofs.Json.Texts

/-!
# Readers recognise values

Texts, choices, lists and tables are each recognised by their meaning: a
reader takes exactly the values that mean something of its shape, and gives
what they mean.
-/

namespace ToolSelect.Json

variable {α : Type}

namespace Value

def text? : Value → Option String
  | .text value => some value
  | _ => none

def null? : Value → Option Unit
  | .null => some ()
  | _ => none

def list? (item : Value → Option α) : Value → Option (List α)
  | .list items => items.mapM item
  | _ => none

/-- The table that the fields of an object fill in their order: of two values
under one key the later one counts. -/
def table? (entry : Value → Option α) : Value → Option (Table α)
  | .object fields =>
    fields.foldlM
      (fun table field => return table.insert field.1 (← entry field.2)) .empty
  | _ => none

/-- A choice is its name, or an object with null under its name. -/
def choice? (variants : List (String × α)) : Value → Option α
  | .text name | .object [(name, .null)] => variants.lookup name
  | _ => none

theorem length_lt_itemTokens (first : Bool) (items : List Value) :
    items.length < (itemTokens first items).length := by
  induction items generalizing first with
  | nil => exact Nat.one_pos
  | cons item items induction =>
      obtain ⟨token, tokens, split, -⟩ := item.tokens_cons
      have more := induction false
      rw [itemTokens, split]
      simp only [List.length_append, List.length_cons]
      omega

theorem length_lt_fieldTokens (first : Bool)
    (fields : List (String × Value)) :
    fields.length < (fieldTokens first fields).length := by
  induction fields generalizing first with
  | nil => exact Nat.one_pos
  | cons field fields induction =>
      have more := induction false
      rw [fieldTokens]
      simp only [List.length_append, List.length_cons]
      omega

end Value

/-- However a value is spelled, the reader makes of it what it means. -/
def Recognises (reader : Reader α) (meaning : Value → Option α) : Prop :=
  ∀ ⦃value after text⦄, Shows text (value.tokens ++ after) →
    Reads reader text after (meaning value)

namespace Shows

variable {text : List Char} {after : List Token}

theorem list {items : List Value}
    (shown : Shows text ((Value.list items).tokens ++ after)) :
    ∃ rest, PastSpaces text ('[' :: rest) ∧
      Shows rest (Value.itemTokens true items ++ after) :=
  shown.mark

theorem object {fields : List (String × Value)}
    (shown : Shows text ((Value.object fields).tokens ++ after)) :
    ∃ rest, PastSpaces text ('\x7b' :: rest) ∧
      Shows rest (Value.fieldTokens true fields ++ after) :=
  shown.mark

theorem length_items {first : Bool} {items : List Value}
    (shown : Shows text (Value.itemTokens first items ++ after)) :
    items.length < text.length := by
  have short := shown.length_le
  have count := Value.length_lt_itemTokens first items
  rw [List.length_append] at short
  omega

theorem length_fields {first : Bool} {fields : List (String × Value)}
    (shown : Shows text (Value.fieldTokens first fields ++ after)) :
    fields.length < text.length := by
  have short := shown.length_le
  have count := Value.length_lt_fieldTokens first fields
  rw [List.length_append] at short
  omega

theorem noItem (first : Bool) (shown : Shows text (.mark ']' :: after)) :
    ∃ rest, Takes (Reader.hasItem first) text rest false ∧
      Shows rest (.mark ']' :: after) := by
  obtain ⟨rest, past, shown⟩ := shown.mark
  refine ⟨']' :: rest, ?_, shown.prepend (.mark (by decide))⟩
  exact past.takes.bind (.pure false _)

theorem item {first : Bool} {item : Value}
    (shown : Shows text (Value.separator first ++ (item.tokens ++ after))) :
    ∃ rest, Takes (Reader.hasItem first) text rest true ∧
      Shows rest (item.tokens ++ after) := by
  cases first with
  | true =>
      obtain ⟨c, rest, starts, past, shown⟩ := shown.value
      refine ⟨c :: rest, past.takes.bind ?_, shown⟩
      dsimp only [List.head?_cons]
      split
      next none => cases none
      next same =>
        cases same
        exact absurd rfl starts.ne_end
      next => exact .pure true _
  | false =>
      obtain ⟨behind, pastComma, shown⟩ := shown.mark
      obtain ⟨c, rest, starts, past, shown⟩ := shown.value
      refine ⟨c :: rest, pastComma.takes.bind ?_, shown⟩
      refine (Takes.advance ',' behind).bind (past.takes.bind ?_)
      dsimp only [List.head?_cons]
      split
      next same =>
        cases same
        exact absurd rfl starts.ne_end
      next => exact .pure true _
      next none => cases none

theorem noKey (first : Bool) (shown : Shows text (.mark '\x7d' :: after)) :
    ∃ rest, Takes (Reader.hasKey first) text rest false ∧
      Shows rest (.mark '\x7d' :: after) := by
  obtain ⟨rest, past, shown⟩ := shown.mark
  refine ⟨'\x7d' :: rest, ?_, shown.prepend (.mark (by decide))⟩
  exact past.takes.bind (.pure false _)

private theorem quotedKey {key : String}
    (shown : Shows text (.text key :: after)) :
    ∃ middle rest, PastSpaces text ('"' :: middle) ∧
      Shows ('"' :: middle) (.text key :: after) ∧
      Takes Reader.key ('"' :: middle) rest key ∧ Shows rest after := by
  obtain ⟨chars, rest, past, spells, shown⟩ := shown.quoted
  refine ⟨chars ++ '"' :: rest, rest, past, ?_, ?_, shown⟩
  · simpa using shown.prepend (.text spells)
  · exact (Takes.advance '"' _).bind (Takes.textBody spells rest)

theorem key {first : Bool} {key : String}
    (shown : Shows text (Value.separator first ++ .text key :: after)) :
    ∃ middle rest, Takes (Reader.hasKey first) text middle true ∧
      Shows middle (.text key :: after) ∧ Takes Reader.key middle rest key ∧
      Shows rest after := by
  cases first with
  | true =>
      obtain ⟨middle, rest, past, shown, taken, shownRest⟩ := shown.quotedKey
      refine ⟨'"' :: middle, rest, ?_, shown, taken, shownRest⟩
      exact past.takes.bind (.pure true _)
  | false =>
      obtain ⟨behind, pastComma, shown⟩ := shown.mark
      obtain ⟨middle, rest, past, shown, taken, shownRest⟩ := shown.quotedKey
      refine ⟨'"' :: middle, rest, ?_, shown, taken, shownRest⟩
      refine pastComma.takes.bind ((Takes.advance ',' behind).bind ?_)
      exact past.takes.bind (.pure true _)

theorem colon (shown : Shows text (.mark ':' :: after)) :
    ∃ rest, Takes Reader.colon text rest () ∧ Shows rest after := by
  obtain ⟨rest, past, shown⟩ := shown.mark
  exact ⟨rest, past.takes.bind (.advance ':' rest), shown⟩

end Shows

namespace Recognises

theorem map {β : Type} {reader : Reader α} {meaning : Value → Option α}
    (convert : α → β) (recognises : Recognises reader meaning) :
    Recognises (do return convert (← reader))
      fun value => (meaning value).map convert :=
  fun _ _ _ shown => (recognises shown).map convert

theorem textCalled (expected : String) :
    Recognises (Reader.textCalled expected) Value.text? := by
  intro value after text shown
  cases value with
  | text content =>
      obtain ⟨chars, rest, past, spells, shown⟩ := shown.quoted
      refine .after_take past.takes ?_
      refine .after_take (Takes.advance _ _) ?_
      exact .taken (Takes.textBody spells rest) shown
  | _ =>
      refine .misfit shown fun c rest starts => ?_
      split
      next none => cases none
      next same =>
        cases same
        obtain ⟨content, same⟩ := starts.text
        cases same
      next => exact .wrongShape expected _

theorem text : Recognises Reader.text Value.text? :=
  textCalled _

theorem null : Recognises Reader.null Value.null? := by
  intro value after text shown
  cases value with
  | null =>
      obtain ⟨rest, past, shown⟩ := shown.word
      refine .after_take past.takes ?_
      refine .after_take (Takes.advance _ _) ?_
      refine .taken ?_ shown
      refine (Takes.peek? _).bind ((Takes.advance _ _).bind ?_)
      refine (Takes.peek? _).bind ((Takes.advance _ _).bind ?_)
      exact (Takes.peek? _).bind ((Takes.advance _ _).bind (.pure () _))
  | _ =>
      refine .misfit shown fun c rest starts => ?_
      split
      next none => cases none
      next same =>
        cases same
        cases starts.null
      next => exact .wrongShape _ _

theorem items {item : Reader α} {meaning : Value → Option α}
    (recognises : Recognises item meaning) {items : List Value} {first : Bool}
    {text : List Char} {after : List Token} {rounds : Nat}
    (shown : Shows text (Value.itemTokens first items ++ after))
    (enough : items.length < rounds) :
    Reads (Reader.items item first rounds) text (.mark ']' :: after)
      (items.mapM meaning) := by
  induction items generalizing first text rounds with
  | nil =>
      cases rounds with
      | zero => cases enough
      | succ rounds =>
          obtain ⟨rest, taken, shown⟩ := shown.noItem first
          exact .after_take taken (.pure [] shown)
  | cons value items induction =>
      cases rounds with
      | zero => cases enough
      | succ rounds =>
          rw [Value.itemTokens, List.append_assoc, List.append_assoc] at shown
          obtain ⟨rest, taken, shown⟩ := shown.item
          rw [List.mapM_cons]
          refine .after_take taken ?_
          refine .bind (recognises shown) fun first rest shown => ?_
          refine .bind (induction shown (Nat.lt_of_succ_lt_succ enough)) ?_
          exact fun others rest shown => .pure _ shown

theorem list {item : Reader α} {meaning : Value → Option α}
    (recognises : Recognises item meaning) :
    Recognises (Reader.list item) (Value.list? meaning) := by
  intro value after text shown
  cases value with
  | list values =>
      obtain ⟨rest, past, shown⟩ := shown.list
      have enough : values.length < rest.length + 1 :=
        Nat.lt_succ_of_lt shown.length_items
      refine .after_take past.takes ?_
      refine .after_take (Takes.advance _ _) ?_
      exact .enclosed_list (.bounded (items recognises shown enough))
  | _ =>
      refine .misfit shown fun c rest starts => ?_
      split
      next none => cases none
      next same =>
        cases same
        obtain ⟨values, same⟩ := starts.list
        cases same
      next => exact .wrongShape _ _

theorem entries {entry : Reader α} {meaning : Value → Option α}
    (recognises : Recognises entry meaning) {fields : List (String × Value)}
    {first : Bool} {table : Table α} {text : List Char} {after : List Token}
    {rounds : Nat}
    (shown : Shows text (Value.fieldTokens first fields ++ after))
    (enough : fields.length < rounds) :
    Reads (Reader.entries entry first table rounds) text
      (.mark '\x7d' :: after)
      (fields.foldlM
        (fun table field => return table.insert field.1 (← meaning field.2))
        table) := by
  induction fields generalizing first table text rounds with
  | nil =>
      cases rounds with
      | zero => cases enough
      | succ rounds =>
          obtain ⟨rest, taken, shown⟩ := shown.noKey first
          exact .after_take taken (.pure table shown)
  | cons field fields induction =>
      cases rounds with
      | zero => cases enough
      | succ rounds =>
          simp only [Value.fieldTokens, List.append_assoc,
            List.cons_append] at shown
          obtain ⟨middle, rest, more, -, key, shown⟩ := shown.key
          obtain ⟨behind, colon, shown⟩ := shown.colon
          simp only [List.foldlM_cons, bind_assoc, pure_bind]
          refine .after_take more (.after_take key (.after_take colon ?_))
          refine .bind (recognises shown) fun value rest shown => ?_
          exact induction shown (Nat.lt_of_succ_lt_succ enough)

theorem table {entry : Reader α} {meaning : Value → Option α}
    (recognises : Recognises entry meaning) :
    Recognises (Reader.table entry) (Value.table? meaning) := by
  intro value after text shown
  cases value with
  | object fields =>
      obtain ⟨rest, past, shown⟩ := shown.object
      have enough : fields.length < rest.length + 1 :=
        Nat.lt_succ_of_lt shown.length_fields
      refine .after_take past.takes ?_
      refine .after_take (Takes.advance _ _) ?_
      exact .enclosed_object (.bounded (entries recognises shown enough))
  | _ =>
      refine .misfit shown fun c rest starts => ?_
      split
      next none => cases none
      next same =>
        cases same
        obtain ⟨fields, same⟩ := starts.object
        cases same
      next => exact .wrongShape _ _

theorem variant (variants : List (String × α)) {name : String}
    {text : List Char} {after : List Token}
    (shown : Shows text (.text name :: after)) :
    Reads (Reader.variant variants) text after (variants.lookup name) := by
  have read : Reads (Reader.textCalled "variant identifier") text after
      (some name) :=
    @textCalled _ (.text name) after text shown
  change Reads _ _ _ ((some name).bind fun content => variants.lookup content)
  refine read.bind fun content rest shown => ?_
  cases variants.lookup content with
  | none => exact .refused (.failHere _ rest)
  | some value => exact .pure value shown

private theorem choice?_object (variants : List (String × α)) (name : String)
    (value : Value) (others : List (String × Value)) :
    Value.choice? variants (.object ((name, value) :: others)) =
      (variants.lookup name).bind fun chosen => value.null?.bind fun _ =>
        if others.isEmpty then some chosen else none := by
  cases others <;> cases value <;> simp [Value.choice?, Value.null?]

theorem choice (variants : List (String × α)) :
    Recognises (Reader.choice variants) (Value.choice? variants) := by
  intro value after text shown
  cases value with
  | text name =>
      obtain ⟨chars, rest, past, spells, shown⟩ := shown.quoted
      refine .after_take past.takes ?_
      exact variant variants (by simpa using shown.prepend (.text spells))
  | object fields =>
      obtain ⟨rest, past, shown⟩ := shown.object
      refine .after_take past.takes ?_
      refine .after_take (Takes.advance _ _) ?_
      cases fields with
      | nil =>
          obtain ⟨behind, taken, -⟩ := Shows.noKey true shown
          exact .after_take taken (.refused (.failNext _ _))
      | cons field others =>
          obtain ⟨name, value⟩ := field
          simp only [Value.fieldTokens, List.append_assoc,
            List.cons_append] at shown
          obtain ⟨middle, -, more, shown, -, -⟩ := @Shows.key _ _ true _ shown
          rw [choice?_object]
          refine .after_take more ?_
          refine .bind (variant variants shown) fun chosen rest shown => ?_
          obtain ⟨behind, colon, shown⟩ := shown.colon
          refine .after_take colon ?_
          refine .bind (null shown) fun _ rest shown => ?_
          -- A second field is refused where the object should end.
          cases others with
          | nil =>
              obtain ⟨behind, past, shown⟩ := shown.mark
              refine .after_take past.takes ?_
              exact .after_take (Takes.advance _ _) (.pure chosen shown)
          | cons field others =>
              obtain ⟨behind, past, -⟩ := shown.mark
              refine .after_take past.takes ?_
              exact .refused (.failHere _ _)
  | _ =>
      refine .misfit shown fun c rest starts => ?_
      split
      next none => cases none
      next same =>
        cases same
        obtain ⟨name, same⟩ := starts.text
        cases same
      next same =>
        cases same
        obtain ⟨fields, same⟩ := starts.object
        cases same
      next => exact .failNext _ _

end Recognises

end ToolSelect.Json
