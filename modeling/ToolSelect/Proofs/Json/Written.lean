import Mathlib.Tactic.SplitIfs
import ToolSelect.Proofs.Json.Spelling

/-!
# Written values are spelled

The compact text of a value is one of its spellings, as far as its parts are
spelled by what is written for them.
-/

namespace ToolSelect.Json

private theorem digitChar_mem :
    ∀ digit < 16, (Nat.digitChar digit, digit) ∈ hexDigits := by
  decide

private theorem spellsUnit_control {unit : Nat} (control : unit < 0x20) :
    SpellsUnit ['0', '0', Nat.digitChar (unit / 16), Nat.digitChar (unit % 16)]
      unit := by
  have zero : ('0', 0) ∈ hexDigits := by decide
  have spells := SpellsUnit.digits zero zero
    (digitChar_mem (unit / 16) (by omega)) (digitChar_mem (unit % 16) (by omega))
  have split : 16 * (16 * (16 * 0 + 0) + unit / 16) + unit % 16 = unit := by
    omega
  rwa [split] at spells

theorem spellsChar_writtenChar (c : Char) : SpellsChar (writtenChar c) c := by
  unfold writtenChar
  split_ifs with quote backslash backspace feed newline carriage tab control
  · exact .short (by rw [quote]; decide)
  · exact .short (by rw [backslash]; decide)
  · exact .short (by rw [backspace]; decide)
  · exact .short (by rw [feed]; decide)
  · exact .short (by rw [newline]; decide)
  · exact .short (by rw [carriage]; decide)
  · exact .short (by rw [tab]; decide)
  · exact .unit (spellsUnit_control control)
  · exact .plain control quote backslash

theorem spellsChars_written (chars : List Char) :
    SpellsChars (chars.flatMap writtenChar) chars := by
  induction chars with
  | nil => exact .nil
  | cons c chars induction =>
      rw [List.flatMap_cons]
      exact .cons (spellsChar_writtenChar c) induction

private theorem shows_mark {c : Char} (known : c ∈ Token.marks) :
    Shows [c] [.mark c] :=
  Shows.empty.prepend (.mark known)

namespace Value

/-- What is written for the value spells it. -/
def IsSpelled (value : Value) : Prop :=
  value.SpelledBy value.write

private theorem spelled_writtenText (text : String) :
    Token.Spelled (.text text) (writtenText text) :=
  .text (spellsChars_written text.toList)

theorem isSpelled_null : Value.null.IsSpelled :=
  Shows.empty.prepend
    (.word (show ['n', 'u', 'l', 'l'] ∈ Token.words by decide))

theorem isSpelled_text (text : String) : (Value.text text).IsSpelled := by
  have shown := Shows.empty.prepend (spelled_writtenText text)
  rwa [List.append_nil] at shown

theorem isSpelled_list {items : List Value}
    (spelled : ∀ item ∈ items, item.IsSpelled) :
    (Value.list items).IsSpelled := by
  have shown : Shows (writeItems items) (itemTokens true items) := by
    induction items with
    | nil => exact shows_mark (by decide)
    | cons item items induction =>
        obtain ⟨first, others⟩ := List.forall_mem_cons.mp spelled
        cases items with
        | nil => exact first.append (shows_mark (by decide))
        | cons next items =>
            have more := (induction others).prepend
              (.mark (show ',' ∈ Token.marks by decide))
            exact first.append more
  exact shown.prepend (.mark (by decide))

private theorem shows_field {value : Value} {rest : List Char}
    {tokens : List Token} (key : String) (spelled : value.IsSpelled)
    (shown : Shows rest tokens) :
    Shows (writtenText key ++ ':' :: value.write ++ rest)
      (.text key :: .mark ':' :: value.tokens ++ tokens) := by
  have behind := (spelled.append shown).prepend
    (.mark (show ':' ∈ Token.marks by decide))
  rw [List.append_assoc]
  exact behind.prepend (spelled_writtenText key)

theorem isSpelled_object {fields : List (String × Value)}
    (spelled : ∀ field ∈ fields, field.2.IsSpelled) :
    (Value.object fields).IsSpelled := by
  have shown : Shows (writeFields fields) (fieldTokens true fields) := by
    induction fields with
    | nil => exact shows_mark (by decide)
    | cons field fields induction =>
        obtain ⟨first, others⟩ := List.forall_mem_cons.mp spelled
        cases fields with
        | nil =>
            have closed := shows_mark (show '\x7d' ∈ Token.marks by decide)
            have shown := shows_field field.1 first closed
            simpa [writeFields, fieldTokens, separator] using shown
        | cons next fields =>
            have more := (induction others).prepend
              (.mark (show ',' ∈ Token.marks by decide))
            have shown := shows_field field.1 first more
            simpa [writeFields, fieldTokens, separator] using shown
  exact shown.prepend (.mark (by decide))

end Value

end ToolSelect.Json
