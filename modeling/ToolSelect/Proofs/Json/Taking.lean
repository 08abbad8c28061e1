import ToolSelect.Json.Reader

/-!
# What a reader takes off a text

A reader is described by the texts before and after it and by the value that
it gives.  Positions only matter to its failures, so they are left open here.
-/

namespace ToolSelect.Json

/-- From any position, the reader takes the value off the front of the text
and leaves the rest. -/
def Takes {α : Type} (reader : Reader α) (text rest : List Char)
    (value : α) : Prop :=
  ∀ position, ∃ stop, reader ⟨position, text⟩ = .ok (value, ⟨stop, rest⟩)

namespace Takes

variable {α β : Type} {text rest : List Char}

theorem pure (value : α) (text : List Char) :
    Takes (Pure.pure value) text text value :=
  fun position => ⟨position, rfl⟩

theorem bind {first : Reader α} {next : α → Reader β}
    {middle : List Char} {value : α} {result : β}
    (taken : Takes first text middle value)
    (takenNext : Takes (next value) middle rest result) :
    Takes (first >>= next) text rest result := by
  intro position
  obtain ⟨between, read⟩ := taken position
  obtain ⟨stop, readNext⟩ := takenNext between
  refine ⟨stop, ?_⟩
  change (first ⟨position, text⟩ >>= fun pair => next pair.1 pair.2) = _
  rw [read]
  exact readNext

/-- A value that is only converted after it has been read. -/
theorem map {reader : Reader α} {value : α} (convert : α → β)
    (taken : Takes reader text rest value) :
    Takes (do return convert (← reader)) text rest (convert value) :=
  taken.bind (pure _ _)

theorem peek? (text : List Char) :
    Takes Reader.peek? text text text.head? :=
  fun position => ⟨position, rfl⟩

theorem advance (c : Char) (rest : List Char) :
    Takes Reader.advance (c :: rest) rest () :=
  fun position => ⟨position.after c, rfl⟩

/-- A repetition has a round for every character, and one more. -/
theorem bounded {rounds : Nat → Reader α} {value : α}
    (taken : ∀ count, text.length < count →
      Takes (rounds count) text rest value) :
    Takes (Reader.bounded rounds) text rest value :=
  fun position =>
    taken (text.length + 1) (Nat.lt_succ_self _) position

theorem enclosed {close : Reader.Closing} {body : Reader α} {value : α}
    {inside : List Char}
    (closed : ∀ position, ∃ stop,
      close ⟨position, inside⟩ = (⟨stop, rest⟩, none))
    (taken : Takes body text inside value) :
    Takes (Reader.enclosed close body) text rest value := by
  intro position
  obtain ⟨between, read⟩ := taken position
  obtain ⟨stop, left⟩ := closed between
  refine ⟨stop, ?_⟩
  simp only [Reader.enclosed, read, left]

end Takes

end ToolSelect.Json
