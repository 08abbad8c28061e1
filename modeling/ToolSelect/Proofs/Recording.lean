import ToolSelect.Proofs.Results

/-!
# Records of actions

An action is told from outside by a record of its steps and their results.
Whoever keeps the record changes nothing about the action, and an action made of
two others has the entries of the first one and then those of the second.
-/

namespace ToolSelect

variable {Entry α β : Type} {m : Type → Type} [Monad m]

/-- The action, with an entry for its result at the end of a record. -/
def noted (entry : α → Entry) (action : m α) : StateT (List Entry) m α := do
  let result ← StateT.lift action
  modify (· ++ [entry result])
  return result

/-- The recorded action does what the plain one does. -/
def Forgets (recorded : StateT (List Entry) m α) (plain : m α) : Prop :=
  ∀ earlier, Prod.fst <$> recorded.run earlier = plain

/-- To any record the action only adds, and what it adds goes with its
result. -/
def Adds (recorded : StateT (List Entry) m α)
    (property : α → List Entry → Prop) : Prop :=
  ∀ earlier, Always (recorded.run earlier) fun (result, record) =>
    ∃ added, record = earlier ++ added ∧ property result added

structure Logs (recorded : StateT (List Entry) m α) (plain : m α)
    (property : α → List Entry → Prop) : Prop where
  forgets : Forgets recorded plain
  adds : Adds recorded property

namespace Logs

variable [LawfulMonad m] {recorded : StateT (List Entry) m α} {plain : m α}
  {given property : α → List Entry → Prop}

theorem pure {result : α} (holds : property result []) :
    Logs (Pure.pure result) (Pure.pure result : m α) property where
  forgets earlier := by rw [StateT.run_pure, map_pure]
  adds earlier := by
    rw [StateT.run_pure]
    exact .pure ⟨[], (List.append_nil earlier).symm, holds⟩

theorem noted (entry : α → Entry) (action : m α) :
    Logs (ToolSelect.noted entry action) action
      fun result added => added = [entry result] where
  forgets earlier := by simp [ToolSelect.noted]
  adds earlier := by
    simp only [ToolSelect.noted, StateT.run_bind, StateT.run_lift, bind_assoc,
      pure_bind, StateT.run_modify, StateT.run_pure]
    exact .bind _ fun result => .pure ⟨_, rfl, rfl⟩

/-- What follows an action only has to keep a record for the results that the
action has with its entries. -/
theorem bind {next : α → StateT (List Entry) m β} {plainNext : α → m β}
    {property : β → List Entry → Prop} (first : Logs recorded plain given)
    (follows : ∀ value added, given value added →
      Logs (next value) (plainNext value)
        fun result more => property result (added ++ more)) :
    Logs (recorded >>= next) (plain >>= plainNext) property where
  forgets earlier := by
    -- The entries are needed to know that the value is one of the results.
    obtain ⟨proved, forgotten⟩ := first.adds earlier
    rw [StateT.run_bind, map_bind, ← first.forgets earlier, bind_map_left,
      ← forgotten, bind_map_left, bind_map_left]
    refine bind_congr fun step => ?_
    obtain ⟨⟨value, _⟩, added, rfl, holds⟩ := step
    exact (follows value added holds).forgets (earlier ++ added)
  adds earlier := by
    rw [StateT.run_bind]
    refine .bind_of (first.adds earlier) ?_
    rintro ⟨value, _⟩ ⟨added, rfl, holds⟩
    refine ((follows value added holds).adds _).imp ?_
    rintro ⟨result, _⟩ ⟨more, rfl, gives⟩
    exact ⟨added ++ more, List.append_assoc .., gives⟩

theorem imp (logs : Logs recorded plain given)
    (weaker : ∀ result added, given result added → property result added) :
    Logs recorded plain property where
  forgets := logs.forgets
  adds earlier := (logs.adds earlier).imp
    fun _ ⟨added, same, holds⟩ => ⟨added, same, weaker _ _ holds⟩

end Logs

end ToolSelect
