import Mathlib.Tactic.Choose

/-!
# Properties of results

An action may have effects and still have no result without a property.  Such a
property goes along the steps of an action, and it holds of the result wherever
the action is run.  Actions that may fail succeed where each of their steps
does.
-/

namespace ToolSelect

variable {m : Type → Type}

/-- The action has no result without the property: it is an action whose results
come with a proof of it, and forgets the proof. -/
def Always {α : Type} [Monad m] (action : m α) (property : α → Prop) : Prop :=
  ∃ proved : m { result // property result }, Subtype.val <$> proved = action

namespace Always

variable {α β : Type}

theorem of_id {action : Id α} {property : α → Prop}
    (always : Always action property) : property action.run := by
  obtain ⟨proved, rfl⟩ := always
  exact proved.run.property

theorem of_state {State : Type} {action : StateM State α}
    {property : α → Prop} (always : Always action property) (state : State) :
    property (action.run state).1 := by
  obtain ⟨proved, rfl⟩ := always
  exact (proved.run state).1.property

variable [Monad m] [LawfulMonad m]

theorem pure {result : α} {property : α → Prop} (holds : property result) :
    Always (Pure.pure result : m α) property :=
  ⟨Pure.pure ⟨result, holds⟩, map_pure ..⟩

theorem imp {action : m α} {given property : α → Prop}
    (always : Always action given)
    (weaker : ∀ result, given result → property result) :
    Always action property := by
  obtain ⟨proved, rfl⟩ := always
  refine ⟨(fun result => ⟨result.val, weaker _ result.property⟩) <$> proved, ?_⟩
  rw [← comp_map]
  rfl

theorem bind (action : m α) {next : α → m β} {property : β → Prop}
    (always : ∀ value, Always (next value) property) :
    Always (action >>= next) property := by
  -- Every value has an action of its own whose results carry proofs.
  choose proved forgotten using always
  refine ⟨action >>= proved, ?_⟩
  rw [map_bind]
  exact bind_congr forgotten

/-- What follows an action has the property for all the results that the action
can have. -/
theorem bind_of {action : m α} {next : α → m β} {given : α → Prop}
    {property : β → Prop} (first : Always action given)
    (always : ∀ value, given value → Always (next value) property) :
    Always (action >>= next) property := by
  obtain ⟨proved, rfl⟩ := first
  rw [bind_map_left]
  exact bind proved fun value => always value value.property

end Always

/-- The outcome is a problem, or a value with the property. -/
def IfOk {ε α : Type} (property : α → Prop) (outcome : Except ε α) : Prop :=
  ∀ value, outcome = .ok value → property value

theorem ifOk_error {ε α : Type} {property : α → Prop} (problem : ε) :
    IfOk property (.error problem : Except ε α) :=
  nofun

theorem ifOk_ok {ε α : Type} {property : α → Prop} {value : α}
    (holds : property value) : IfOk property (.ok value : Except ε α) := by
  rintro _ ⟨⟩
  exact holds

theorem bind_eq_ok {ε α β : Type} {first : Except ε α}
    {next : α → Except ε β} {result : β} :
    (first >>= next) = .ok result ↔
      ∃ value, first = .ok value ∧ next value = .ok result := by
  cases first with
  | error problem =>
      constructor
      · intro success
        cases success
      · rintro ⟨value, success, -⟩
        cases success
  | ok value =>
      constructor
      · intro success
        exact ⟨value, rfl, success⟩
      · rintro ⟨other, same, success⟩
        cases same
        exact success

theorem discard_eq_ok {ε α : Type} {action : Except ε α} :
    discard action = .ok () ↔ ∃ value, action = .ok value := by
  cases action with
  | error problem => exact ⟨nofun, nofun⟩
  | ok value => exact ⟨fun _ => ⟨value, rfl⟩, fun _ => rfl⟩

theorem forM_eq_ok {ε α : Type} {check : α → Except ε Unit}
    {items : List α} :
    items.forM check = .ok () ↔ ∀ item ∈ items, check item = .ok () := by
  induction items with
  | nil => exact ⟨nofun, fun _ => rfl⟩
  | cons item items induction =>
      rw [List.forM, bind_eq_ok]
      simp only [induction, List.forall_mem_cons]
      exact ⟨fun ⟨_, first, rest⟩ => ⟨first, rest⟩,
        fun ⟨first, rest⟩ => ⟨(), first, rest⟩⟩

theorem mapM_eq_ok {ε α β : Type} {convert : α → Except ε β}
    {result : α → β} {items : List α}
    (converted : ∀ item ∈ items, convert item = .ok (result item)) :
    items.mapM convert = .ok (items.map result) := by
  induction items with
  | nil => rfl
  | cons item items induction =>
      obtain ⟨first, rest⟩ := List.forall_mem_cons.mp converted
      rw [List.mapM_cons, first, induction rest]
      rfl

end ToolSelect
