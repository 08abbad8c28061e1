import ToolSelect.Path

/-!
# Paths with the same components

A text is cut at every separator, so cutting undoes joining.  A path that is
joined to a directory adds its fields to the directory's components, whatever
the spelling of the directory.
-/

namespace ToolSelect

namespace Text

theorem fields_of_not_mem {separator : Char} {field : List Char}
    (clean : separator ∉ field) : fields separator field = [field] := by
  induction field with
  | nil => rfl
  | cons c field induction =>
      have different : c ≠ separator :=
        Ne.symm (List.ne_of_not_mem_cons clean)
      rw [fields, if_neg different,
        induction (List.not_mem_of_not_mem_cons clean)]

/-- The separator that comes first ends the fields of the text before it. -/
theorem fields_append (separator : Char) (text more : List Char) :
    fields separator (text ++ separator :: more) =
      fields separator text ++ fields separator more := by
  induction text with
  | nil => simp [fields]
  | cons c text induction =>
      rw [List.cons_append, fields, fields, induction]
      by_cases same : c = separator
      · simp [same]
      · rw [if_neg same, if_neg same]
        cases cut : fields separator text with
        | nil => exact absurd cut (fields_ne_nil separator text)
        | cons field others => rfl

theorem fields_joinFields {separator : Char} {entries : List (List Char)}
    (nonempty : entries ≠ [])
    (clean : ∀ entry ∈ entries, separator ∉ entry) :
    fields separator (joinFields separator entries) = entries := by
  induction entries with
  | nil => exact absurd rfl nonempty
  | cons entry entries induction =>
      obtain ⟨first, rest⟩ := List.forall_mem_cons.mp clean
      cases entries with
      | nil => exact fields_of_not_mem first
      | cons next entries =>
          rw [joinFields, fields_append, fields_of_not_mem first,
            induction (List.cons_ne_nil _ _) rest]
          · rfl
          · exact List.cons_ne_nil next entries

end Text

namespace Path

/-- The components that the fields of a text add to a path. -/
def addedComponents (text : List Char) : List Component :=
  (Text.fields '/' text).filterMap componentOf?

theorem componentsOf_append {text : List Char} (nonempty : text ≠ [])
    (more : List Char) :
    componentsOf (text ++ '/' :: more) =
      componentsOf text ++ addedComponents more := by
  have sameHead : (text ++ '/' :: more).head? = text.head? := by
    cases text with
    | nil => exact absurd rfl nonempty
    | cons c text => rfl
  have sameField : (Text.fields '/' (text ++ '/' :: more)).head? =
      (Text.fields '/' text).head? := by
    rw [Text.fields_append]
    cases cut : Text.fields '/' text with
    | nil => exact absurd cut (Text.fields_ne_nil '/' text)
    | cons field others => rfl
  simp only [componentsOf, sameHead, sameField]
  rw [Text.fields_append, List.filterMap_append, List.append_assoc]
  rfl

private theorem componentsOf_root (more : List Char) :
    componentsOf ('/' :: more) =
      componentsOf ['/'] ++ addedComponents more := by
  simp [componentsOf, Text.fields, addedComponents, componentOf?]

private theorem componentsOf_ending (text more : List Char) :
    componentsOf (text ++ '/' :: more) =
      componentsOf (text ++ ['/']) ++ addedComponents more := by
  cases text with
  | nil => exact componentsOf_root more
  | cons c text =>
      have nothing : addedComponents [] = [] := rfl
      rw [componentsOf_append (List.cons_ne_nil c text),
        componentsOf_append (List.cons_ne_nil c text), nothing,
        List.append_nil]

theorem components_join {directory : Path} {name : String}
    (nonempty : directory ≠ ⟨""⟩)
    (relative : (Path.mk name).isAbsolute = false) :
    (directory.join name).components =
      directory.components ++ addedComponents name.toList := by
  have characters : directory.text.toList ≠ [] := by
    intro empty
    obtain ⟨text⟩ := directory
    exact nonempty (congrArg mk (String.toList_eq_nil_iff.mp empty))
  rw [join, relative, if_neg Bool.false_ne_true]
  split
  next ends =>
    obtain ⟨before, last, split⟩ :=
      List.eq_nil_or_concat directory.text.toList |>.resolve_left characters
    obtain rfl : last = '/' := by
      simpa [split] using ends
    rw [List.concat_eq_append] at split
    simp only [components, String.toList_append, split]
    rw [List.append_assoc]
    exact componentsOf_ending before name.toList
  next =>
    simp only [components, String.toList_append]
    rw [List.append_assoc]
    exact componentsOf_append characters name.toList

private theorem componentsOf_eq_nil_iff {text : List Char} :
    componentsOf text = [] ↔ text = [] := by
  refine ⟨fun none => ?_, fun empty => by rw [empty]; rfl⟩
  cases text with
  | nil => rfl
  | cons c text =>
      by_cases root : c = '/'
      · simp [componentsOf, root] at none
      · cases cut : Text.fields '/' text with
        | nil => exact absurd cut (Text.fields_ne_nil '/' text)
        | cons field others =>
            have fields : Text.fields '/' (c :: text) =
                (c :: field) :: others := by
              rw [Text.fields, if_neg root, cut]
            by_cases dot : c :: field = ['.']
            · simp [componentsOf, fields, root, dot] at none
            · have named : (componentOf? (c :: field)).isSome = true := by
                unfold componentOf?
                rw [if_neg (by simp [dot])]
                split <;> rfl
              obtain ⟨component, read⟩ := Option.isSome_iff_exists.mp named
              simp [componentsOf, fields, root, dot, read] at none

theorem components_eq_nil_iff {path : Path} :
    path.components = [] ↔ path = ⟨""⟩ := by
  obtain ⟨text⟩ := path
  rw [components, componentsOf_eq_nil_iff, String.toList_eq_nil_iff,
    mk.injEq]

theorem Same.refl (path : Path) : path.Same path :=
  Eq.refl path.components

theorem Same.symm {left right : Path} (same : left.Same right) :
    right.Same left :=
  Eq.symm same

theorem Same.trans {left middle right : Path} (same : left.Same middle)
    (next : middle.Same right) : left.Same right :=
  Eq.trans same next

/-- Spellings of one directory lead to spellings of one file. -/
theorem Same.join {left right : Path} (same : left.Same right)
    (name : String) : (left.join name).Same (right.join name) := by
  have given : left.components = right.components := same
  cases absolute : (Path.mk name).isAbsolute with
  | true => simp [Path.join, absolute, Same]
  | false =>
      by_cases leftEmpty : left = ⟨""⟩
      · have rightEmpty : right = ⟨""⟩ := by
          rw [← components_eq_nil_iff, ← given, components_eq_nil_iff]
          exact leftEmpty
        rw [leftEmpty, rightEmpty]
        rfl
      · have rightSome : right ≠ ⟨""⟩ := by
          rw [ne_eq, ← components_eq_nil_iff, ← given, components_eq_nil_iff]
          exact leftEmpty
        change (left.join name).components = (right.join name).components
        rw [components_join leftEmpty absolute,
          components_join rightSome absolute, given]

end Path

end ToolSelect
