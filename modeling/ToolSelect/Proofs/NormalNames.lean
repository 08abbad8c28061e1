import ToolSelect.Text.Blank
import ToolSelect.Text.LowerCase

/-!
# Normal names

A name is normal if it has no blanks at its ends and lower-casing leaves each
of its characters alone.  Trimming and lower-casing make every name normal, and
a normal name stays as it is.
-/

namespace ToolSelect.Text

namespace LetterRun

def start (run : LetterRun) : Nat :=
  run.lowered run.first

def stop (run : LetterRun) : Nat :=
  run.lowered run.last

/-- The lower-case letters of the run end before the span, or start behind
it. -/
def avoids (run : LetterRun) (span : CodeSpan) : Bool :=
  -- The whole table is checked by evaluation, which is fast on `Nat.blt`.
  run.stop.blt span.1 || span.2.blt run.start

/-- No letter of the run is lowered to a letter of the other: they lie apart, or
those have the even code points and these the odd ones. -/
def clears (run other : LetterRun) : Bool :=
  run.avoids (other.first, other.last) ||
    (run.step == 2 || run.first == run.last) && other.step == 2 &&
      (run.start + other.first) % 2 == 1

/-- The code points that no letter is lowered to: those of no character, the
letters with a rule of their own, and the blanks. -/
def forbidden : List CodeSpan :=
  (0xD800, 0xDFFF) :: ('İ'.toNat, 'İ'.toNat) :: ('Σ'.toNat, 'Σ'.toNat) ::
    blankSpans

/-- What a run has to keep to among the runs. -/
def isWellPlaced (run : LetterRun) : Bool :=
  0 ≤ run.first + run.shift && run.stop < 0x110000 &&
    forbidden.all run.avoids && letterRuns.all run.clears

theorem isWellPlaced_all : letterRuns.all isWellPlaced = true := by
  decide +kernel

variable {run : LetterRun} {code : Nat}

theorem lowered_eq (placed : 0 ≤ run.first + run.shift)
    (holds : run.holds code = true) :
    run.lowered code = run.start + (code - run.first) ∧
      run.lowered code ≤ run.stop ∧ (code - run.first) % run.step = 0 := by
  simp only [LetterRun.holds, Bool.and_eq_true, decide_eq_true_eq,
    beq_iff_eq] at holds
  simp only [start, stop, lowered]
  omega

theorem outside_of_avoids (placed : 0 ≤ run.first + run.shift)
    (holds : run.holds code = true) {span : CodeSpan}
    (avoids : run.avoids span = true) :
    ¬(span.1 ≤ run.lowered code ∧ run.lowered code ≤ span.2) := by
  have bounds := lowered_eq placed holds
  simp only [LetterRun.avoids, Bool.or_eq_true, Nat.blt_eq] at avoids
  omega

theorem not_holds_of_clears (placed : 0 ≤ run.first + run.shift)
    (holds : run.holds code = true) {other : LetterRun}
    (clears : run.clears other = true) :
    other.holds (run.lowered code) = false := by
  simp only [LetterRun.clears, Bool.or_eq_true] at clears
  rcases clears with avoids | parity
  · have outside := outside_of_avoids placed holds avoids
    simp only [LetterRun.holds, Bool.and_eq_false_imp, Bool.and_eq_true,
      decide_eq_true_eq]
    exact fun inside => absurd inside outside
  · -- The letters of both runs are two code points apart, and those that this
    -- run is lowered to have the other parity.
    obtain ⟨shifted, -, steps⟩ := lowered_eq placed holds
    simp only [LetterRun.holds, Bool.and_eq_true, Bool.or_eq_true,
      decide_eq_true_eq, beq_iff_eq] at parity holds
    obtain ⟨⟨even, twice⟩, odd⟩ := parity
    have apart : (code - run.first) % 2 = 0 := by
      rcases even with two | single
      · rwa [two] at steps
      · omega
    simp only [LetterRun.holds, twice, Bool.and_eq_false_imp,
      Bool.and_eq_true, decide_eq_true_eq, beq_eq_false_iff_ne]
    omega

end LetterRun

/-- Lower-casing leaves the character alone, wherever it stands. -/
def IsSmall (c : Char) : Prop :=
  c ≠ 'Σ' ∧ lowerChar c = [c]

instance (c : Char) : Decidable (IsSmall c) :=
  inferInstanceAs (Decidable (c ≠ 'Σ' ∧ lowerChar c = [c]))

section Letters

variable {run : LetterRun} {code : Nat}

theorem LetterRun.wellPlaced_of_mem (member : run ∈ letterRuns) :
    run.isWellPlaced = true :=
  List.all_eq_true.mp isWellPlaced_all run member

theorem LetterRun.lowered_allowed (member : run ∈ letterRuns)
    (holds : run.holds code = true) :
    ∀ span ∈ forbidden,
      ¬(span.1 ≤ run.lowered code ∧ run.lowered code ≤ span.2) := by
  have wellPlaced := wellPlaced_of_mem member
  simp only [isWellPlaced, Bool.and_eq_true, decide_eq_true_eq,
    List.all_eq_true] at wellPlaced
  obtain ⟨⟨⟨placed, -⟩, avoids⟩, -⟩ := wellPlaced
  exact fun span known => outside_of_avoids placed holds (avoids span known)

theorem LetterRun.toNat_lowered (member : run ∈ letterRuns)
    (holds : run.holds code = true) :
    (Char.ofNat (run.lowered code)).toNat = run.lowered code := by
  have wellPlaced := wellPlaced_of_mem member
  simp only [isWellPlaced, Bool.and_eq_true, decide_eq_true_eq] at wellPlaced
  obtain ⟨⟨⟨placed, small⟩, -⟩, -⟩ := wellPlaced
  have bound := (lowered_eq placed holds).2.1
  have surrogate := lowered_allowed member holds _ (List.mem_cons_self ..)
  have valid : (run.lowered code).isValidChar := by
    simp only [Nat.isValidChar]
    omega
  rw [Char.ofNat, dif_pos valid]
  rfl

theorem lowered_of_mem (member : run ∈ letterRuns)
    (holds : run.holds code = true) :
    IsSmall (Char.ofNat (run.lowered code)) ∧
      isBlank (Char.ofNat (run.lowered code)) = false := by
  have wellPlaced := LetterRun.wellPlaced_of_mem member
  simp only [LetterRun.isWellPlaced, Bool.and_eq_true, decide_eq_true_eq,
    List.all_eq_true] at wellPlaced
  obtain ⟨⟨⟨placed, -⟩, -⟩, clears⟩ := wellPlaced
  have same := LetterRun.toNat_lowered member holds
  have outside := LetterRun.lowered_allowed member holds
  simp only [LetterRun.forbidden, List.forall_mem_cons] at outside
  obtain ⟨-, dotted, sigma, blank⟩ := outside
  have notDotted : Char.ofNat (run.lowered code) ≠ 'İ' := by
    intro equal
    rw [← same, equal] at dotted
    exact dotted ⟨Nat.le_refl _, Nat.le_refl _⟩
  have notSigma : Char.ofNat (run.lowered code) ≠ 'Σ' := by
    intro equal
    rw [← same, equal] at sigma
    exact sigma ⟨Nat.le_refl _, Nat.le_refl _⟩
  have noRun : letterRuns.find? (·.holds (run.lowered code)) = none := by
    refine List.find?_eq_none.mpr fun other otherMember => ?_
    rw [LetterRun.not_holds_of_clears placed holds (clears other otherMember)]
    exact Bool.false_ne_true
  refine ⟨⟨notSigma, ?_⟩, ?_⟩
  · rw [lowerChar, if_neg notDotted, same, noRun]
  · rw [Bool.eq_false_iff, Ne, isBlank, inSpans_eq_true_iff, same]
    rintro ⟨span, blankSpan, inside⟩
    exact blank span blankSpan inside

end Letters

theorem lowerChar_ne_nil (c : Char) : lowerChar c ≠ [] := by
  rw [lowerChar]
  split
  next => exact List.cons_ne_nil _ _
  next => split <;> exact List.cons_ne_nil _ _

/-- Apart from the capital sigma, a character is lowered to small letters, and
to a blank only if it is one. -/
theorem of_mem_lowerChar {c d : Char} (notSigma : c ≠ 'Σ')
    (member : d ∈ lowerChar c) :
    IsSmall d ∧ (isBlank c = false → isBlank d = false) := by
  by_cases dotted : c = 'İ'
  · rw [lowerChar, if_pos dotted] at member
    have letter : IsSmall 'i' ∧ isBlank 'i' = false := by decide
    have dot : IsSmall '\u0307' ∧ isBlank '\u0307' = false := by decide
    simp only [List.mem_cons, List.not_mem_nil, or_false] at member
    rcases member with rfl | rfl
    · exact ⟨letter.1, fun _ => letter.2⟩
    · exact ⟨dot.1, fun _ => dot.2⟩
  · cases found : letterRuns.find? (·.holds c.toNat) with
    | none =>
        have unchanged : lowerChar c = [c] := by
          rw [lowerChar, if_neg dotted, found]
        rw [unchanged, List.mem_singleton] at member
        subst member
        exact ⟨⟨notSigma, unchanged⟩, id⟩
    | some run =>
        have holds : run.holds c.toNat = true := by
          simpa using List.find?_some found
        rw [lowerChar, if_neg dotted, found, List.mem_singleton] at member
        subst member
        have lowered := lowered_of_mem (List.mem_of_find?_eq_some found) holds
        exact ⟨lowered.1, fun _ => lowered.2⟩

/-- What a character becomes between the text before it, which is given from
its end, and the text behind it. -/
def lowerAt (before : List Char) (c : Char) (rest : List Char) : List Char :=
  if c = 'Σ' then
    [if startsCased before && !startsCased rest then 'ς' else 'σ']
  else
    lowerChar c

theorem lowerAfter_cons (before : List Char) (c : Char) (rest : List Char) :
    lowerAfter before (c :: rest) =
      lowerAt before c rest ++ lowerAfter (c :: before) rest :=
  rfl

theorem lowerAt_ne_nil (before : List Char) (c : Char) (rest : List Char) :
    lowerAt before c rest ≠ [] := by
  rw [lowerAt]
  split
  next => exact List.cons_ne_nil _ _
  next => exact lowerChar_ne_nil c

theorem of_mem_lowerAt {before rest : List Char} {c d : Char}
    (member : d ∈ lowerAt before c rest) :
    IsSmall d ∧ (isBlank c = false → isBlank d = false) := by
  rw [lowerAt] at member
  split at member
  next =>
    have final : IsSmall 'ς' ∧ isBlank 'ς' = false := by decide
    have inner : IsSmall 'σ' ∧ isBlank 'σ' = false := by decide
    rw [List.mem_singleton.mp member]
    split
    · exact ⟨final.1, fun _ => final.2⟩
    · exact ⟨inner.1, fun _ => inner.2⟩
  next notSigma => exact of_mem_lowerChar notSigma member

theorem lowerAfter_eq_nil_iff {before text : List Char} :
    lowerAfter before text = [] ↔ text = [] := by
  cases text with
  | nil => exact ⟨fun _ => rfl, fun _ => rfl⟩
  | cons c rest => simp [lowerAfter_cons, lowerAt_ne_nil]

theorem isSmall_of_mem_lowerAfter {before text : List Char} {d : Char}
    (member : d ∈ lowerAfter before text) : IsSmall d := by
  induction text generalizing before with
  | nil => cases member
  | cons c rest induction =>
      rw [lowerAfter_cons] at member
      rcases List.mem_append.mp member with here | later
      · exact (of_mem_lowerAt here).1
      · exact induction later

theorem lowerAfter_of_isSmall {before text : List Char}
    (small : ∀ c ∈ text, IsSmall c) : lowerAfter before text = text := by
  induction text generalizing before with
  | nil => rfl
  | cons c rest induction =>
      obtain ⟨⟨notSigma, unchanged⟩, others⟩ := List.forall_mem_cons.mp small
      rw [lowerAfter_cons, lowerAt, if_neg notSigma, unchanged,
        induction others]
      rfl

/-- The text neither starts nor ends with a blank. -/
structure IsTrimmed (text : List Char) : Prop where
  first : ∀ c ∈ text.head?, isBlank c = false
  last : ∀ c ∈ text.getLast?, isBlank c = false

private theorem getLast?_trimEnd (text : List Char) :
    ∀ c ∈ (trimEnd text).getLast?, isBlank c = false := by
  induction text with
  | nil => nofun
  | cons c rest induction =>
      rw [trimEnd]
      cases kept : trimEnd rest with
      | nil => cases blank : isBlank c <;> simp [blank]
      | cons d others =>
          rw [kept] at induction
          simpa using induction

private theorem head?_trimEnd {text : List Char}
    (first : ∀ c ∈ text.head?, isBlank c = false) :
    ∀ c ∈ (trimEnd text).head?, isBlank c = false := by
  cases text with
  | nil => nofun
  | cons c rest =>
      have solid : isBlank c = false := first c rfl
      simp [trimEnd, solid]

private theorem trimEnd_of_last {text : List Char}
    (last : ∀ c ∈ text.getLast?, isBlank c = false) : trimEnd text = text := by
  induction text with
  | nil => rfl
  | cons c rest induction =>
      cases rest with
      | nil =>
          have solid : isBlank c = false := last c rfl
          simp [trimEnd, solid]
      | cons d others =>
          rw [trimEnd, induction (by simpa using last)]
          simp

theorem isTrimmed_trim (text : List Char) : IsTrimmed (trim text) := by
  refine ⟨head?_trimEnd fun c member => ?_, getLast?_trimEnd _⟩
  have first := List.head?_dropWhile_not isBlank text
  rw [trimStart] at member
  rw [Option.mem_def.mp member] at first
  simpa using first

theorem trim_of_isTrimmed {text : List Char} (trimmed : IsTrimmed text) :
    trim text = text := by
  have start : trimStart text = text := by
    cases text with
    | nil => rfl
    | cons c rest =>
        have solid : isBlank c = false := trimmed.first c rfl
        exact List.dropWhile_cons_of_neg (by simp [solid])
  rw [trim, start, trimEnd_of_last trimmed.last]

private theorem getLast?_lowerAfter {before text : List Char}
    (last : ∀ c ∈ text.getLast?, isBlank c = false) :
    ∀ d ∈ (lowerAfter before text).getLast?, isBlank d = false := by
  induction text generalizing before with
  | nil => nofun
  | cons c rest induction =>
      intro d member
      rw [lowerAfter_cons] at member
      cases rest with
      | nil =>
          rw [lowerAfter, List.append_nil] at member
          exact (of_mem_lowerAt (List.mem_of_getLast? member)).2 (last c rfl)
      | cons next others =>
          rw [List.getLast?_append] at member
          rcases Option.or_eq_some_iff.mp member with later | ⟨none, -⟩
          · exact induction (by simpa using last) d later
          · rw [List.getLast?_eq_none_iff, lowerAfter_eq_nil_iff] at none
            cases none

/-- Lower-casing brings no blank to the ends of a text. -/
theorem isTrimmed_lower {text : List Char} (trimmed : IsTrimmed text) :
    IsTrimmed (lower text) := by
  refine ⟨?_, getLast?_lowerAfter trimmed.last⟩
  cases text with
  | nil => nofun
  | cons c rest =>
      intro d member
      rw [lower, lowerAfter_cons, List.head?_append] at member
      rcases Option.or_eq_some_iff.mp member with here | ⟨none, -⟩
      · exact (of_mem_lowerAt (List.mem_of_head? here)).2
          (trimmed.first c rfl)
      · exact absurd (List.head?_eq_none_iff.mp none)
          (lowerAt_ne_nil [] c rest)

/-- The text is the name that it is compared by. -/
structure IsNormal (text : List Char) : Prop where
  trimmed : IsTrimmed text
  small : ∀ c ∈ text, IsSmall c

theorem isNormal_lower_trim (text : List Char) :
    IsNormal (lower (trim text)) :=
  ⟨isTrimmed_lower (isTrimmed_trim text),
    fun _ member => isSmall_of_mem_lowerAfter member⟩

theorem lower_trim_of_isNormal {text : List Char} (normal : IsNormal text) :
    lower (trim text) = text := by
  rw [trim_of_isTrimmed normal.trimmed]
  exact lowerAfter_of_isSmall normal.small

/-- The name that a text is compared by is compared by itself. -/
theorem lower_trim_lower_trim (text : List Char) :
    lower (trim (lower (trim text))) = lower (trim text) :=
  lower_trim_of_isNormal (isNormal_lower_trim text)

end ToolSelect.Text
