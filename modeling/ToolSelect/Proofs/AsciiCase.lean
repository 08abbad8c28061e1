import ToolSelect.Proofs.NormalNames
import ToolSelect.Text.Ascii

/-!
# Lower case and ASCII case

Lower-casing knows the letters of all alphabets, and two of its letters beyond
ASCII have a lower case that starts with an ASCII letter: the Kelvin sign
becomes a `k`, and the dotted capital I an `i` with its dot as a mark.  Plain
names are safe from both, so a text is lowered to a plain name only if it is
the name up to the case of its ASCII letters.
-/

namespace ToolSelect.Text

def IsAscii (c : Char) : Prop :=
  c.toNat < 128

instance (c : Char) : Decidable (IsAscii c) :=
  inferInstanceAs (Decidable (c.toNat < 128))

/-- An ASCII character, but not the one that the Kelvin sign is lowered to. -/
def IsPlain (c : Char) : Prop :=
  IsAscii c ∧ c ≠ 'k'

instance (c : Char) : Decidable (IsPlain c) :=
  inferInstanceAs (Decidable (IsAscii c ∧ c ≠ 'k'))

namespace LetterRun

/-- The letters are ASCII letters, or their lower case is beyond ASCII, or the
Kelvin sign is the only one. -/
def keepsAscii (run : LetterRun) : Bool :=
  run.last.blt 128 || Nat.ble 128 run.start ||
    run.first == run.last && run.start == 'k'.toNat

theorem keepsAscii_all : letterRuns.all keepsAscii = true := by
  decide +kernel

theorem not_isPlain_lowered {run : LetterRun} (member : run ∈ letterRuns)
    {code : Nat} (holds : run.holds code = true) (foreign : 128 ≤ code) :
    ¬IsPlain (Char.ofNat (run.lowered code)) := by
  have wellPlaced := wellPlaced_of_mem member
  simp only [isWellPlaced, Bool.and_eq_true, decide_eq_true_eq] at wellPlaced
  obtain ⟨⟨⟨placed, -⟩, -⟩, -⟩ := wellPlaced
  obtain ⟨shifted, -, -⟩ := lowered_eq placed holds
  have within : run.first ≤ code ∧ code ≤ run.last := by
    simp only [LetterRun.holds, Bool.and_eq_true, decide_eq_true_eq] at holds
    exact holds.1
  have keeps := List.all_eq_true.mp keepsAscii_all run member
  simp only [keepsAscii, Bool.or_eq_true, Bool.and_eq_true, Nat.blt_eq,
    Nat.ble_eq, beq_iff_eq] at keeps
  rintro ⟨ascii, notKelvin⟩
  rw [IsAscii, toNat_lowered member holds] at ascii
  rcases keeps with (ending | starting) | ⟨single, kelvin⟩
  · omega
  · omega
  · have letter : run.lowered code = 'k'.toNat := by omega
    rw [letter] at notKelvin
    exact notKelvin (Char.ofNat_toNat 'k')

end LetterRun

theorem lowerChar_of_isAscii {c : Char} (ascii : IsAscii c) :
    lowerChar c = [c.toLower] := by
  have every : ∀ code < 128,
      lowerChar (Char.ofNat code) = [(Char.ofNat code).toLower] := by
    decide +kernel
  have lowered := every c.toNat ascii
  rwa [Char.ofNat_toNat] at lowered

theorem lowerAt_of_isAscii {c : Char} (ascii : IsAscii c)
    (before rest : List Char) : lowerAt before c rest = [c.toLower] := by
  have notSigma : c ≠ 'Σ' := by
    rintro rfl
    exact absurd ascii (by decide)
  rw [lowerAt, if_neg notSigma, lowerChar_of_isAscii ascii]

/-- A character beyond ASCII becomes one that is not plain, unless it is the
dotted capital I. -/
theorem lowerAt_of_not_isAscii {c : Char} (foreign : ¬IsAscii c)
    (before rest : List Char) :
    (∃ d, lowerAt before c rest = [d] ∧ ¬IsPlain d) ∨
      lowerAt before c rest = ['i', '\u0307'] := by
  rw [lowerAt]
  split
  next =>
    refine .inl ⟨_, rfl, ?_⟩
    split <;> decide
  next =>
    rw [lowerChar]
    split
    next => exact .inr rfl
    next =>
      left
      split
      next run found =>
        have holds : run.holds c.toNat = true := by
          simpa using List.find?_some found
        exact ⟨_, rfl, LetterRun.not_isPlain_lowered
          (List.mem_of_find?_eq_some found) holds (Nat.le_of_not_gt foreign)⟩
      next => exact ⟨c, rfl, fun plain => foreign plain.1⟩

/-- A plain name that a lower-cased text starts with comes from the ASCII
characters at the start of the text.  The name must not end between the
dotted letter and its dot. -/
theorem exists_start_of_lowerAfter {name more text before : List Char}
    (plain : ∀ d ∈ name, IsPlain d)
    (whole : name.getLast? = some 'i' → more = [])
    (lowered : lowerAfter before text = name ++ more) :
    ∃ start rest, text = start ++ rest ∧ (∀ c ∈ start, IsAscii c) ∧
      asciiLower start = name ∧
      lowerAfter (start.reverse ++ before) rest = more := by
  induction name generalizing text before with
  | nil => exact ⟨[], text, rfl, nofun, rfl, lowered⟩
  | cons d name induction =>
      obtain ⟨first, others⟩ := List.forall_mem_cons.mp plain
      cases text with
      | nil => cases lowered
      | cons c text =>
          rw [lowerAfter_cons] at lowered
          by_cases ascii : IsAscii c
          · rw [lowerAt_of_isAscii ascii] at lowered
            obtain ⟨letter, follows⟩ := List.cons_eq_cons.mp lowered
            have wholeRest : name.getLast? = some 'i' → more = [] := by
              intro last
              apply whole
              rw [List.getLast?_cons, last]
              rfl
            obtain ⟨start, rest, split, startAscii, named, remains⟩ :=
              induction others wholeRest follows
            refine ⟨c :: start, rest, ?_, ?_, ?_, ?_⟩
            · rw [split, List.cons_append]
            · exact List.forall_mem_cons.mpr ⟨ascii, startAscii⟩
            · rw [← named, ← letter]
              rfl
            · rw [List.reverse_cons, List.append_assoc]
              exact remains
          · -- Of the characters beyond ASCII only the dotted capital is lowered
            -- to a plain letter, and its dot is none.
            rcases lowerAt_of_not_isAscii ascii before text with
              ⟨other, single, foreign⟩ | dotted
            · rw [single] at lowered
              obtain ⟨same, -⟩ := List.cons_eq_cons.mp lowered
              exact absurd (same ▸ first) foreign
            · rw [dotted] at lowered
              obtain ⟨letter, follows⟩ := List.cons_eq_cons.mp lowered
              cases name with
              | nil =>
                  have none := whole (letter ▸ rfl)
                  rw [none] at follows
                  cases follows
              | cons e name =>
                  obtain ⟨mark, -⟩ := List.cons_eq_cons.mp follows
                  have plainMark : IsPlain '\u0307' :=
                    mark ▸ others e (List.mem_cons_self ..)
                  exact absurd plainMark (by decide)

theorem isAscii_of_toLower {c : Char} (ascii : IsAscii c.toLower) :
    IsAscii c := by
  refine Decidable.byContradiction fun foreign => ?_
  have noCapital : ¬(c.val ≥ 'A'.val ∧ c.val ≤ 'Z'.val) :=
    fun capital => foreign (Nat.lt_of_le_of_lt capital.2 (by decide))
  have unchanged : c.toLower = c := dif_neg noCapital
  rw [unchanged] at ascii
  exact foreign ascii

theorem isAscii_of_asciiLower {text : List Char}
    (ascii : ∀ d ∈ asciiLower text, IsAscii d) : ∀ c ∈ text, IsAscii c :=
  fun _ member => isAscii_of_toLower (ascii _ (List.mem_map_of_mem member))

theorem lowerAfter_of_isAscii {start : List Char}
    (ascii : ∀ c ∈ start, IsAscii c) (before rest : List Char) :
    lowerAfter before (start ++ rest) =
      asciiLower start ++ lowerAfter (start.reverse ++ before) rest := by
  induction start generalizing before with
  | nil => rfl
  | cons c start induction =>
      obtain ⟨first, others⟩ := List.forall_mem_cons.mp ascii
      rw [List.cons_append, lowerAfter_cons, lowerAt_of_isAscii first,
        induction others, List.reverse_cons, List.append_assoc]
      rfl

/-- A text is lowered to a plain name if and only if it is the name up to the
case of ASCII letters. -/
theorem lower_eq_iff_of_isPlain {name : List Char}
    (plain : ∀ d ∈ name, IsPlain d) (text : List Char) :
    lower text = name ↔ asciiLower text = name := by
  constructor
  · intro lowered
    obtain ⟨start, rest, split, -, named, remains⟩ :=
      exists_start_of_lowerAfter plain (fun _ => rfl)
        (lowered.trans (List.append_nil name).symm)
    have nothing : rest = [] := lowerAfter_eq_nil_iff.mp remains
    rw [split, nothing, List.append_nil, named]
  · rintro rfl
    have ascii : ∀ c ∈ text, IsAscii c :=
      isAscii_of_asciiLower fun d member => (plain d member).1
    have lowered := lowerAfter_of_isAscii ascii [] []
    rwa [List.append_nil, lowerAfter, List.append_nil] at lowered

/-- The same for the start of a text, if the name does not end where the dot of
a dotted letter could follow. -/
theorem isPrefix_lower_iff_of_isPlain {name : List Char}
    (plain : ∀ d ∈ name, IsPlain d) (undotted : name.getLast? ≠ some 'i')
    (text : List Char) :
    name <+: lower text ↔ asciiLower (text.take name.length) = name := by
  constructor
  · rintro ⟨more, lowered⟩
    obtain ⟨start, rest, split, -, named, -⟩ :=
      exists_start_of_lowerAfter plain (fun last => absurd last undotted)
        lowered.symm
    have length : start.length = name.length := by
      rw [← named, asciiLower, List.length_map]
    rw [split, ← length, List.take_left, named]
  · intro named
    have ascii : ∀ c ∈ text.take name.length, IsAscii c := by
      apply isAscii_of_asciiLower
      rw [named]
      exact fun d member => (plain d member).1
    have lowered := lowerAfter_of_isAscii ascii [] (text.drop name.length)
    rw [List.take_append_drop, named] at lowered
    exact ⟨_, lowered.symm⟩

end ToolSelect.Text
