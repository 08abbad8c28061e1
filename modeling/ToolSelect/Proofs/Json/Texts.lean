import ToolSelect.Json.Text
import ToolSelect.Proofs.Json.Spelling
import ToolSelect.Proofs.Json.Taking

/-!
# Spelled texts are read

Every character of a text is read from any of its spellings, whether it stands
for itself or is escaped.
-/

namespace ToolSelect.Json

private theorem hexValue?_of_mem :
    ∀ digit ∈ hexDigits, hexValue? digit.1 = some digit.2 := by
  decide

private theorem shortEscape?_of_mem :
    ∀ escape ∈ shortEscapes, shortEscape? escape.1 = some escape.2 := by
  decide

theorem SpellsUnit.hexUnit? {digits : List Char} {unit : Nat}
    (spells : SpellsUnit digits unit) :
    hexUnit? digits = some unit ∧ digits.length = 4 := by
  obtain ⟨first, second, third, fourth⟩ := spells
  have firstValue := hexValue?_of_mem _ first
  have secondValue := hexValue?_of_mem _ second
  have thirdValue := hexValue?_of_mem _ third
  have fourthValue := hexValue?_of_mem _ fourth
  dsimp only at firstValue secondValue thirdValue fourthValue
  refine ⟨?_, rfl⟩
  simp [Json.hexUnit?, firstValue, secondValue, thirdValue, fourthValue]

namespace Takes

variable {rest : List Char}

theorem hexUnit {digits : List Char} {unit : Nat}
    (spells : SpellsUnit digits unit) (rest : List Char) :
    Takes Reader.hexUnit (digits ++ rest) rest unit := by
  intro position
  obtain ⟨written, four⟩ := spells.hexUnit?
  have taken : (digits ++ rest).take 4 = digits := by simp [← four]
  have left : (digits ++ rest).drop 4 = rest := by simp [← four]
  refine ⟨position.afterAll digits, ?_⟩
  simp only [Reader.hexUnit, taken, left, written]

theorem shortEscape {letter c : Char} (short : shortEscape? letter = some c)
    (rest : List Char) :
    Takes Reader.escape (letter :: rest) rest c := by
  intro position
  refine ⟨position.after letter, ?_⟩
  have notUnit : letter ≠ 'u' := by
    rintro rfl
    cases short
  unfold Reader.escape
  split
  next empty => cases empty
  next same =>
    cases same
    exact absurd rfl notUnit
  next same =>
    cases same
    simp only [short, Cursor.advance]

private theorem not_half (c : Char) :
    isTrailing c.toNat = false ∧ isLeading c.toNat = false := by
  have valid : c.toNat < 0xD800 ∨ 0xDFFF < c.toNat ∧ c.toNat < 0x110000 :=
    c.valid
  simp only [isTrailing, isLeading, Bool.and_eq_false_iff,
    decide_eq_false_iff_not]
  omega

theorem unitEscape {digits : List Char} {c : Char}
    (spells : SpellsUnit digits c.toNat) (rest : List Char) :
    Takes Reader.escape ('u' :: (digits ++ rest)) rest c := by
  obtain ⟨noTrailing, noLeading⟩ := not_half c
  have taken : Takes Reader.unicodeEscape (digits ++ rest) rest c := by
    refine (hexUnit spells rest).bind ?_
    rw [noTrailing, noLeading, Char.ofNat_toNat]
    exact pure c rest
  exact fun position => taken (position.after 'u')

theorem surrogateMark (mark : Char) (rest : List Char) :
    Takes (Reader.surrogateMark mark) (mark :: rest) rest () := by
  intro position
  refine ⟨position.after mark, ?_⟩
  simp only [Reader.surrogateMark, if_true, Cursor.advance]

theorem pairEscape {first second : List Char} {leading trailing : Nat}
    {c : Char} (firstSpelled : SpellsUnit first leading)
    (leads : isLeading leading = true)
    (secondSpelled : SpellsUnit second trailing)
    (trails : isTrailing trailing = true)
    (number : c.toNat =
      0x10000 + (leading - 0xD800) * 0x400 + (trailing - 0xDC00))
    (rest : List Char) :
    Takes Reader.escape ('u' :: (first ++ '\\' :: 'u' :: (second ++ rest)))
      rest c := by
  have noTrailing : isTrailing leading = false := by
    simp only [isLeading, isTrailing, Bool.and_eq_true, decide_eq_true_eq,
      Bool.and_eq_false_iff, decide_eq_false_iff_not] at leads ⊢
    omega
  have taken : Takes Reader.unicodeEscape
      (first ++ '\\' :: 'u' :: (second ++ rest)) rest c := by
    refine (hexUnit firstSpelled _).bind ?_
    rw [noTrailing, leads]
    refine (surrogateMark '\\' _).bind ?_
    refine (surrogateMark 'u' _).bind ?_
    refine (hexUnit secondSpelled rest).bind ?_
    rw [trails, ← number, Char.ofNat_toNat]
    exact pure c rest
  exact fun position => taken (position.after 'u')

end Takes

private theorem SpellsChar.cases {spelled : List Char} {c : Char}
    (spells : SpellsChar spelled c) :
    (∃ escaped, spelled = '\\' :: escaped ∧
      ∀ rest, Takes Reader.escape (escaped ++ rest) rest c) ∨
    spelled = [c] ∧ c ≠ '"' ∧ c ≠ '\\' ∧ ¬c.toNat < 0x20 := by
  cases spells with
  | plain noControl noQuote noBackslash =>
      exact .inr ⟨rfl, noQuote, noBackslash, noControl⟩
  | short listed =>
      exact .inl ⟨_, rfl, Takes.shortEscape (shortEscape?_of_mem _ listed)⟩
  | unit unit => exact .inl ⟨_, rfl, Takes.unitEscape unit⟩
  | @pair _ _ leading trailing _ first above below second beyond within number =>
      have leads : isLeading leading = true := by
        simp [isLeading, above, below]
      have trails : isTrailing trailing = true := by
        simp [isTrailing, beyond, within]
      refine .inl ⟨_, rfl, fun rest => ?_⟩
      simpa using Takes.pairEscape first leads second trails number rest

namespace Takes

variable {rest : List Char}

private theorem textChars_succ {c : Char} {spelled text : List Char}
    {rounds : Nat} {chars : List Char} (spells : SpellsChar spelled c)
    (more : Takes (Reader.textChars rounds) text rest chars) :
    Takes (Reader.textChars (rounds + 1)) (spelled ++ text) rest
      (c :: chars) := by
  rcases spells.cases with ⟨escaped, rfl, read⟩ |
    ⟨rfl, noQuote, noBackslash, noControl⟩
  · refine (peek? _).bind ?_
    refine (advance _ _).bind ?_
    exact (read text).bind (more.map (c :: ·))
  · refine (peek? _).bind ?_
    dsimp only [List.cons_append, List.head?_cons]
    split
    next none => cases none
    next same =>
      cases same
      exact absurd rfl noQuote
    next same =>
      cases same
      exact absurd rfl noBackslash
    next same =>
      cases same
      rw [if_neg noControl]
      exact (advance _ _).bind (more.map (c :: ·))

private theorem textChars {spelled chars : List Char} {rounds : Nat}
    (spells : SpellsChars spelled chars) (enough : spelled.length < rounds) :
    Takes (Reader.textChars rounds) (spelled ++ '"' :: rest) rest chars := by
  induction spells generalizing rounds with
  | nil =>
      cases rounds with
      | zero => cases enough
      | succ rounds =>
          refine (peek? _).bind ?_
          exact (advance _ _).bind (pure _ _)
  | cons spells more induction =>
      cases rounds with
      | zero => cases enough
      | succ rounds =>
          have nonempty := spells.length_pos
          rw [List.length_append] at enough
          rw [List.append_assoc]
          exact textChars_succ spells (induction (by omega))

theorem textBody {text : String} {spelled : List Char}
    (spells : SpellsChars spelled text.toList) (rest : List Char) :
    Takes Reader.textBody (spelled ++ '"' :: rest) rest text := by
  have taken : Takes (Reader.bounded Reader.textChars)
      (spelled ++ '"' :: rest) rest text.toList := by
    refine bounded fun count enough => textChars spells ?_
    simp only [List.length_append, List.length_cons] at enough
    omega
  have read := taken.map String.ofList
  rwa [String.ofList_toList] at read

end Takes

end ToolSelect.Json
