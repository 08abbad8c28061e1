import ToolSelect.Json.Shape
import ToolSelect.Proofs.Json.Spelling
import ToolSelect.Proofs.Json.Taking

/-!
# What a reader makes of tokens

On a text that shows given tokens, a reader takes a value and leaves a text of
the tokens that follow, or it refuses the text.  Which of the two happens does
not depend on how the tokens are spelled.
-/

namespace ToolSelect.Json

variable {α β : Type}

/-- From any position, the reader fails on the text. -/
def Refuses (reader : Reader α) (text : List Char) : Prop :=
  ∀ position, ∃ failure, reader ⟨position, text⟩ = .error failure

namespace Refuses

variable {text : List Char}

theorem failHere (problem : Problem) (text : List Char) :
    Refuses (Reader.failHere problem : Reader α) text :=
  fun _ => ⟨_, rfl⟩

theorem failNext (problem : Problem) (text : List Char) :
    Refuses (Reader.failNext problem : Reader α) text :=
  fun _ => ⟨_, rfl⟩

theorem raise (problem : Problem) (text : List Char) :
    Refuses (Reader.raise problem : Reader α) text :=
  fun _ => ⟨_, rfl⟩

theorem bind {first : Reader α} (refuses : Refuses first text)
    (next : α → Reader β) : Refuses (first >>= next) text := by
  intro position
  obtain ⟨failure, failed⟩ := refuses position
  refine ⟨failure, ?_⟩
  change (first ⟨position, text⟩ >>= fun pair => next pair.1 pair.2) = _
  rw [failed]
  rfl

theorem after_take {first : Reader α} {next : α → Reader β}
    {middle : List Char} {value : α} (taken : Takes first text middle value)
    (refuses : Refuses (next value) middle) :
    Refuses (first >>= next) text := by
  intro position
  obtain ⟨between, read⟩ := taken position
  obtain ⟨failure, failed⟩ := refuses between
  refine ⟨failure, ?_⟩
  change (first ⟨position, text⟩ >>= fun pair => next pair.1 pair.2) = _
  rw [read]
  exact failed

theorem wrongShape (expected : String) (text : List Char) :
    Refuses (Reader.wrongShape expected : Reader α) text := by
  intro position
  change ∃ failure, (Reader.found ⟨position, text⟩ >>= fun pair =>
    Reader.failHere (.wrongShape pair.1 expected) pair.2) = .error failure
  cases Reader.found ⟨position, text⟩ with
  | error failure => exact ⟨failure, rfl⟩
  | ok pair => exact ⟨_, rfl⟩

theorem enclosed {body : Reader α} (refuses : Refuses body text)
    (close : Reader.Closing) : Refuses (Reader.enclosed close body) text := by
  intro position
  obtain ⟨failure, failed⟩ := refuses position
  cases failure with
  | placed problem stop => exact ⟨_, by rw [Reader.enclosed, failed]⟩
  | unplaced problem stop => exact ⟨_, by rw [Reader.enclosed, failed]⟩

/-- A value is refused where the end of its brackets does not follow. -/
theorem unclosed {close : Reader.Closing} {body : Reader α}
    {rest : List Char} {value : α} (taken : Takes body text rest value)
    (misses : ∀ position, ∃ cursor problem,
      close ⟨position, rest⟩ = (cursor, some problem)) :
    Refuses (Reader.enclosed close body) text := by
  intro position
  obtain ⟨between, read⟩ := taken position
  obtain ⟨cursor, problem, left⟩ := misses between
  refine ⟨.placed problem cursor.nextPosition, ?_⟩
  simp only [Reader.enclosed, read, left]

end Refuses

/-- What the reader makes of the text: it takes a value and leaves a text of the
tokens that follow, or it refuses the text. -/
inductive Reads (reader : Reader α) (text : List Char) (after : List Token) :
    Option α → Prop
  | taken {rest : List Char} {value : α} :
      Takes reader text rest value → Shows rest after →
      Reads reader text after (some value)
  | refused : Refuses reader text → Reads reader text after none

namespace Reads

variable {text : List Char} {after middle : List Token}

theorem pure (value : α) (shown : Shows text after) :
    Reads (Pure.pure value) text after (some value) :=
  .taken (Takes.pure value text) shown

theorem after_take {first : Reader α} {next : α → Reader β}
    {between : List Char} {value : α} {outcome : Option β}
    (taken : Takes first text between value)
    (reads : Reads (next value) between after outcome) :
    Reads (first >>= next) text after outcome := by
  cases reads with
  | taken takenNext shown => exact .taken (taken.bind takenNext) shown
  | refused refuses => exact .refused (.after_take taken refuses)

theorem bind {first : Reader α} {next : α → Reader β} {outcome : Option α}
    {outcomes : α → Option β} (reads : Reads first text middle outcome)
    (follows : ∀ value rest, Shows rest middle →
      Reads (next value) rest after (outcomes value)) :
    Reads (first >>= next) text after (outcome.bind outcomes) := by
  cases reads with
  | taken taken shown => exact .after_take taken (follows _ _ shown)
  | refused refuses => exact .refused (refuses.bind next)

theorem map {reader : Reader α} {outcome : Option α} (convert : α → β)
    (reads : Reads reader text after outcome) :
    Reads (do return convert (← reader)) text after
      (outcome.map convert) := by
  cases reads with
  | taken taken shown => exact .taken (taken.map convert) shown
  | refused refuses => exact .refused (refuses.bind _)

theorem bounded {rounds : Nat → Reader α} {outcome : Option α}
    (reads : Reads (rounds (text.length + 1)) text after outcome) :
    Reads (Reader.bounded rounds) text after outcome := by
  cases reads with
  | taken taken shown => exact .taken taken shown
  | refused refuses => exact .refused refuses

end Reads

theorem IsNumber.opens {spelled : List Char} (number : IsNumber spelled) :
    ∃ c rest, spelled = c :: rest ∧ (c = '-' ∨ c.isDigit = true) := by
  obtain ⟨sign, whole, -, -⟩ := number
  rcases sign with rfl | rfl
  · rcases whole with rfl | ⟨⟨nonempty, digits⟩, -⟩
    · exact ⟨'0', _, rfl, .inr rfl⟩
    · obtain ⟨c, rest, rfl⟩ := List.exists_cons_of_ne_nil nonempty
      exact ⟨c, _, rfl, .inr (digits c (List.mem_cons_self ..))⟩
  · exact ⟨'-', _, rfl, .inl rfl⟩

theorem isSpace_of_isDigit {c : Char} (digit : c.isDigit = true) :
    isSpace c = false := by
  cases space : isSpace c with
  | false => rfl
  | true =>
      simp only [isSpace, Bool.or_eq_true, decide_eq_true_eq] at space
      rcases space with ((rfl | rfl) | rfl) | rfl <;> cases digit

theorem Token.Spelled.opens {token : Token} {spelled : List Char}
    (spells : token.Spelled spelled) :
    ∃ c rest, spelled = c :: rest ∧ isSpace c = false := by
  cases spells with
  | mark known =>
      have solid : ∀ c ∈ marks, isSpace c = false := by
        simp [marks, isSpace]
      exact ⟨_, [], rfl, solid _ known⟩
  | word known =>
      simp only [words, List.mem_cons, List.not_mem_nil, or_false] at known
      rcases known with rfl | rfl | rfl
      · exact ⟨'n', ['u', 'l', 'l'], rfl, by decide⟩
      · exact ⟨'t', ['r', 'u', 'e'], rfl, by decide⟩
      · exact ⟨'f', ['a', 'l', 's', 'e'], rfl, by decide⟩
  | number number =>
      obtain ⟨c, rest, split, sign | digit⟩ := number.opens
      · exact ⟨c, rest, split, by rw [sign]; rfl⟩
      · exact ⟨c, rest, split, isSpace_of_isDigit digit⟩
  | text chars => exact ⟨'"', _, rfl, rfl⟩

theorem IsBlank.isSpace {text : List Char} (blank : IsBlank text) :
    ∀ c ∈ text, isSpace c = true := by
  intro c member
  have listed := blank c member
  simp only [List.mem_cons, List.not_mem_nil, or_false] at listed
  rcases listed with rfl | rfl | rfl | rfl <;> rfl

/-- Behind its spaces, the text goes on with the rest. -/
def PastSpaces (text rest : List Char) : Prop :=
  ∀ position, ∃ stop,
    (⟨position, text⟩ : Cursor).skipSpaces = ⟨stop, rest⟩

namespace PastSpaces

variable {text rest : List Char}

theorem append {spaces : List Char} {c : Char} (blank : IsBlank spaces)
    (solid : isSpace c = false) (rest : List Char) :
    PastSpaces (spaces ++ c :: rest) (c :: rest) := by
  have spaced := blank.isSpace
  have taken : (spaces ++ c :: rest).takeWhile isSpace = spaces := by
    rw [List.takeWhile_append_of_pos spaced,
      List.takeWhile_cons_of_neg (by simp [solid]), List.append_nil]
  have left : (spaces ++ c :: rest).dropWhile isSpace = c :: rest := by
    rw [List.dropWhile_append_of_pos spaced,
      List.dropWhile_cons_of_neg (by simp [solid])]
  intro position
  exact ⟨position.afterAll spaces, by rw [Cursor.skipSpaces, taken, left]⟩

theorem blank (blank : IsBlank text) : PastSpaces text [] := by
  have left : text.dropWhile isSpace = [] := by
    rw [← List.append_nil text, List.dropWhile_append_of_pos blank.isSpace,
      List.dropWhile_nil]
  intro position
  exact ⟨_, by rw [Cursor.skipSpaces, left]⟩

theorem takes (past : PastSpaces text rest) :
    Takes Reader.peekPastSpaces? text rest rest.head? := by
  intro position
  obtain ⟨stop, skipped⟩ := past position
  exact ⟨stop, by rw [Reader.peekPastSpaces?, skipped]⟩

end PastSpaces

/-- The characters that a value can start with. -/
def Value.StartsWith : Value → Char → Prop
  | .null, c => c = 'n'
  | .boolean true, c => c = 't'
  | .boolean false, c => c = 'f'
  | .number _, c => c = '-' ∨ c.isDigit = true
  | .text _, c => c = '"'
  | .list _, c => c = '['
  | .object _, c => c = '\x7b'

theorem Value.tokens_cons (value : Value) :
    ∃ token tokens, value.tokens = token :: tokens ∧
      ∀ c spelled, token.Spelled (c :: spelled) → value.StartsWith c := by
  cases value with
  | null =>
      refine ⟨_, _, rfl, fun c spelled spells => ?_⟩
      cases spells
      rfl
  | boolean value =>
      cases value with
      | false =>
          refine ⟨_, _, rfl, fun c spelled spells => ?_⟩
          cases spells
          rfl
      | true =>
          refine ⟨_, _, rfl, fun c spelled spells => ?_⟩
          cases spells
          rfl
  | number spelling =>
      refine ⟨_, _, rfl, fun c spelled spells => ?_⟩
      generalize written : c :: spelled = text at spells
      cases spells with
      | number number =>
          obtain ⟨first, rest, split, opens⟩ := number.opens
          rw [← written] at split
          cases split
          exact opens
  | text value =>
      refine ⟨_, _, rfl, fun c spelled spells => ?_⟩
      cases spells
      rfl
  | list items =>
      refine ⟨.mark '[', itemTokens true items, rfl, fun c spelled spells => ?_⟩
      cases spells
      rfl
  | object fields =>
      refine ⟨.mark '\x7b', fieldTokens true fields, rfl,
        fun c spelled spells => ?_⟩
      cases spells
      rfl

namespace Value.StartsWith

variable {value : Value}

theorem null (starts : value.StartsWith 'n') : value = .null := by
  cases value with
  | null => rfl
  | boolean value => cases value <;> simp [StartsWith] at starts
  | _ => simp [StartsWith] at starts

theorem text (starts : value.StartsWith '"') :
    ∃ content, value = .text content := by
  cases value with
  | text content => exact ⟨content, rfl⟩
  | boolean value => cases value <;> simp [StartsWith] at starts
  | _ => simp [StartsWith] at starts

theorem list (starts : value.StartsWith '[') :
    ∃ items, value = .list items := by
  cases value with
  | list items => exact ⟨items, rfl⟩
  | boolean value => cases value <;> simp [StartsWith] at starts
  | _ => simp [StartsWith] at starts

theorem object (starts : value.StartsWith '\x7b') :
    ∃ fields, value = .object fields := by
  cases value with
  | object fields => exact ⟨fields, rfl⟩
  | boolean value => cases value <;> simp [StartsWith] at starts
  | _ => simp [StartsWith] at starts

theorem ne_end {c : Char} (starts : value.StartsWith c) : c ≠ ']' := by
  rintro rfl
  cases value with
  | boolean value => cases value <;> simp [StartsWith] at starts
  | _ => simp [StartsWith] at starts

end Value.StartsWith

namespace Shows

variable {text rest : List Char} {token : Token} {tokens after : List Token}

theorem length_le (shown : Shows text tokens) :
    tokens.length ≤ text.length := by
  induction shown with
  | nil blank => exact Nat.zero_le _
  | cons blank spells shown induction =>
      obtain ⟨c, more, rfl, -⟩ := spells.opens
      simp only [List.length_append, List.length_cons]
      omega

theorem peek (shown : Shows text (token :: tokens)) :
    ∃ c spelled rest, PastSpaces text (c :: (spelled ++ rest)) ∧
      token.Spelled (c :: spelled) ∧ Shows rest tokens := by
  cases shown with
  | @cons spaces spelled rest _ _ blank spells shown =>
      obtain ⟨c, more, rfl, solid⟩ := spells.opens
      refine ⟨c, more, rest, ?_, spells, shown⟩
      rw [List.append_assoc]
      exact .append blank solid (more ++ rest)

theorem mark {c : Char} (shown : Shows text (.mark c :: tokens)) :
    ∃ rest, PastSpaces text (c :: rest) ∧ Shows rest tokens := by
  obtain ⟨first, spelled, rest, past, spells, shown⟩ := shown.peek
  cases spells with
  | mark => exact ⟨rest, past, shown⟩

theorem word {c : Char} {letters : List Char}
    (shown : Shows text (.word (c :: letters) :: tokens)) :
    ∃ rest, PastSpaces text (c :: (letters ++ rest)) ∧ Shows rest tokens := by
  obtain ⟨first, spelled, rest, past, spells, shown⟩ := shown.peek
  cases spells with
  | word => exact ⟨rest, past, shown⟩

theorem quoted {content : String}
    (shown : Shows text (.text content :: tokens)) :
    ∃ chars rest, PastSpaces text ('"' :: (chars ++ '"' :: rest)) ∧
      SpellsChars chars content.toList ∧ Shows rest tokens := by
  obtain ⟨first, spelled, rest, past, spells, shown⟩ := shown.peek
  cases spells with
  | @text _ chars spells =>
      refine ⟨chars, rest, ?_, spells, shown⟩
      simpa using past

theorem value {value : Value} (shown : Shows text (value.tokens ++ after)) :
    ∃ c rest, value.StartsWith c ∧ PastSpaces text (c :: rest) ∧
      Shows (c :: rest) (value.tokens ++ after) := by
  obtain ⟨token, tokens, split, starts⟩ := value.tokens_cons
  rw [split] at shown ⊢
  obtain ⟨c, spelled, rest, past, spells, shown⟩ := shown.peek
  exact ⟨c, spelled ++ rest, starts c spelled spells, past,
    shown.prepend spells⟩

end Shows

namespace Reads

variable {text : List Char} {after : List Token}

theorem misfit {value : Value} {next : Option Char → Reader α}
    (shown : Shows text (value.tokens ++ after))
    (refuses : ∀ c rest, value.StartsWith c →
      Refuses (next (some c)) (c :: rest)) :
    Reads (Reader.peekPastSpaces? >>= next) text after none := by
  obtain ⟨c, rest, starts, past, -⟩ := shown.value
  exact .refused (.after_take past.takes (refuses c rest starts))

theorem enclosed {close : Reader.Closing} {bracket : Char} {body : Reader α}
    {outcome : Option α}
    (closes : ∀ inside rest, PastSpaces inside (bracket :: rest) →
      ∀ position, ∃ stop, close ⟨position, inside⟩ = (⟨stop, rest⟩, none))
    (reads : Reads body text (.mark bracket :: after) outcome) :
    Reads (Reader.enclosed close body) text after outcome := by
  cases reads with
  | @taken inside value taken shown =>
      obtain ⟨rest, past, shown⟩ := shown.mark
      exact .taken (.enclosed (closes inside rest past) taken) shown
  | refused refuses => exact .refused (refuses.enclosed close)

theorem enclosed_list {body : Reader α} {outcome : Option α}
    (reads : Reads body text (.mark ']' :: after) outcome) :
    Reads (Reader.enclosed Reader.closeList body) text after outcome := by
  refine enclosed (fun inside rest past position => ?_) reads
  obtain ⟨stop, skipped⟩ := past position
  exact ⟨stop.after ']', by rw [Reader.closeList, skipped]; rfl⟩

theorem enclosed_object {body : Reader α} {outcome : Option α}
    (reads : Reads body text (.mark '\x7d' :: after) outcome) :
    Reads (Reader.enclosed Reader.closeObject body) text after outcome := by
  refine enclosed (fun inside rest past position => ?_) reads
  obtain ⟨stop, skipped⟩ := past position
  exact ⟨stop.after '\x7d', by rw [Reader.closeObject, skipped]; rfl⟩

theorem run {reader : Reader α} {outcome : Option α}
    (reads : Reads reader text [] outcome) (value : α) :
    reader.run (String.ofList text) = .ok value ↔ outcome = some value := by
  rw [Reader.run, Cursor.ofText, String.toList_ofList]
  cases reads with
  | @taken rest read taken shown =>
      obtain ⟨stop, taken⟩ := taken .start
      cases shown with
      | nil blank =>
          obtain ⟨last, skipped⟩ := PastSpaces.blank blank stop
          rw [taken]
          simp only [skipped, List.isEmpty_nil, if_true]
          simp
  | refused refuses =>
      obtain ⟨failure, failed⟩ := refuses .start
      rw [failed]
      cases failure with
      | placed problem position => simp
      | unplaced problem cursor => simp

end Reads

end ToolSelect.Json
