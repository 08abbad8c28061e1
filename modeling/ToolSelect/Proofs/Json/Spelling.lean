import ToolSelect.Json.Value

/-!
# Spellings of values

A value is spelled by its tokens, in order and with any spaces around them.
The tokens of a value are fixed; a text among them can be spelled in many ways,
as each of its characters may be escaped.
-/

namespace ToolSelect.Json

def shortEscapes : List (Char × Char) :=
  [('"', '"'), ('\\', '\\'), ('/', '/'), ('b', '\x08'), ('f', '\x0c'),
    ('n', '\n'), ('r', '\r'), ('t', '\t')]

def hexDigits : List (Char × Nat) :=
  [('0', 0), ('1', 1), ('2', 2), ('3', 3), ('4', 4), ('5', 5), ('6', 6),
    ('7', 7), ('8', 8), ('9', 9), ('a', 10), ('b', 11), ('c', 12), ('d', 13),
    ('e', 14), ('f', 15), ('A', 10), ('B', 11), ('C', 12), ('D', 13),
    ('E', 14), ('F', 15)]

/-- The four digits of a sixteen-bit unit. -/
inductive SpellsUnit : List Char → Nat → Prop where
  | digits {first second third fourth : Char} {a b c d : Nat} :
      (first, a) ∈ hexDigits → (second, b) ∈ hexDigits →
      (third, c) ∈ hexDigits → (fourth, d) ∈ hexDigits →
      SpellsUnit [first, second, third, fourth]
        (16 * (16 * (16 * a + b) + c) + d)

/-- The spelling of one character between quotes: the character itself, a short
escape, or the numbers of its one or two sixteen-bit units. -/
inductive SpellsChar : List Char → Char → Prop where
  | plain {c : Char} : ¬c.toNat < 0x20 → c ≠ '"' → c ≠ '\\' →
      SpellsChar [c] c
  | short {letter c : Char} : (letter, c) ∈ shortEscapes →
      SpellsChar ['\\', letter] c
  | unit {digits : List Char} {c : Char} : SpellsUnit digits c.toNat →
      SpellsChar ('\\' :: 'u' :: digits) c
  | pair {first second : List Char} {leading trailing : Nat} {c : Char} :
      SpellsUnit first leading → 0xD800 ≤ leading → leading < 0xDC00 →
      SpellsUnit second trailing → 0xDC00 ≤ trailing → trailing < 0xE000 →
      c.toNat = 0x10000 + (leading - 0xD800) * 0x400 + (trailing - 0xDC00) →
      SpellsChar ('\\' :: 'u' :: first ++ '\\' :: 'u' :: second) c

theorem SpellsChar.length_pos {spelled : List Char} {c : Char}
    (spells : SpellsChar spelled c) : 0 < spelled.length := by
  cases spells <;> exact Nat.succ_pos _

inductive SpellsChars : List Char → List Char → Prop where
  | nil : SpellsChars [] []
  | cons {spelled rest chars : List Char} {c : Char} :
      SpellsChar spelled c → SpellsChars rest chars →
      SpellsChars (spelled ++ rest) (c :: chars)

def IsDigits (text : List Char) : Prop :=
  text ≠ [] ∧ ∀ c ∈ text, c.isDigit = true

/-- A number: a sign or none, a whole part without needless zeros, and perhaps
a fraction and an exponent. -/
inductive IsNumber : List Char → Prop where
  | intro {sign whole fraction exponent : List Char} :
      sign = [] ∨ sign = ['-'] →
      whole = ['0'] ∨ IsDigits whole ∧ whole.head? ≠ some '0' →
      fraction = [] ∨ (∃ digits, IsDigits digits ∧ fraction = '.' :: digits) →
      exponent = [] ∨
        (∃ mark ∈ ['e', 'E'], ∃ sign ∈ [[], ['+'], ['-']], ∃ digits,
          IsDigits digits ∧ exponent = mark :: sign ++ digits) →
      IsNumber (sign ++ whole ++ fraction ++ exponent)

/-- The parts of a text that spells values. -/
inductive Token where
  | mark (c : Char)
  | word (letters : List Char)
  | number (spelling : String)
  | text (value : String)

namespace Token

def marks : List Char :=
  ['[', ']', '\x7b', '\x7d', ',', ':']

def words : List (List Char) :=
  [['n', 'u', 'l', 'l'], ['t', 'r', 'u', 'e'], ['f', 'a', 'l', 's', 'e']]

inductive Spelled : Token → List Char → Prop where
  | mark {c : Char} : c ∈ marks → Spelled (.mark c) [c]
  | word {letters : List Char} : letters ∈ words →
      Spelled (.word letters) letters
  | number {spelling : String} : IsNumber spelling.toList →
      Spelled (.number spelling) spelling.toList
  | text {value : String} {chars : List Char} :
      SpellsChars chars value.toList →
      Spelled (.text value) ('"' :: chars ++ ['"'])

end Token

def IsBlank (text : List Char) : Prop :=
  ∀ c ∈ text, c ∈ [' ', '\n', '\t', '\r']

/-- The text shows the tokens one after the other, with any spaces before each
of them and at its end. -/
inductive Shows : List Char → List Token → Prop where
  | nil {spaces : List Char} : IsBlank spaces → Shows spaces []
  | cons {spaces spelled rest : List Char} {token : Token}
      {tokens : List Token} :
      IsBlank spaces → token.Spelled spelled → Shows rest tokens →
      Shows (spaces ++ spelled ++ rest) (token :: tokens)

namespace Shows

variable {text rest : List Char} {token : Token} {tokens after : List Token}

theorem empty : Shows [] [] :=
  .nil nofun

theorem prepend {spelled : List Char} (spells : token.Spelled spelled)
    (shown : Shows rest tokens) : Shows (spelled ++ rest) (token :: tokens) :=
  @cons [] spelled rest token tokens nofun spells shown

theorem blank {spaces : List Char} (blank : IsBlank spaces)
    (shown : Shows text tokens) : Shows (spaces ++ text) tokens := by
  cases shown with
  | nil others => exact .nil (List.forall_mem_append.mpr ⟨blank, others⟩)
  | cons others spells shown =>
      rw [← List.append_assoc, ← List.append_assoc]
      exact .cons (List.forall_mem_append.mpr ⟨blank, others⟩) spells shown

theorem append (shown : Shows text tokens) (shownRest : Shows rest after) :
    Shows (text ++ rest) (tokens ++ after) := by
  induction shown with
  | nil blank => exact shownRest.blank blank
  | cons blank spells shown induction =>
      rw [List.append_assoc]
      exact .cons blank spells induction

end Shows

namespace Value

def separator (first : Bool) : List Token :=
  if first then [] else [.mark ',']

mutual

def tokens : Value → List Token
  | .null => [.word ['n', 'u', 'l', 'l']]
  | .boolean true => [.word ['t', 'r', 'u', 'e']]
  | .boolean false => [.word ['f', 'a', 'l', 's', 'e']]
  | .number spelling => [.number spelling]
  | .text value => [.text value]
  | .list items => .mark '[' :: itemTokens true items
  | .object fields => .mark '\x7b' :: fieldTokens true fields

/-- The tokens of the items up to the end of a list, given whether they are its
first ones. -/
def itemTokens (first : Bool) : List Value → List Token
  | [] => [.mark ']']
  | item :: items => separator first ++ item.tokens ++ itemTokens false items

/-- The tokens of the fields up to the end of an object, given whether they are
its first ones. -/
def fieldTokens (first : Bool) : List (String × Value) → List Token
  | [] => [.mark '\x7d']
  | (key, value) :: fields =>
    separator first ++ .text key :: .mark ':' :: value.tokens ++
      fieldTokens false fields

end

/-- The text is a spelling of the value. -/
def SpelledBy (value : Value) (text : List Char) : Prop :=
  Shows text value.tokens

end Value

end ToolSelect.Json
