import ToolSelect.Text.CodeSpan

/-!
# Blank characters

The characters that count as white space in a text, and the text between the
blanks at its two ends.
-/

namespace ToolSelect.Text

/-- The white space characters: the controls from tab to return, the space and
the next-line control, and the spaces and separators beyond them. -/
def blankSpans : List CodeSpan :=
  [(0x9, 0xD), (0x20, 0x20), (0x85, 0x85), (0xA0, 0xA0), (0x1680, 0x1680),
  (0x2000, 0x200A), (0x2028, 0x2029), (0x202F, 0x202F), (0x205F, 0x205F),
  (0x3000, 0x3000)]

def isBlank (c : Char) : Bool :=
  inSpans blankSpans c

def trimStart (text : List Char) : List Char :=
  text.dropWhile isBlank

def trimEnd : List Char → List Char
  | [] => []
  | c :: rest =>
    let kept := trimEnd rest
    if isBlank c && kept.isEmpty then [] else c :: kept

def trim (text : List Char) : List Char :=
  trimEnd (trimStart text)

/-- A text is trimmed away at its end if and only if it is blank. -/
theorem trimEnd_eq_nil_iff (text : List Char) :
    trimEnd text = [] ↔ ∀ c ∈ text, isBlank c = true := by
  induction text with
  | nil => simp [trimEnd]
  | cons c rest hypothesis =>
    cases blank : isBlank c <;> simp [trimEnd, blank, ← hypothesis]

end ToolSelect.Text
