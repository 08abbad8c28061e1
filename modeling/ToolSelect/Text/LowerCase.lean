import ToolSelect.Text.CaseTable

/-!
# Lower case

The lower case of a text.  Every character is lowered on its own, but for the
capital sigma: at the end of a word it becomes the final small sigma.
-/

namespace ToolSelect.Text

def isCased (c : Char) : Bool :=
  inSpans casedSpans c

/-- Whether casing looks through the character. -/
def isCaseIgnorable (c : Char) : Bool :=
  inSpans caseIgnorableSpans c

/-- The lower case of one character.  The dotted capital I keeps its dot as a
mark of its own. -/
def lowerChar (c : Char) : List Char :=
  if c = 'İ' then
    ['i', '\u0307']
  else
    match letterRuns.find? (·.holds c.toNat) with
    | some run => [Char.ofNat (run.lowered c.toNat)]
    | none => [c]

/-- Whether the first character that casing sees is a cased one. -/
def startsCased (text : List Char) : Bool :=
  match text.dropWhile isCaseIgnorable with
  | c :: _ => isCased c
  | [] => false

/-- The lower case of a text that follows `before`, whose last character comes
first. -/
def lowerAfter (before : List Char) : List Char → List Char
  | [] => []
  | c :: rest =>
    (if c = 'Σ' then
      [if startsCased before && !startsCased rest then 'ς' else 'σ']
    else
      lowerChar c) ++ lowerAfter (c :: before) rest

def lower (text : List Char) : List Char :=
  lowerAfter [] text

end ToolSelect.Text
