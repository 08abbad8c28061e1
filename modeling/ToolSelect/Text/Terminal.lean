/-!
# Terminal text

A text for a terminal carries control sequences, which start with the escape
character and are not shown.  This module writes the sequences of two styles
and says what of a text is left once all sequences and controls are gone.
-/

namespace ToolSelect.Text

inductive Style where
  | bold
  | yellow
deriving DecidableEq, Repr

def Style.code : Style → String
  | .bold => "1"
  | .yellow => "33"

/-- The text in a style, with a return to no style behind it. -/
def Style.apply (style : Style) (text : String) : String :=
  "\x1b[" ++ style.code ++ "m" ++ text ++ "\x1b[0m"

/-- The part of a control sequence that a text has come to. -/
inductive SequencePart where
  | outside
  | escape
  /-- Behind marks that a last character has to follow. -/
  | marks
  | parameters
  /-- In a text that the bell ends. -/
  | command
  /-- Behind the letter that introduces a text for the device. -/
  | device
  | deviceParameters
  /-- Behind marks that the letter of a text for the device has to follow. -/
  | deviceMarks
  /-- In a text that a terminator ends. -/
  | data
deriving DecidableEq, Repr

/-- The controls that place a text on its page. -/
def isLayout (c : Char) : Bool :=
  c == '\t' || c == '\n' || c == '\x0c' || c == '\r'

def deleteChar : Char :=
  '\x7f'

def isShown (c : Char) : Bool :=
  isLayout c || (' ' ≤ c && c != deleteChar)

/-- Whether the encoding of the character has the byte that ends a text. -/
def hasTerminator (c : Char) : Bool :=
  (String.utf8EncodeChar c).contains 0x9c

namespace SequencePart

/-- The part that a character leads to from the escape character.  A character
that means nothing there leaves the text where it is. -/
def introducedBy (c : Char) : SequencePart :=
  if isLayout c then .outside
  else if c < ' ' ∨ deleteChar ≤ c then .escape
  else if c ≤ '/' then .marks
  else if c = '[' then .parameters
  else if c = ']' then .command
  else if c = 'P' then .device
  else if c = 'X' ∨ c = '^' ∨ c = '_' then .data
  else .outside

/-- The part that a character leads to from the head of a text for the device:
a mark, a parameter, or else the letter behind which the text starts. -/
def deviceHead (stay : SequencePart) (c : Char) : SequencePart :=
  if c < ' ' ∨ deleteChar ≤ c then stay
  else if c ≤ '/' then .deviceMarks
  else if c ≤ ';' then .deviceParameters
  else .data

/-- The part that a character leads to.  The escape character always starts a
sequence and two controls end any.  A character beyond ASCII changes nothing,
unless it has the terminator that a text waits for. -/
def next (part : SequencePart) (c : Char) : SequencePart :=
  if c = '\x1b' then .escape
  else if c = '\x18' ∨ c = '\x1a' then .outside
  else
    match part with
    | .outside => .outside
    | .escape => introducedBy c
    | .marks =>
      if isLayout c ∨ ('0' ≤ c ∧ c < deleteChar) then .outside else .marks
    | .parameters =>
      if isLayout c ∨ ('@' ≤ c ∧ c < deleteChar) then .outside
      else .parameters
    | .command => if c = '\x07' then .outside else .command
    | .device =>
      if '<' ≤ c ∧ c ≤ '?' then .deviceParameters else deviceHead .device c
    | .deviceParameters => deviceHead .deviceParameters c
    | .deviceMarks =>
      if '0' ≤ c ∧ c < deleteChar then .data else .deviceMarks
    | .data => if hasTerminator c then .outside else .data

/-- Whether the character is shown.  Only texts within a sequence hide the
layout. -/
def shows (part : SequencePart) (c : Char) : Bool :=
  match part with
  | .outside => isShown c
  | .escape | .marks | .parameters => isLayout c
  | .command | .device | .deviceParameters | .deviceMarks | .data => false

end SequencePart

/-- The characters that are shown of the rest of a text. -/
def visibleFrom (part : SequencePart) : List Char → List Char
  | [] => []
  | c :: rest =>
    let shown := visibleFrom (part.next c) rest
    if part.shows c then c :: shown else shown

def visible (text : String) : String :=
  String.ofList (visibleFrom .outside text.toList)

end ToolSelect.Text
