/-!
# Places in a text

A cursor is a place in a text that is being read: what is left of it, and the
line and column reached.  Columns count the bytes of the text's encoding.
-/

namespace ToolSelect.Json

/-- A line, counted from one, and the bytes read of it. -/
structure Position where
  line : Nat
  column : Nat
deriving DecidableEq, Repr

namespace Position

def start : Position :=
  ⟨1, 0⟩

def after (position : Position) (c : Char) : Position :=
  if c = '\n' then ⟨position.line + 1, 0⟩
  else ⟨position.line, position.column + c.utf8Size⟩

def afterByte (position : Position) (c : Char) : Position :=
  if c = '\n' then ⟨position.line + 1, 0⟩
  else ⟨position.line, position.column + 1⟩

def afterAll (position : Position) (text : List Char) : Position :=
  text.foldl after position

/-- The position behind so many bytes of a text, or behind all of it. -/
def afterBytes (position : Position) : Nat → List Char → Position
  | _, [] => position
  | count, c :: rest =>
    if c.utf8Size ≤ count then
      (position.after c).afterBytes (count - c.utf8Size) rest
    else
      ⟨position.line, position.column + count⟩

end Position

structure Cursor where
  position : Position
  rest : List Char
deriving DecidableEq, Repr

def isSpace (c : Char) : Bool :=
  c = ' ' || c = '\n' || c = '\t' || c = '\r'

namespace Cursor

def ofText (text : String) : Cursor :=
  ⟨.start, text.toList⟩

def advance (cursor : Cursor) : Cursor :=
  match cursor.rest with
  | [] => cursor
  | c :: rest => ⟨cursor.position.after c, rest⟩

def nextPosition (cursor : Cursor) : Position :=
  match cursor.rest with
  | [] => cursor.position
  | c :: _ => cursor.position.afterByte c

def skipSpaces (cursor : Cursor) : Cursor :=
  let spaces := cursor.rest.takeWhile isSpace
  ⟨cursor.position.afterAll spaces, cursor.rest.dropWhile isSpace⟩

end Cursor

end ToolSelect.Json
