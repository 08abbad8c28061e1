import ToolSelect.Json.Error

/-!
# Readers

A reader takes a value off the front of a text or says why it cannot.  The
first problem in the order of the text wins.  A problem with a whole value has
no position of its own: it is placed where the object or list around it is
left.
-/

namespace ToolSelect.Json

/-- Why a reader fails: with a placed problem, or with one that is still to be
placed from where reading stopped. -/
inductive Failure where
  | placed (problem : Problem) (position : Position)
  | unplaced (problem : Problem) (cursor : Cursor)
deriving DecidableEq, Repr

/-- A way to read a value off the front of a text. -/
abbrev Reader (α : Type) := StateT Cursor (Except Failure) α

namespace Reader

variable {α : Type}

def failHere (problem : Problem) : Reader α := fun cursor =>
  .error (.placed problem cursor.position)

def failNext (problem : Problem) : Reader α := fun cursor =>
  .error (.placed problem cursor.nextPosition)

def raise (problem : Problem) : Reader α := fun cursor =>
  .error (.unplaced problem cursor)

def peek? : Reader (Option Char) := fun cursor =>
  .ok (cursor.rest.head?, cursor)

def advance : Reader Unit := fun cursor =>
  .ok ((), cursor.advance)

def peekPastSpaces? : Reader (Option Char) := fun cursor =>
  let cursor := cursor.skipSpaces
  .ok (cursor.rest.head?, cursor)

/-- A reader that repeats a step, given a bound on the number of its rounds:
every round takes a character at least. -/
def bounded (rounds : Nat → Reader α) : Reader α := fun cursor =>
  rounds (cursor.rest.length + 1) cursor

/-- What is left when a list or an object is left: the cursor, and the problem
if its end is not there. -/
abbrev Closing := Cursor → Cursor × Option Problem

/-- The end of a list.  A comma in its place is read, too. -/
def closeList : Closing := fun cursor =>
  let cursor := cursor.skipSpaces
  match cursor.rest.head? with
  | some ']' => (cursor.advance, none)
  | some ',' =>
    let cursor := cursor.advance.skipSpaces
    if cursor.rest.head? = some ']' then (cursor, some .trailingComma)
    else (cursor, some .trailingCharacters)
  | some _ => (cursor, some .trailingCharacters)
  | none => (cursor, some (.endOfText .list))

def closeObject : Closing := fun cursor =>
  let cursor := cursor.skipSpaces
  match cursor.rest.head? with
  | some '\x7d' => (cursor.advance, none)
  | some ',' => (cursor, some .trailingComma)
  | some _ => (cursor, some .trailingCharacters)
  | none => (cursor, some (.endOfText .object))

/-- Reads what stands behind an opening bracket and leaves through the closing
one.  A problem of the whole value is placed behind the closing bracket, or
where that is missing. -/
def enclosed (close : Closing) (body : Reader α) : Reader α := fun cursor =>
  match body cursor with
  | .ok (value, cursor) =>
    match close cursor with
    | (cursor, none) => .ok (value, cursor)
    | (cursor, some problem) => .error (.placed problem cursor.nextPosition)
  | .error (.unplaced problem cursor) =>
    .error (.placed problem (close cursor).1.position)
  | .error failure => .error failure

def run (reader : Reader α) (text : String) : Except Error α :=
  match reader (.ofText text) with
  | .ok (value, cursor) =>
    let cursor := cursor.skipSpaces
    if cursor.rest.isEmpty then .ok value
    else .error ⟨.trailingCharacters, some cursor.nextPosition⟩
  | .error (.placed problem position) => .error ⟨problem, some position⟩
  | .error (.unplaced problem _) => .error ⟨problem, none⟩

end Reader

end ToolSelect.Json
