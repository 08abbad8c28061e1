/-!
# JSON values

The values that a text can stand for, and the compact text of each: no spaces,
and only those characters escaped that have to be.
-/

namespace ToolSelect.Json

/-- A value.  A number keeps its spelling, and an object the order of its
fields. -/
inductive Value where
  | null
  | boolean (value : Bool)
  | number (spelling : String)
  | text (value : String)
  | list (items : List Value)
  | object (fields : List (String × Value))

def writtenChar (c : Char) : List Char :=
  if c = '"' then ['\\', '"']
  else if c = '\\' then ['\\', '\\']
  else if c = '\x08' then ['\\', 'b']
  else if c = '\x0c' then ['\\', 'f']
  else if c = '\n' then ['\\', 'n']
  else if c = '\r' then ['\\', 'r']
  else if c = '\t' then ['\\', 't']
  else if c.toNat < 0x20 then
    ['\\', 'u', '0', '0', Nat.digitChar (c.toNat / 16),
      Nat.digitChar (c.toNat % 16)]
  else [c]

def writtenText (text : String) : List Char :=
  '"' :: text.toList.flatMap writtenChar ++ ['"']

namespace Value

mutual

def write : Value → List Char
  | .null => ['n', 'u', 'l', 'l']
  | .boolean true => ['t', 'r', 'u', 'e']
  | .boolean false => ['f', 'a', 'l', 's', 'e']
  | .number spelling => spelling.toList
  | .text value => writtenText value
  | .list items => '[' :: writeItems items
  | .object fields => '\x7b' :: writeFields fields

def writeItems : List Value → List Char
  | [] => [']']
  | [item] => item.write ++ [']']
  | item :: rest => item.write ++ ',' :: writeItems rest

def writeFields : List (String × Value) → List Char
  | [] => ['\x7d']
  | [(key, value)] => writtenText key ++ ':' :: value.write ++ ['\x7d']
  | (key, value) :: rest =>
    writtenText key ++ ':' :: value.write ++ ',' :: writeFields rest

end

def render (value : Value) : String :=
  String.ofList value.write

end Value

end ToolSelect.Json
