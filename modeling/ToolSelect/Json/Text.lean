import ToolSelect.Json.Reader

/-!
# Texts in JSON

A text stands between double quotes.  Control characters have to be escaped,
and a character beyond sixteen bits is escaped as a pair of surrogates.
-/

namespace ToolSelect.Json

def hexValue? (c : Char) : Option Nat :=
  if '0' ≤ c ∧ c ≤ '9' then some (c.toNat - '0'.toNat)
  else if 'a' ≤ c ∧ c ≤ 'f' then some (c.toNat - 'a'.toNat + 10)
  else if 'A' ≤ c ∧ c ≤ 'F' then some (c.toNat - 'A'.toNat + 10)
  else none

def hexUnit? (digits : List Char) : Option Nat := do
  let values ← digits.mapM hexValue?
  if values.length = 4 then
    return values.foldl (fun total value => 16 * total + value) 0
  else
    none

def shortEscape? (c : Char) : Option Char :=
  [('"', '"'), ('\\', '\\'), ('/', '/'), ('b', '\x08'), ('f', '\x0c'),
    ('n', '\n'), ('r', '\r'), ('t', '\t')].lookup c

/-- Whether the number is the first half of a pair of surrogates. -/
def isLeading (unit : Nat) : Bool :=
  0xD800 ≤ unit && unit < 0xDC00

def isTrailing (unit : Nat) : Bool :=
  0xDC00 ≤ unit && unit < 0xE000

namespace Reader

def hexUnit : Reader Nat := fun cursor =>
  match hexUnit? (cursor.rest.take 4) with
  | some unit =>
    .ok (unit, ⟨cursor.position.afterAll (cursor.rest.take 4),
      cursor.rest.drop 4⟩)
  | none =>
    let bytes :=
      (cursor.rest.take 4).foldr (fun c bytes => c.utf8Size + bytes) 0
    if bytes < 4 then
      .error (.placed (.endOfText .text)
        (cursor.position.afterAll cursor.rest))
    else
      .error (.placed .invalidEscape
        (cursor.position.afterBytes 4 cursor.rest))

/-- A character that has to come next, but for the end of the text. -/
def surrogateMark (mark : Char) : Reader Unit := fun cursor =>
  match cursor.rest with
  | [] => .error (.placed (.endOfText .text) cursor.position)
  | c :: _ =>
    if c = mark then .ok ((), cursor.advance)
    else .error (.placed .endOfSurrogate cursor.nextPosition)

/-- The character of a four-digit escape, or of two for a pair. -/
def unicodeEscape : Reader Char := do
  let unit ← hexUnit
  if isTrailing unit then
    failHere .loneSurrogate
  else if isLeading unit then
    surrogateMark '\\'
    surrogateMark 'u'
    let second ← hexUnit
    if isTrailing second then
      return Char.ofNat (0x10000 + (unit - 0xD800) * 0x400 + (second - 0xDC00))
    else
      failHere .loneSurrogate
  else
    return Char.ofNat unit

def escape : Reader Char := fun cursor =>
  match cursor.rest with
  | [] => .error (.placed (.endOfText .text) cursor.position)
  | 'u' :: _ => unicodeEscape cursor.advance
  | c :: _ =>
    match shortEscape? c with
    | some char => .ok (char, cursor.advance)
    | none => .error (.placed .invalidEscape cursor.nextPosition)

/-- The characters up to the closing quote, which is left behind. -/
def textChars : Nat → Reader (List Char)
  | 0 => failHere (.endOfText .text)
  | rounds + 1 => do
    match ← peek? with
    | none => failHere (.endOfText .text)
    | some '"' => do
      advance
      return []
    | some '\\' => do
      advance
      let c ← escape
      return c :: (← textChars rounds)
    | some c =>
      if c.toNat < 0x20 then
        failNext .controlCharacter
      else do
        advance
        return c :: (← textChars rounds)

def textBody : Reader String := do
  return String.ofList (← bounded textChars)

def skipEscape : Reader Unit := fun cursor =>
  match cursor.rest with
  | 'u' :: _ =>
    match hexUnit cursor.advance with
    | .ok (_, cursor) => .ok ((), cursor)
    | .error failure => .error failure
  | _ =>
    match escape cursor with
    | .ok (_, cursor) => .ok ((), cursor)
    | .error failure => .error failure

def skipTextChars : Nat → Reader Unit
  | 0 => failHere (.endOfText .text)
  | rounds + 1 => do
    match ← peek? with
    | none => failHere (.endOfText .text)
    | some '"' => advance
    | some '\\' => do
      advance
      skipEscape
      skipTextChars rounds
    | some c =>
      if c.toNat < 0x20 then
        failHere .controlCharacter
      else do
        advance
        skipTextChars rounds

def skipTextBody : Reader Unit :=
  bounded skipTextChars

end Reader

end ToolSelect.Json
