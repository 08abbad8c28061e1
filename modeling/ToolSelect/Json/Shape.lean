import ToolSelect.Json.Number
import ToolSelect.Json.Text
import ToolSelect.Table

/-!
# Shapes of values

Readers for the values of a certain shape: texts, lists, tables, choices among
names, and records.  A record is an object of named fields, or the list of its
fields in order.
-/

namespace ToolSelect.Json

/-- A field of a record: its name, whether it has to be there, and how its value
changes the record. -/
structure Field (σ : Type) where
  name : String
  required : Bool
  update : Reader (σ → σ)

structure Record (σ : Type) where
  title : String
  fields : List (Field σ)
  /-- Whether fields with other names are refused. -/
  strict : Bool
  /-- The record before any field is read. -/
  start : σ

def Record.names {σ : Type} (record : Record σ) : List String :=
  record.fields.map Field.name

def Record.size {σ : Type} (record : Record σ) : String :=
  record.title ++ " with " ++ toString record.fields.length ++ " elements"

namespace Reader

variable {α σ : Type}

def word : List Char → Reader Unit
  | [] => return ()
  | expected :: rest => do
    match ← peek? with
    | none => failHere (.endOfText .value)
    | some c =>
      if c = expected then do
        advance
        word rest
      else
        failNext .expectedWord

/-- What the next value is.  A scalar is read; of a list or an object only the
bracket is looked at. -/
def found : Reader Found := do
  match ← peek? with
  | some 'n' => do
    advance
    word ['u', 'l', 'l']
    return .null
  | some 't' => do
    advance
    word ['r', 'u', 'e']
    return .boolean true
  | some 'f' => do
    advance
    word ['a', 'l', 's', 'e']
    return .boolean false
  | some '"' => do
    advance
    return .text (← textBody)
  | some '[' => return .list
  | some '\x7b' => return .object
  | some c =>
    if c = '-' ∨ c.isDigit then number else failNext .expectedValue
  | none => failNext .expectedValue

/-- Fails on a value of another shape.  A problem within a scalar comes before
its shape. -/
def wrongShape (expected : String) : Reader α := do
  let found ← found
  failHere (.wrongShape found expected)

def textCalled (expected : String) : Reader String := do
  match ← peekPastSpaces? with
  | none => failNext (.endOfText .value)
  | some '"' => do
    advance
    textBody
  | some _ => wrongShape expected

def text : Reader String :=
  textCalled "a string"

def hasItem (first : Bool) : Reader Bool := do
  match ← peekPastSpaces? with
  | none => failNext (.endOfText .list)
  | some ']' => return false
  | some c =>
    if first then
      return true
    else if c = ',' then do
      advance
      match ← peekPastSpaces? with
      | some ']' => failNext .trailingComma
      | some _ => return true
      | none => failNext (.endOfText .value)
    else
      failNext .expectedItemOrEnd

def items (item : Reader α) (first : Bool) : Nat → Reader (List α)
  | 0 => failNext (.endOfText .list)
  | rounds + 1 => do
    if ← hasItem first then
      let value ← item
      return value :: (← items item false rounds)
    else
      return []

def list (item : Reader α) : Reader (List α) := do
  match ← peekPastSpaces? with
  | none => failNext (.endOfText .value)
  | some '[' => do
    advance
    enclosed closeList (bounded (items item true))
  | some _ => wrongShape "a sequence"

def hasKey (first : Bool) : Reader Bool := do
  match ← peekPastSpaces? with
  | none => failNext (.endOfText .object)
  | some '\x7d' => return false
  | some c =>
    if first then
      if c = '"' then return true else failNext .keyNotText
    else if c = ',' then do
      advance
      match ← peekPastSpaces? with
      | some '"' => return true
      | some '\x7d' => failNext .trailingComma
      | some _ => failNext .keyNotText
      | none => failNext (.endOfText .value)
    else
      failNext .expectedFieldOrEnd

def key : Reader String := do
  advance
  textBody

def colon : Reader Unit := do
  match ← peekPastSpaces? with
  | some ':' => advance
  | some _ => failNext .expectedColon
  | none => failNext (.endOfText .object)

def entries (value : Reader α) (first : Bool) (table : Table α) :
    Nat → Reader (Table α)
  | 0 => failNext (.endOfText .object)
  | rounds + 1 => do
    if ← hasKey first then
      let key ← key
      colon
      let value' ← value
      entries value false (table.insert key value') rounds
    else
      return table

/-- An object of values of one shape; of two values under one key the later
one counts. -/
def table (value : Reader α) : Reader (Table α) := do
  match ← peekPastSpaces? with
  | none => failNext (.endOfText .value)
  | some '\x7b' => do
    advance
    enclosed closeObject (bounded (entries value true .empty))
  | some _ => wrongShape "a map"

def variant (variants : List (String × α)) : Reader α := do
  let name ← textCalled "variant identifier"
  match variants.lookup name with
  | some value => return value
  | none => failHere (.unknownVariant name (variants.map Prod.fst))

def null : Reader Unit := do
  match ← peekPastSpaces? with
  | none => failNext (.endOfText .value)
  | some 'n' => do
    advance
    word ['u', 'l', 'l']
  | some _ => wrongShape "unit"

/-- One of some named choices: its name, or an object with null under it. -/
def choice (variants : List (String × α)) : Reader α := do
  match ← peekPastSpaces? with
  | none => failNext (.endOfText .value)
  | some '"' => variant variants
  | some '\x7b' => do
    advance
    if ← hasKey true then
      let value ← variant variants
      colon
      null
      match ← peekPastSpaces? with
      | some '\x7d' => do
        advance
        return value
      | some _ => failHere .expectedValue
      | none => failHere (.endOfText .object)
    else
      failNext .expectedValue
  | some _ => failNext .expectedValue

inductive Bracket where
  | list
  | object
deriving DecidableEq, Repr

/-- Leaves the brackets that close behind.  The result says whether a value
follows, and inside which brackets; a comma is wanted between values. -/
def skipClosing (comma : Bool) : List Bracket → Reader (List Bracket)
  | [] => return []
  | bracket :: outer => do
    match bracket, ← peekPastSpaces? with
    | .list, some ']' => do
      advance
      skipClosing true outer
    | .object, some '\x7d' => do
      advance
      skipClosing true outer
    | .list, none => failNext (.endOfText .list)
    | .object, none => failNext (.endOfText .object)
    | _, some c =>
      if !comma then
        return bracket :: outer
      else if c = ',' then do
        advance
        return bracket :: outer
      else
        failNext (if bracket = .list then .expectedItemOrEnd
          else .expectedFieldOrEnd)

def skipKey : Reader Unit := do
  match ← peekPastSpaces? with
  | some '"' => do
    advance
    skipTextBody
    colon
  | some _ => failNext .keyNotText
  | none => failNext (.endOfText .object)

def skipOpening : Reader (Option Bracket) := do
  match ← peekPastSpaces? with
  | none => failNext (.endOfText .value)
  | some 'n' => do
    advance
    word ['u', 'l', 'l']
    return none
  | some 't' => do
    advance
    word ['r', 'u', 'e']
    return none
  | some 'f' => do
    advance
    word ['a', 'l', 's', 'e']
    return none
  | some '"' => do
    advance
    skipTextBody
    return none
  | some '[' => do
    advance
    return some .list
  | some '\x7b' => do
    advance
    return some .object
  | some c =>
    if c = '-' ∨ c.isDigit then do
      skipNumber
      return none
    else
      failNext .expectedValue

/-- Leaves a value inside open brackets behind, and all that follows up to the
last of the brackets. -/
def skipWithin (brackets : List Bracket) : Nat → Reader Unit
  | 0 => failNext (.endOfText .value)
  | rounds + 1 => do
    if brackets.head? = some .object then
      skipKey
    let within ←
      match ← skipOpening with
      | some bracket => skipClosing false (bracket :: brackets)
      | none => skipClosing true brackets
    if within.isEmpty then return () else skipWithin within rounds

def skipValue : Reader Unit :=
  bounded (skipWithin [])

def fieldsOfObject (record : Record σ) (seen : List String) (state : σ) :
    Nat → Reader σ
  | 0 => failNext (.endOfText .object)
  | rounds + 1 => do
    if ← hasKey seen.isEmpty then
      let name ← key
      match record.fields.find? (·.name = name) with
      | some field =>
        if name ∈ seen then
          raise (.duplicateField name)
        else do
          colon
          let change ← field.update
          fieldsOfObject record (name :: seen) (change state) rounds
      | none =>
        if record.strict then
          raise (.unknownField name record.names)
        else do
          colon
          skipValue
          fieldsOfObject record (name :: seen) state rounds
    else
      match record.fields.find? fun field =>
          field.required && !seen.contains field.name with
      | some field => raise (.missingField field.name)
      | none => return state

/-- The fields of a list, in order.  A missing field keeps its start. -/
def fieldsOfList (record : Record σ) (state : σ) (index : Nat) :
    List (Field σ) → Reader σ
  | [] => return state
  | field :: rest => do
    if ← hasItem (index == 0) then
      let change ← field.update
      fieldsOfList record (change state) (index + 1) rest
    else if field.required then
      raise (.wrongLength index record.size)
    else
      fieldsOfList record state (index + 1) rest

/-- A record: an object of its fields, or the list of them. -/
def record (record : Record σ) : Reader σ := do
  match ← peekPastSpaces? with
  | none => failNext (.endOfText .value)
  | some '[' => do
    advance
    enclosed closeList (fieldsOfList record record.start 0 record.fields)
  | some '\x7b' => do
    advance
    enclosed closeObject
      (bounded (fieldsOfObject record [] record.start))
  | some _ => wrongShape record.title

end Reader

end ToolSelect.Json
