import ToolSelect.Json.Reader

/-!
# Numbers in JSON

A number has a whole part, and perhaps a fraction and an exponent.  Whole
numbers of up to 64 bits are exact.  All others are binary floating-point
numbers, read from as many leading digits as fit in 64 bits.
-/

namespace ToolSelect.Json

/-- The power of ten behind a number, with the position of its digits. -/
structure Exponent where
  negative : Bool
  digits : List Char
  start : Position
deriving DecidableEq, Repr

structure Numeral where
  negative : Bool
  whole : List Char
  fraction : List Char
  exponent : Option Exponent
deriving DecidableEq, Repr

def digitValue (c : Char) : Nat :=
  c.toNat - '0'.toNat

/-- The number with digits added at its end as long as the result stays below
the limit, and the digits that are left. -/
def appendDigits (limit : Nat) (number : Nat) :
    List Char → Nat × List Char
  | [] => (number, [])
  | c :: rest =>
    let next := 10 * number + digitValue c
    if next < limit then appendDigits limit next rest else (number, c :: rest)

namespace Numeral

/-- The leading digits that fit in 64 bits, with the power of ten that the
others leave behind. -/
def leading (numeral : Numeral) : Nat × Int :=
  let whole := appendDigits (Nat.pow 2 64) 0 numeral.whole
  let all := appendDigits (Nat.pow 2 64) whole.1 numeral.fraction
  let taken := numeral.fraction.length - all.2.length
  (all.1, (whole.2.length : Int) - (taken : Int))

/-- The number as messages show it, or the position from where it is out of
range, given the position behind it. -/
def found (numeral : Numeral) (stop : Position) : Except Position Found :=
  let (digits, power) := numeral.leading
  let exact :=
    numeral.exponent.isNone && numeral.fraction.isEmpty && power == 0
  if exact && !numeral.negative then
    .ok (.integer digits)
  else if exact && (0 < digits && digits ≤ Nat.pow 2 63) then
    .ok (.integer (-digits))
  else
    match numeral.exponent with
    | none =>
      match Decimal.Binary64.ofDecimal? digits power with
      | some value => .ok (.decimal numeral.negative value)
      | none => .error stop
    | some exponent =>
      match appendDigits (Nat.pow 2 31) 0 exponent.digits with
      | (shift, []) =>
        let shift : Int := if exponent.negative then -shift else shift
        match Decimal.Binary64.ofDecimal? digits (power + shift) with
        | some value => .ok (.decimal numeral.negative value)
        | none => .error stop
      | (_, left) =>
        if digits = 0 ∨ exponent.negative then
          .ok (.decimal numeral.negative .zero)
        else
          let read := exponent.digits.length - left.length + 1
          .error ⟨exponent.start.line, exponent.start.column + read⟩

end Numeral

namespace Reader

def digits : Reader (List Char) := fun cursor =>
  let digits := cursor.rest.takeWhile Char.isDigit
  .ok (digits, ⟨cursor.position.afterAll digits,
    cursor.rest.dropWhile Char.isDigit⟩)

def wholePart : Reader (List Char) := do
  match ← peek? with
  | none => failHere (.endOfText .value)
  | some '0' => do
    advance
    match ← peek? with
    | some c => if c.isDigit then failNext .invalidNumber else return ['0']
    | none => return ['0']
  | some c => if c.isDigit then digits else failNext .invalidNumber

def fractionPart : Reader (List Char) := do
  match ← peek? with
  | some '.' => do
    advance
    let fraction ← digits
    if fraction.isEmpty then
      match ← peek? with
      | some _ => failNext .invalidNumber
      | none => failNext (.endOfText .value)
    else
      return fraction
  | _ => return []

def exponentPart : Reader (Option Exponent) := do
  let mark ← peek?
  if mark = some 'e' ∨ mark = some 'E' then
    advance
    let sign ← peek?
    if sign = some '+' ∨ sign = some '-' then
      advance
    let start ← get
    match ← peek? with
    | none => failHere (.endOfText .value)
    | some c =>
      if c.isDigit then
        return some ⟨sign = some '-', ← digits, start.position⟩
      else
        failNext .invalidNumber
  else
    return none

def numeral : Reader Numeral := do
  let sign ← peek?
  if sign = some '-' then
    advance
  let whole ← wholePart
  let fraction ← fractionPart
  return ⟨sign = some '-', whole, fraction, ← exponentPart⟩

def number : Reader Found := do
  let numeral ← numeral
  let stop ← get
  match numeral.found stop.position with
  | .ok found => return found
  | .error position => fun _ => .error (.placed .numberOutOfRange position)

/-- Leaves a number behind.  Its parts have to be there, but not its value, and
a part that is cut off is no number. -/
def skipNumber : Reader Unit := fun cursor =>
  match numeral cursor with
  | .ok (_, cursor) => .ok ((), cursor)
  | .error (.placed (.endOfText .value) position) =>
    .error (.placed .invalidNumber position)
  | .error failure => .error failure

end Reader

end ToolSelect.Json
