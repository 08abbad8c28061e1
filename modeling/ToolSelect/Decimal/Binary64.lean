/-!
# Binary floating-point numbers

The non-negative numbers of the 64-bit binary format, with products and
quotients rounded to the nearest of them.  All arithmetic is exact until the
one rounding at its end, and a half goes to the even neighbour.
-/

namespace ToolSelect.Decimal

/-- The number `significand * 2 ^ exponent`. -/
structure Binary64 where
  significand : Nat
  exponent : Int
deriving DecidableEq, Repr

/-- The quotient rounded to the nearest whole number, a half to an even one. -/
def roundedQuotient (numerator denominator : Nat) : Nat :=
  let quotient := numerator / denominator
  let twice := 2 * (numerator % denominator)
  if twice < denominator ∨ (twice = denominator ∧ quotient % 2 = 0) then
    quotient
  else
    quotient + 1

/-- The exponent of the largest power of two that is at most the quotient. -/
def binaryMagnitude (numerator denominator : Nat) : Int :=
  let estimate : Int := (numerator.log2 : Int) - (denominator.log2 : Int)
  if numerator * Nat.pow 2 (-estimate).toNat <
      denominator * Nat.pow 2 estimate.toNat then
    estimate - 1
  else
    estimate

namespace Binary64

def zero : Binary64 :=
  ⟨0, -1074⟩

def numerator (value : Binary64) : Nat :=
  value.significand * Nat.pow 2 value.exponent.toNat

@[inherit_doc numerator]
def denominator (value : Binary64) : Nat :=
  Nat.pow 2 (-value.exponent).toNat

/-- The number nearest to a quotient, or nothing where it is beyond the largest
number.  The significand has 53 bits unless the exponent is the least one. -/
def nearest? (numerator denominator : Nat) : Option Binary64 :=
  if numerator = 0 then
    some zero
  else
    let exponent := max (binaryMagnitude numerator denominator - 52) (-1074)
    let significand :=
      roundedQuotient (numerator * Nat.pow 2 (-exponent).toNat)
        (denominator * Nat.pow 2 exponent.toNat)
    let value : Binary64 :=
      if significand = Nat.pow 2 53 then ⟨Nat.pow 2 52, exponent + 1⟩
      else ⟨significand, exponent⟩
    if 971 < value.exponent then none else some value

def mul? (left right : Binary64) : Option Binary64 :=
  nearest? (left.numerator * right.numerator)
    (left.denominator * right.denominator)

def div? (left right : Binary64) : Option Binary64 :=
  nearest? (left.numerator * right.denominator)
    (left.denominator * right.numerator)

def largestPower : Nat :=
  308

def powerOfTen? (power : Nat) : Option Binary64 :=
  nearest? (Nat.pow 10 power) 1

/-- The number divided by a power of ten, in steps that are in the format: so
often by the largest power, and then by the power that is left. -/
def divPowerOfTen? (value : Binary64) : Nat → Nat → Option Binary64
  | 0, power => powerOfTen? power >>= value.div?
  | steps + 1, power =>
    if value.significand = 0 then
      some value
    else
      match powerOfTen? largestPower >>= value.div? with
      | some smaller => smaller.divPowerOfTen? steps power
      | none => none

/-- The number read from a whole number and a power of ten: the whole number is
rounded first, then its product with the power, or its quotient by it. -/
def ofDecimal? (digits : Nat) (exponent : Int) : Option Binary64 := do
  let value ← nearest? digits 1
  if exponent < 0 then
    let power := exponent.natAbs
    let steps := (power - 1) / largestPower
    value.divPowerOfTen? steps (power - steps * largestPower)
  else if exponent ≤ largestPower then
    value.mul? (← powerOfTen? exponent.toNat)
  else if value.significand = 0 then
    some value
  else
    none

end Binary64

end ToolSelect.Decimal
