import ToolSelect.Decimal.Binary64

/-!
# Shortest decimals

The decimal with the fewest digits among those that round to a binary number,
and of these the nearest to it.  Its layout is positional for moderate sizes
and has an exponent for all others.
-/

namespace ToolSelect.Decimal

/-- The number `digits * 10 ^ exponent`. -/
structure Scaled where
  digits : Nat
  exponent : Int
deriving DecidableEq, Repr

/-- Whether `left * 10 ^ exponent` compares so with the number that is a
quarter of `quarters * 2 ^ power`. -/
def compareQuarters (left : Scaled) (quarters : Nat) (power : Int) :
    Ordering :=
  compare
    (left.digits * Nat.pow 10 left.exponent.toNat *
      Nat.pow 2 (2 - power).toNat)
    (quarters * Nat.pow 2 (power - 2).toNat *
      Nat.pow 10 (-left.exponent).toNat)

namespace Binary64

/-- Whether the decimal rounds to the number: it lies between the points half
way to the neighbours, which belong to the even significand.  Below a power of
two the neighbour is nearer. -/
def readsBack (value : Binary64) (decimal : Scaled) : Bool :=
  let gap :=
    if value.significand = Nat.pow 2 52 ∧ -1074 < value.exponent then 1 else 2
  let below :=
    compareQuarters decimal (4 * value.significand - gap) value.exponent
  let above :=
    compareQuarters decimal (4 * value.significand + 2) value.exponent
  let even := value.significand % 2 == 0
  (below == .gt || (even && below == .eq)) &&
    (above == .lt || (even && above == .eq))

def decimalPoint (value : Binary64) : Int :=
  if value.denominator ≤ value.numerator then
    (Nat.toDigits 10 (value.numerator / value.denominator)).length
  else
    let times := (value.denominator - 1) / value.numerator
    1 - (Nat.toDigits 10 times).length

/-- The nearer of the two neighbours on the grid of a power of ten that round
to the number, the even one on a tie. -/
def onGrid? (value : Binary64) (exponent : Int) : Option Scaled :=
  let numerator := value.numerator * Nat.pow 10 (-exponent).toNat
  let denominator := value.denominator * Nat.pow 10 exponent.toNat
  let below : Scaled := ⟨numerator / denominator, exponent⟩
  let above : Scaled := ⟨numerator / denominator + 1, exponent⟩
  match value.readsBack below, value.readsBack above with
  | true, true =>
    some ⟨roundedQuotient numerator denominator, exponent⟩
  | true, false => some below
  | false, true => some above
  | false, false => none

def stripZeros : Nat → Scaled → Scaled
  | 0, decimal => decimal
  | places + 1, decimal =>
    if decimal.digits % 10 = 0 then
      stripZeros places ⟨decimal.digits / 10, decimal.exponent + 1⟩
    else
      decimal

/-- The shortest decimal that rounds to a number other than zero.  Seventeen
digits are always enough; the exact value stands behind them. -/
def shortest (value : Binary64) : Scaled :=
  let grids := (List.range 17).map fun (place : Nat) =>
    value.decimalPoint - 1 - (place : Int)
  match grids.findSome? value.onGrid? with
  | some decimal => stripZeros 17 decimal
  | none =>
    ⟨value.numerator * Nat.pow 5 (-value.exponent).toNat, min value.exponent 0⟩

end Binary64

/-- The digits of a decimal laid out: with a point where the first digit is
less than six places behind it or seventeen before it, and else with an
exponent. -/
def layout (decimal : Scaled) : List Char :=
  let digits := Nat.toDigits 10 decimal.digits
  let count : Int := digits.length
  let point := count + decimal.exponent
  if 0 ≤ decimal.exponent ∧ point ≤ 16 then
    digits ++ List.replicate decimal.exponent.toNat '0' ++ ['.', '0']
  else if 0 < point ∧ point ≤ 16 then
    digits.take point.toNat ++ ['.'] ++ digits.drop point.toNat
  else if -5 < point ∧ point ≤ 0 then
    ['0', '.'] ++ List.replicate (-point).toNat '0' ++ digits
  else
    let mark := if 0 ≤ point - 1 then ['e', '+'] else ['e', '-']
    let fraction := digits.drop 1
    digits.take 1 ++ (if fraction.isEmpty then [] else '.' :: fraction) ++
      mark ++ Nat.toDigits 10 (point - 1).natAbs

def Binary64.display (value : Binary64) : List Char :=
  if value.significand = 0 then ['0', '.', '0'] else layout value.shortest

end ToolSelect.Decimal
