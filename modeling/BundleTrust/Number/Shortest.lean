import BundleTrust.Number.Binary64

/-!
# Shortest decimals

The decimal with the fewest digits that reads back as a given binary64 number; of two
such decimals the nearer one, and of two equally near ones the even one.
-/

namespace BundleTrust
namespace Number

/-- The positive decimal `digits * 10 ^ exponent`. -/
structure Decimal where
  /-- The digits as a number. -/
  digits : Nat
  /-- The power of ten of the last digit. -/
  exponent : Int
  deriving DecidableEq, Repr

namespace Decimal

/-- Drop zeros at the end of the digits, at most a given number of them. -/
def trimZeros : (fuel : Nat) → Decimal → Decimal
  | 0, decimal => decimal
  | fuel + 1, decimal =>
      if decimal.digits ≠ 0 ∧ decimal.digits % 10 = 0 then
        trimZeros fuel ⟨decimal.digits / 10, decimal.exponent + 1⟩
      else decimal

end Decimal

/-- Multiply a fraction by a power of ten, keeping numerator and denominator whole. -/
def scaleFractionByTen (numerator denominator : Nat) (exponent : Int) : Nat × Nat :=
  if exponent ≥ 0 then (numerator * Nat.pow 10 exponent.toNat, denominator)
  else (numerator, denominator * Nat.pow 10 (-exponent).toNat)

namespace Binary64

/-- The reals that round to a nonzero number, in units of a quarter of its last place:
the lower end, the number, the upper end.  The gap below a power of two is half as wide. -/
def quarterInterval (number : Binary64) : Nat × Nat × Nat :=
  let middle := 4 * number.significand
  let gapBelow :=
    if number.significand = leastNormal ∧ number.exponent > leastExponent then 1 else 2
  (middle - gapBelow, middle, middle + 2)

/-- Whether a multiple of a power of ten rounds to a nonzero number; the ends of the
interval belong to it when the significand is even. -/
def roundsFrom (number : Binary64) (decimal : Decimal) : Bool :=
  let (lower, _, upper) := number.quarterInterval
  let scaled := scaleFractionByTen decimal.digits 1 decimal.exponent
  let (value, unit) := scaleFraction scaled.1 scaled.2 (2 - number.exponent)
  if number.significand % 2 = 0 then lower * unit ≤ value && value ≤ upper * unit
  else lower * unit < value && value < upper * unit

/-- The greatest power of ten that is at most a positive fraction, searched upwards from
a start that is not above it. -/
def decimalMagnitudeFrom (numerator denominator : Nat) : (fuel : Nat) → Int → Int
  | 0, start => start
  | fuel + 1, start =>
      let scaled := scaleFractionByTen numerator denominator (-(start + 1))
      if scaled.1 ≥ scaled.2 then decimalMagnitudeFrom numerator denominator fuel (start + 1)
      else start

/-- The greatest power of ten that is at most a positive fraction. -/
def decimalMagnitude (numerator denominator : Nat) : Int :=
  let magnitude := binaryMagnitude numerator denominator
  decimalMagnitudeFrom numerator denominator 4 (Int.fdiv (magnitude * 30103) 100000 - 2)

/-- The decimal on a grid of powers of ten that rounds to a number, if there is one: the
grid point below the number, the one above it, or the nearer of the two. -/
def onGrid? (number : Binary64) (grid : Int) : Option Decimal :=
  let (numerator, denominator) := number.fraction
  let scaled := scaleFractionByTen numerator denominator (-grid)
  let below : Decimal := ⟨scaled.1 / scaled.2, grid⟩
  let above : Decimal := ⟨scaled.1 / scaled.2 + 1, grid⟩
  match number.roundsFrom below, number.roundsFrom above with
  | false, false => none
  | true, false => some below
  | false, true => some above
  | true, true =>
      let twiceRest := 2 * (scaled.1 % scaled.2)
      if twiceRest < scaled.2 ∨ twiceRest = scaled.2 ∧ below.digits % 2 = 0 then some below
      else some above

/-- The first grid, from coarse to fine, that has a decimal rounding to a number. -/
def shortestFrom (number : Binary64) (magnitude : Int) : (remaining : Nat) → Nat → Decimal
  | 0, _ => ⟨0, 0⟩
  | remaining + 1, places =>
      match number.onGrid? (magnitude - places) with
      | some decimal => decimal
      | none => shortestFrom number magnitude remaining (places + 1)

/-- The shortest decimal that reads back as a nonzero number. -/
def shortest (number : Binary64) : Decimal :=
  let (numerator, denominator) := number.fraction
  (shortestFrom number (decimalMagnitude numerator denominator) 18 0).trimZeros 20

end Binary64

end Number
end BundleTrust
