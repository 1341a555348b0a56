/-!
# Finite binary floating-point numbers

A finite number in the binary64 format as sign, significand and exponent, and the
rounding of an exact decimal to the nearest such number, ties to the even significand.
All arithmetic is on natural numbers and integers.
-/

namespace BundleTrust
namespace Number

namespace Binary64

/-- The least significand of a number that is not subnormal, `2 ^ 52`. -/
def leastNormal : Nat := 0x10000000000000

/-- The power of two below which significands do not shrink any further. -/
def leastExponent : Int := -1074

/-- The greatest exponent of a finite number. -/
def greatestExponent : Int := 971

end Binary64

/-- A finite binary64 number, `significand * 2 ^ exponent` with a sign.  A number has one
significand and one exponent: only a subnormal one has a significand below the least normal
one. -/
@[ext]
structure Binary64 where
  /-- Whether the number carries a minus sign; zero may. -/
  negative : Bool
  /-- The significand. -/
  significand : Nat
  /-- The exponent of two. -/
  exponent : Int
  /-- The significand fits fifty-three bits. -/
  significand_lt : significand < 2 * Binary64.leastNormal
  /-- The exponent is not below the one of subnormal numbers. -/
  leastExponent_le : Binary64.leastExponent ≤ exponent
  /-- The number is finite. -/
  exponent_le : exponent ≤ Binary64.greatestExponent
  /-- The significand is shorter in subnormal numbers only. -/
  isCanonical : exponent = Binary64.leastExponent ∨ Binary64.leastNormal ≤ significand
  deriving DecidableEq, Repr

namespace Binary64

/-- Zero with a sign. -/
def zero (negative : Bool) : Binary64 where
  negative := negative
  significand := 0
  exponent := leastExponent
  significand_lt := by decide
  leastExponent_le := by decide
  exponent_le := by decide
  isCanonical := .inl rfl

/-- Whether a number is a positive or negative zero. -/
def isZero (number : Binary64) : Bool := number.significand == 0

/-- The number with given parts, if a number has them. -/
def ofParts? (negative : Bool) (significand : Nat) (exponent : Int) : Option Binary64 :=
  if parts : significand < 2 * leastNormal ∧
      leastExponent ≤ exponent ∧
      exponent ≤ greatestExponent ∧
      (exponent = leastExponent ∨ leastNormal ≤ significand) then
    some ⟨negative, significand, exponent, parts.1, parts.2.1, parts.2.2.1, parts.2.2.2⟩
  else none

/-- The number that parts give is the one that has them. -/
theorem ofParts?_eq_some_iff
    {negative : Bool}
    {significand : Nat}
    {exponent : Int}
    {number : Binary64} :
    ofParts? negative significand exponent = some number ↔
      number.negative = negative ∧ number.significand = significand ∧
        number.exponent = exponent := by
  constructor
  · intro made
    rw [ofParts?] at made
    split at made
    · cases made
      exact ⟨rfl, rfl, rfl⟩
    · cases made
  · rintro ⟨rfl, rfl, rfl⟩
    rw [ofParts?, dif_pos
      ⟨number.significand_lt, number.leastExponent_le, number.exponent_le, number.isCanonical⟩]

/-- Multiply a fraction by a power of two, keeping numerator and denominator whole. -/
def scaleFraction (numerator denominator : Nat) (exponent : Int) : Nat × Nat :=
  if exponent ≥ 0 then (numerator * Nat.pow 2 exponent.toNat, denominator)
  else (numerator, denominator * Nat.pow 2 (-exponent).toNat)

/-- Divide with rounding to the nearest whole number, ties to even. -/
def roundedQuotient (numerator denominator : Nat) : Nat :=
  let quotient := numerator / denominator
  let twiceRest := 2 * (numerator % denominator)
  if twiceRest > denominator ∨ twiceRest = denominator ∧ quotient % 2 = 1 then quotient + 1
  else quotient

/-- The greatest power of two that is at most a positive fraction. -/
def binaryMagnitude (numerator denominator : Nat) : Int :=
  let estimate : Int := numerator.log2 - denominator.log2
  let scaled := scaleFraction numerator denominator (-estimate)
  if scaled.1 ≥ scaled.2 then estimate else estimate - 1

/-- The significand and the exponent nearest to a positive fraction, whatever the exponent. -/
def roundFraction (numerator denominator : Nat) : Nat × Int :=
  let exponent := max (binaryMagnitude numerator denominator - 52) leastExponent
  let scaled := scaleFraction numerator denominator (-exponent)
  let significand := roundedQuotient scaled.1 scaled.2
  if significand = 2 * leastNormal then (leastNormal, exponent + 1) else (significand, exponent)

/-- The number nearest to a fraction; none when it is out of range. -/
def ofFraction? (negative : Bool) (numerator denominator : Nat) : Option Binary64 :=
  if numerator = 0 then some (zero negative)
  else
    let rounded := roundFraction numerator denominator
    ofParts? negative rounded.1 rounded.2

/-- The number nearest to `digits * 10 ^ exponent`; none when it is out of range. -/
def ofDecimal? (negative : Bool) (digits : Nat) (exponent : Int) : Option Binary64 :=
  if digits = 0 then some (zero negative)
  else
    let magnitude : Int := exponent + (Nat.log2 digits / 3 + 1 : Nat)
    if exponent > 310 then none
    else if magnitude < -330 then some (zero negative)
    else if exponent ≥ 0 then ofFraction? negative (digits * Nat.pow 10 exponent.toNat) 1
    else ofFraction? negative digits (Nat.pow 10 (-exponent).toNat)

/-- The magnitude of a number as a fraction. -/
def fraction (number : Binary64) : Nat × Nat :=
  scaleFraction number.significand 1 number.exponent

end Binary64

end Number
end BundleTrust
