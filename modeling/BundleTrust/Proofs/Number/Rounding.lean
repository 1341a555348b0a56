import BundleTrust.Number.Binary64
import Mathlib.Algebra.Order.Field.Power
import Mathlib.Data.Rat.Cast.Order
import Mathlib.Tactic.FieldSimp
import Mathlib.Tactic.Linarith
import Mathlib.Tactic.Ring

/-!
# Rounding to floating-point numbers

A fraction is rounded to a number that is off by half a unit of its last place at most
(`Binary64.abs_magnitude_sub_le`), and it is rounded to none only if it is out of range
(`Binary64.ofFraction?_eq_none_iff`): rounding gives the parts of a number whenever their exponent
is not too great.  Two numbers with the same sign and magnitude are the same
(`Binary64.eq_of_magnitude_eq`).
-/

namespace BundleTrust
namespace Number
namespace Binary64

/-! ## Fractions -/

section Fractions

variable {numerator denominator : ℕ}

theorem scaleFraction_pos (positive : 0 < denominator) (exponent : ℤ) :
    0 < (scaleFraction numerator denominator exponent).2 := by
  rw [scaleFraction]
  split
  · exact positive
  · exact Nat.mul_pos positive (Nat.pow_pos Nat.two_pos)

/-- Scaling multiplies a fraction by a power of two. -/
theorem div_scaleFraction (exponent : ℤ) :
    ((scaleFraction numerator denominator exponent).1 : ℚ) /
        (scaleFraction numerator denominator exponent).2 =
      numerator / denominator * 2 ^ exponent := by
  rw [scaleFraction]
  split
  · next nonnegative =>
      have power : ((Nat.pow 2 exponent.toNat : ℕ) : ℚ) = 2 ^ exponent := by
        rw [Nat.pow_eq, Nat.cast_pow, Nat.cast_ofNat, ← zpow_natCast,
          Int.toNat_of_nonneg nonnegative]
      rw [Nat.cast_mul, power]
      ring
  · next negative =>
      have power : ((Nat.pow 2 (-exponent).toNat : ℕ) : ℚ) = (2 ^ exponent)⁻¹ := by
        rw [Nat.pow_eq, Nat.cast_pow, Nat.cast_ofNat, ← zpow_natCast,
          Int.toNat_of_nonneg (by omega), zpow_neg]
      rw [Nat.cast_mul, power, ← div_div, div_inv_eq_mul]

/-- A rounded quotient is off by half at most. -/
theorem abs_roundedQuotient_sub_le (positive : 0 < denominator) :
    |(roundedQuotient numerator denominator : ℚ) - numerator / denominator| ≤ 1 / 2 := by
  have isPositive : (0 : ℚ) < denominator := by exact_mod_cast positive
  have split : (numerator : ℚ) / denominator =
      (numerator / denominator : ℕ) + (numerator % denominator : ℕ) / denominator := by
    have whole : (numerator : ℚ) =
        denominator * (numerator / denominator : ℕ) + (numerator % denominator : ℕ) := by
      exact_mod_cast (Nat.div_add_mod numerator denominator).symm
    rw [eq_comm, ← mul_left_inj' isPositive.ne', add_mul, div_mul_cancel₀ _ isPositive.ne',
      div_mul_cancel₀ _ isPositive.ne', whole, mul_comm]
  have nonnegative : (0 : ℚ) ≤ (numerator % denominator : ℕ) / denominator :=
    div_nonneg (Nat.cast_nonneg _) isPositive.le
  rw [roundedQuotient, split]
  split
  · next isUp =>
      -- The rest is at least half of the denominator, and it is below the denominator.
      have atLeastHalf : (1 : ℚ) / 2 ≤ (numerator % denominator : ℕ) / denominator := by
        rw [le_div_iff₀ isPositive]
        have : (denominator : ℚ) ≤ 2 * (numerator % denominator : ℕ) := by
          exact_mod_cast isUp.elim Nat.le_of_lt fun tie => tie.1.ge
        linarith
      have belowOne : ((numerator % denominator : ℕ) : ℚ) / denominator ≤ 1 := by
        rw [div_le_one₀ isPositive]
        exact_mod_cast (Nat.mod_lt numerator positive).le
      rw [Nat.cast_add, Nat.cast_one, abs_le]
      constructor <;> linarith
  · next isDown =>
      have atMostHalf : ((numerator % denominator : ℕ) : ℚ) / denominator ≤ 1 / 2 := by
        rw [div_le_iff₀ isPositive]
        have : 2 * ((numerator % denominator : ℕ) : ℚ) ≤ denominator := by
          exact_mod_cast Nat.le_of_not_lt fun above => isDown (.inl above)
        linarith
      rw [abs_le]
      constructor <;> linarith

/-- A number is within a power of two of the one that its binary length gives. -/
theorem zpow_log2_le {value : ℕ} (positive : 0 < value) :
    (2 : ℚ) ^ (value.log2 : ℤ) ≤ value ∧ (value : ℚ) < 2 ^ ((value.log2 : ℤ) + 1) := by
  constructor
  · rw [zpow_natCast]
    exact_mod_cast Nat.log2_self_le positive.ne'
  · rw [← Nat.cast_succ, zpow_natCast]
    exact_mod_cast Nat.lt_log2_self

/-- The magnitude of a fraction is the exponent of the greatest power of two that is not above
it. -/
theorem zpow_binaryMagnitude_le (positive : 0 < numerator) (positive' : 0 < denominator) :
    (2 : ℚ) ^ binaryMagnitude numerator denominator ≤ numerator / denominator ∧
      (numerator : ℚ) / denominator < 2 ^ (binaryMagnitude numerator denominator + 1) := by
  obtain ⟨atLeast, below⟩ := zpow_log2_le positive
  obtain ⟨atLeast', below'⟩ := zpow_log2_le positive'
  have isPositive : (0 : ℚ) < denominator := by exact_mod_cast positive'
  set estimate : ℤ := numerator.log2 - denominator.log2 with isEstimate
  have upper : (numerator : ℚ) / denominator < 2 ^ (estimate + 1) := by
    rw [div_lt_iff₀ isPositive]
    calc
      (numerator : ℚ) < 2 ^ ((numerator.log2 : ℤ) + 1) := below
      _ = 2 ^ (estimate + 1) * 2 ^ (denominator.log2 : ℤ) := by
        rw [← zpow_add₀ two_ne_zero]
        congr 1
        omega
      _ ≤ 2 ^ (estimate + 1) * denominator := by gcongr
  have lower : (2 : ℚ) ^ (estimate - 1) ≤ numerator / denominator := by
    rw [le_div_iff₀ isPositive]
    calc
      (2 : ℚ) ^ (estimate - 1) * denominator
          ≤ 2 ^ (estimate - 1) * 2 ^ ((denominator.log2 : ℤ) + 1) := by gcongr
      _ = 2 ^ (numerator.log2 : ℤ) := by
        rw [← zpow_add₀ two_ne_zero]
        congr 1
        omega
      _ ≤ numerator := atLeast
  -- Which of the two magnitudes it is, is decided by comparing the scaled fraction with one.
  have isAtLeast : (scaleFraction numerator denominator (-estimate)).1 ≥
      (scaleFraction numerator denominator (-estimate)).2 ↔
        (2 : ℚ) ^ estimate ≤ numerator / denominator := by
    have scaled := @div_scaleFraction numerator denominator (-estimate)
    have isScaled : (0 : ℚ) < (scaleFraction numerator denominator (-estimate)).2 := by
      exact_mod_cast scaleFraction_pos positive' (-estimate)
    rw [ge_iff_le, ← Nat.cast_le (α := ℚ), ← one_le_div₀ isScaled, scaled, zpow_neg,
      ← div_eq_mul_inv, one_le_div₀ (by positivity)]
  rw [binaryMagnitude, ← isEstimate]
  split
  · next isAbove => exact ⟨isAtLeast.1 isAbove, upper⟩
  · next isBelow =>
      rw [sub_add_cancel]
      exact ⟨lower, not_le.1 fun above => isBelow (isAtLeast.2 above)⟩

end Fractions

/-! ## Rounding -/

section Rounding

variable {numerator denominator : ℕ}

/-- What a fraction is rounded to: parts of a number but for a limit of the exponent, and off by
half a unit of the last place at most. -/
structure Rounds (fraction : ℚ) (parts : ℕ × ℤ) : Prop where
  /-- The significand fits fifty-three bits. -/
  significand_lt : parts.1 < 2 * leastNormal
  /-- The exponent is not below the one of subnormal numbers. -/
  leastExponent_le : leastExponent ≤ parts.2
  /-- The significand is shorter in subnormal numbers only. -/
  isCanonical : parts.2 = leastExponent ∨ leastNormal ≤ parts.1
  /-- The error is small. -/
  abs_sub_le : |parts.1 * 2 ^ parts.2 - fraction| ≤ 2 ^ parts.2 / 2

theorem cast_leastNormal : (leastNormal : ℚ) = 2 ^ (52 : ℤ) := by
  norm_num [leastNormal]

/-- The significand that a fraction is rounded to at an exponent. -/
def significandAt (numerator denominator : ℕ) (exponent : ℤ) : ℕ :=
  let scaled := scaleFraction numerator denominator (-exponent)
  roundedQuotient scaled.1 scaled.2

theorem abs_significandAt_sub_le (positive : 0 < denominator) (exponent : ℤ) :
    |(significandAt numerator denominator exponent : ℚ) -
      numerator / denominator * 2 ^ (-exponent)| ≤ 1 / 2 := by
  rw [← div_scaleFraction]
  exact abs_roundedQuotient_sub_le (scaleFraction_pos positive _)

/-- At any exponent, a rounded fraction is off by half a unit of its last place at most. -/
theorem abs_significandAt_mul_sub_le (positive : 0 < denominator) (exponent : ℤ) :
    |(significandAt numerator denominator exponent : ℚ) * 2 ^ exponent -
      numerator / denominator| ≤ 2 ^ exponent / 2 := by
  have error := @abs_significandAt_sub_le numerator denominator positive exponent
  have aboveZero : (0 : ℚ) < 2 ^ exponent := by positivity
  set significand := significandAt numerator denominator exponent
  set fraction : ℚ := numerator / denominator
  calc
    |(significand : ℚ) * 2 ^ exponent - fraction|
        = |(significand - fraction * 2 ^ (-exponent)) * 2 ^ exponent| := by
      rw [sub_mul, mul_assoc, ← zpow_add₀ two_ne_zero, neg_add_cancel, zpow_zero, mul_one]
    _ = |(significand : ℚ) - fraction * 2 ^ (-exponent)| * 2 ^ exponent := by
      rw [abs_mul, abs_of_pos aboveZero]
    _ ≤ 1 / 2 * 2 ^ exponent := by gcongr
    _ = 2 ^ exponent / 2 := by ring

/-- At an exponent that is fifty-two below the magnitude at least, the significand has no more
than fifty-three bits, or it is the next power of two. -/
theorem significandAt_le
    {magnitude exponent : ℤ}
    (positive : 0 < denominator)
    (upper : (numerator : ℚ) / denominator < 2 ^ (magnitude + 1))
    (isHigh : magnitude - 52 ≤ exponent) :
    significandAt numerator denominator exponent ≤ 2 * leastNormal := by
  have error := @abs_significandAt_sub_le numerator denominator positive exponent
  have scaledBelow : (numerator : ℚ) / denominator * 2 ^ (-exponent) < 2 * leastNormal := by
    calc
      (numerator : ℚ) / denominator * 2 ^ (-exponent)
          < 2 ^ (magnitude + 1) * 2 ^ (-exponent) := by gcongr
      _ = 2 ^ (magnitude + 1 - exponent) := by
        rw [← zpow_add₀ two_ne_zero, sub_eq_add_neg]
      _ ≤ 2 ^ (53 : ℤ) := zpow_le_zpow_right₀ one_le_two (by omega)
      _ = 2 * leastNormal := by rw [cast_leastNormal]; norm_num
  have below : (significandAt numerator denominator exponent : ℚ) <
      (2 * leastNormal + 1 : ℕ) := by
    push_cast
    linarith [(abs_le.1 error).2]
  exact Nat.lt_succ_iff.1 (Nat.cast_lt.1 below)

/-- At the exponent that is fifty-two below the magnitude, the significand has fifty-three bits at
least. -/
theorem le_significandAt
    {magnitude : ℤ}
    (positive : 0 < denominator)
    (lower : (2 : ℚ) ^ magnitude ≤ numerator / denominator) :
    leastNormal ≤ significandAt numerator denominator (magnitude - 52) := by
  have error := @abs_significandAt_sub_le numerator denominator positive (magnitude - 52)
  have scaledAbove : (leastNormal : ℚ) ≤ numerator / denominator * 2 ^ (-(magnitude - 52)) := by
    calc
      (leastNormal : ℚ) = 2 ^ magnitude * 2 ^ (-(magnitude - 52)) := by
        rw [cast_leastNormal, ← zpow_add₀ two_ne_zero]
        congr 1
        omega
      _ ≤ numerator / denominator * 2 ^ (-(magnitude - 52)) := by gcongr
  have above : (leastNormal : ℚ) <
      (significandAt numerator denominator (magnitude - 52) + 1 : ℕ) := by
    push_cast
    linarith [(abs_le.1 error).1]
  exact Nat.lt_succ_iff.1 (Nat.cast_lt.1 above)

theorem rounds_roundFraction (positive : 0 < numerator) (positive' : 0 < denominator) :
    Rounds (numerator / denominator) (roundFraction numerator denominator) := by
  obtain ⟨lower, upper⟩ := zpow_binaryMagnitude_le positive positive'
  set magnitude := binaryMagnitude numerator denominator
  set exponent := max (magnitude - 52) leastExponent with isExponent
  have made : roundFraction numerator denominator =
      if significandAt numerator denominator exponent = 2 * leastNormal then
        (leastNormal, exponent + 1)
      else (significandAt numerator denominator exponent, exponent) := rfl
  have atMost := significandAt_le positive' upper (le_max_left _ leastExponent)
  have atLeast : exponent = leastExponent ∨
      leastNormal ≤ significandAt numerator denominator exponent := by
    rcases max_choice (magnitude - 52) leastExponent with isNormal | isLeast
    · rw [isExponent, isNormal]
      exact .inr (le_significandAt positive' lower)
    · exact .inl isLeast
  have close := @abs_significandAt_mul_sub_le numerator denominator positive' exponent
  rw [made]
  split
  · next isFull =>
      -- The significand has one bit too many, which is a zero.
      have same : (leastNormal : ℚ) * 2 ^ (exponent + 1) =
          significandAt numerator denominator exponent * 2 ^ exponent := by
        rw [isFull, zpow_add_one₀ two_ne_zero]
        push_cast
        ring
      have aboveZero : (0 : ℚ) < 2 ^ exponent := by positivity
      have fits : leastNormal < 2 * leastNormal := by decide
      refine ⟨fits, le_add_of_le_of_nonneg (le_max_right _ _) zero_le_one, .inr le_rfl, ?_⟩
      rw [same, zpow_add_one₀ two_ne_zero]
      linarith
  · next isPart =>
      exact ⟨lt_of_le_of_ne atMost isPart, le_max_right _ _, atLeast, close⟩

/-- A positive fraction is rounded to a number unless its exponent is too great. -/
theorem ofFraction?_eq_none_iff
    (positive : 0 < numerator)
    (positive' : 0 < denominator)
    (negative : Bool) :
    ofFraction? negative numerator denominator = none ↔
      greatestExponent < (roundFraction numerator denominator).2 := by
  have rounds := rounds_roundFraction positive positive'
  rw [ofFraction?, if_neg positive.ne', Option.eq_none_iff_forall_ne_some]
  constructor
  · intro isNone
    by_contra! inRange
    exact isNone ⟨negative, _, _, rounds.significand_lt, rounds.leastExponent_le, inRange,
      rounds.isCanonical⟩ (ofParts?_eq_some_iff.2 ⟨rfl, rfl, rfl⟩)
  · intro outOfRange number isNumber
    exact absurd number.exponent_le (not_le.2 ((ofParts?_eq_some_iff.1 isNumber).2.2 ▸ outOfRange))

/-- The number without its sign. -/
def magnitude (number : Binary64) : ℚ := number.significand * 2 ^ number.exponent

/-- A number that a fraction is rounded to is off by half a unit of its last place at most. -/
theorem abs_magnitude_sub_le
    {negative : Bool}
    {number : Binary64}
    (positive : 0 < denominator)
    (rounded : ofFraction? negative numerator denominator = some number) :
    |number.magnitude - numerator / denominator| ≤ 2 ^ number.exponent / 2 := by
  rcases numerator.eq_zero_or_pos with rfl | positive'
  · cases rounded
    have isZero : (zero negative).magnitude = 0 := by simp [magnitude, zero]
    rw [isZero, Nat.cast_zero, zero_div, sub_zero, abs_zero]
    exact div_nonneg (zpow_nonneg zero_le_two _) zero_le_two
  · rw [ofFraction?, if_neg positive'.ne'] at rounded
    obtain ⟨-, isSignificand, isExponent⟩ := ofParts?_eq_some_iff.1 rounded
    rw [magnitude, isSignificand, isExponent]
    exact (rounds_roundFraction positive' positive).abs_sub_le

end Rounding

/-! ## One number for each value -/

/-- Of two numbers with one magnitude neither has the smaller exponent. -/
theorem exponent_le_of_magnitude_eq
    {number other : Binary64}
    (same : number.magnitude = other.magnitude) :
    other.exponent ≤ number.exponent := by
  by_contra! below
  -- The other number is not subnormal, and so its significand is too long for this exponent.
  have isNormal : leastNormal ≤ other.significand :=
    other.isCanonical.resolve_left (number.leastExponent_le.trans_lt below).ne'
  have tooLong : (2 * leastNormal : ℚ) * 2 ^ number.exponent ≤ number.magnitude := by
    calc
      (2 * leastNormal : ℚ) * 2 ^ number.exponent = leastNormal * 2 ^ (number.exponent + 1) := by
        rw [zpow_add_one₀ two_ne_zero]
        ring
      _ ≤ other.significand * 2 ^ other.exponent :=
        mul_le_mul (Nat.cast_le.2 isNormal) (zpow_le_zpow_right₀ one_le_two below)
          (by positivity) (Nat.cast_nonneg _)
      _ = number.magnitude := same.symm
  have isShort : (number.significand : ℚ) < 2 * leastNormal := by
    exact_mod_cast number.significand_lt
  exact absurd isShort (not_lt.2 (le_of_mul_le_mul_right tooLong (by positivity)))

/-- Numbers with one sign and one magnitude are the same. -/
theorem eq_of_magnitude_eq
    {number other : Binary64}
    (sameSign : number.negative = other.negative)
    (same : number.magnitude = other.magnitude) :
    number = other := by
  have sameExponent : number.exponent = other.exponent :=
    le_antisymm (exponent_le_of_magnitude_eq same.symm) (exponent_le_of_magnitude_eq same)
  refine Binary64.ext sameSign ?_ sameExponent
  rw [magnitude, magnitude, sameExponent] at same
  exact Nat.cast_injective (mul_right_cancel₀ (zpow_ne_zero _ two_ne_zero) same)

end Binary64
end Number
end BundleTrust
