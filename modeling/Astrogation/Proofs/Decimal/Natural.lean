import Astrogation.Proofs.Decimal.Single

/-!
# Rounding to natural numbers is rounding

The nearest natural number to a number of double precision, halves rounded up, is that of its
value among the real numbers, unless this is negative or too large (`toNatural_isNearest`).
-/

namespace Astrogation.Decimal

open Floating

/-- A natural number is the nearest to `x` of those up to `bound`; of two, it is the greater
    one. An infinity is nearest to one of the ends, and NaN counts as zero. -/
def IsNearestNatural (bound : Nat) (x : Float) (n : Nat) : Prop :=
  if x.isFinite then n = min bound (round (max (value (ofDouble x)) 0)).toNat
  else n = if 0 < x then bound else 0

/-- A quotient is rounded among the natural numbers as it is among the real ones. -/
theorem roundHalfUp_eq_round (num : ℕ) {den : ℕ} (h : 0 < den) :
    roundHalfUp num den = (round ((num : ℝ) / den)).toNat := by
  have hd : (den : ℝ) ≠ 0 := Nat.cast_ne_zero.2 h.ne'
  have halves : (num : ℝ) / den + 1 / 2 = ((2 * num + den : ℕ) : ℝ) / (2 * den : ℕ) := by
    push_cast
    field_simp
  rw [round_eq, Int.floor_toNat, halves, Nat.floor_div_eq_div, roundHalfUp]

/-- The magnitude of a number is the quotient that is rounded. -/
theorem magnitude_eq (b : BinaryParts) :
    magnitude b.mantissa b.exponent = b.numerator / b.denominator := by
  have split : (2 : ℝ) ^ b.exponent = 2 ^ b.exponent.toNat / 2 ^ (-b.exponent).toNat := by
    rw [← zpow_natCast, ← zpow_natCast, ← zpow_sub₀ two_ne_zero, Int.toNat_sub_toNat_neg]
  rw [magnitude, split, BinaryParts.numerator, BinaryParts.denominator, Nat.pow_eq, Nat.pow_eq]
  push_cast
  rw [mul_div_assoc]

theorem denominator_pos (b : BinaryParts) : 0 < b.denominator := Nat.two_pow_pos _

/-- The rounded number is the nearest of those up to the bound. -/
theorem toNatural_isNearest (bound : Nat) (x : Float) :
    IsNearestNatural bound x (toNatural bound x) := by
  rw [IsNearestNatural, toNatural]
  by_cases finite : x.isFinite
  · obtain ⟨b, hb, hvalue⟩ := ofFloat?_of_isFinite finite
    have hmagnitude : 0 ≤ magnitude b.mantissa b.exponent := magnitude_nonneg _ _
    rw [if_pos finite, hb, hvalue, BinaryParts.sign]
    dsimp only
    cases b.negative with
    | true =>
      have below : -1 * magnitude b.mantissa b.exponent ≤ 0 := by linarith
      show 0 = min bound (round (max (-1 * magnitude b.mantissa b.exponent) 0)).toNat
      rw [max_eq_right below, round_zero, Int.toNat_zero, Nat.min_zero]
    | false =>
      show min bound (roundHalfUp b.numerator b.denominator) =
        min bound (round (max (1 * magnitude b.mantissa b.exponent) 0)).toNat
      rw [one_mul, max_eq_left hmagnitude, magnitude_eq,
        roundHalfUp_eq_round _ (denominator_pos b)]
  · rw [if_neg finite, ofFloat?_of_not_isFinite finite]

end Astrogation.Decimal
