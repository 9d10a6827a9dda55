import Astrogation.Proofs.Floating.Machine

/-!
# Whole numbers

A whole number of no more than 64 bits is near a finite number of double precision.
-/

namespace Astrogation.Floating

open Float.Model (Format UnpackedFloat totalExponent)
open Float.Model.UnpackedFloat

variable {n : ℕ}

/-! ## Rounding -/

theorem abs_cast_le (h : n < 2 ^ 64) : |(n : ℝ)| ≤ 2 ^ 64 := by
  rw [abs_of_nonneg n.cast_nonneg]
  exact_mod_cast h.le

/-- A natural number of 64 bits is rounded to a number near it. -/
theorem toFloat_rounds (n : UInt64) : Rounds .binary64 n.toNat (ofDouble n.toFloat) := by
  have h := @normalize_rounds .binary64 n.toNat 0 .positive
  rw [zpow_zero, mul_one, Int.cast_natCast] at h
  exact h.stored roomy_binary64 ((abs_cast_le n.toNat_lt).trans (by norm_num))

theorem isReal_one : IsReal .binary64 (ofDouble 1.0) := ⟨canonical_ofDouble _, rfl⟩

theorem value_one : value (ofDouble 1.0) = 1 := by
  have h : ofDouble 1.0 = .finite .positive (2 ^ 52) (-52) (by decide) := rfl
  rw [h, value_finite, unit, one_mul, magnitude]
  norm_num

/-- Too many digits for the mantissa are rounded. -/
theorem ofScientific_rounds (h : 0 < n) :
    Rounds .binary64 n (UnpackedFloat.ofScientific .binary64 n 0) := by
  have hmul : UnpackedFloat.ofScientific .binary64 n 0 =
      roundWithAccuracy .binary64 .positive ((n <<< 53) * 10 ^ 0) (-53 + 0) .exact := by
    rw [UnpackedFloat.ofScientific, dif_neg h.ne', if_neg (by decide),
      if_neg (by simp), if_pos le_rfl]
    rfl
  have hn : (n <<< 53) * 10 ^ 0 = n <<< 53 := by rw [pow_zero, mul_one]
  have hle : -53 ≤ Format.binary64.targetExponent (totalExponent (n <<< 53) (-53)) := by
    rw [Format.targetExponent, totalExponent, log2_shiftLeft h]
    have bits : (Format.binary64.mantissaBits : ℤ) = 53 := rfl
    exact le_max_of_le_left (by push_cast; omega)
  have rounds := roundWithAccuracy_exact_rounds .positive (Nat.shiftLeft_pos_iff.2 h) hle
  have hx : unit .positive * magnitude (n <<< 53) (-53) = n := by
    have same := magnitude_shiftLeft n 53 0
    rw [Nat.cast_ofNat, zero_sub] at same
    rw [unit, one_mul, same, magnitude, zpow_zero, mul_one]
  rw [hmul, hn, add_zero]
  exact hx ▸ rounds

/-! ## Numbers of moderate size -/

/-- A finite number of moderate size. -/
structure IsModerate (x : Float) : Prop where
  isFinite : x.isFinite
  small : |value (ofDouble x)| ≤ 2 ^ 98

/-- Numbers that are not too large stay moderate when they are rounded. -/
theorem Rounds.isModerate {x : Float} {r : ℝ} (h : Rounds .binary64 r (ofDouble x))
    (hr : |r| ≤ 2 ^ 66) : IsModerate x where
  isFinite := h.isFinite
  small := by
    have := h.abs_value_le
    linarith

/-- To change the sign loses nothing. -/
theorem rounds_neg {u : UnpackedFloat} (hu : IsReal .binary64 u) :
    Rounds .binary64 (-value u) (UnpackedFloat.neg u) := by
  obtain ⟨canonical, finite⟩ := hu
  match u with
  | .zero s =>
    rw [value_zero, neg_zero]
    exact rounds_zero _
  | .finite s m e h =>
    rw [← value_neg]
    exact rounds_value (u := .finite (-s) m e h) canonical rfl

theorem IsModerate.neg {x : Float} (h : IsModerate x) : (-x).isFinite := by
  have small : |-value (ofDouble x)| ≤ 2 ^ 98 := (abs_neg _).trans_le h.small
  exact ((rounds_neg ⟨canonical_ofDouble x, h.isFinite⟩).stored roomy_binary64 small).isFinite

/-- Natural numbers of no more than 64 bits are of moderate size, which leaves room for the error
    of rounding. -/
theorem isModerate_ofNat (h : n < 2 ^ 64) : IsModerate (Float.ofNat n) := by
  have size : |(n : ℝ)| ≤ 2 ^ 64 := abs_cast_le h
  change IsModerate (Float.ofScientific n false 0)
  rw [Float.ofScientific]
  split
  · -- The number is converted as it is, and multiplied by one.
    have hn : (Nat.toUInt64 n).toNat = n := UInt64.toNat_ofNat_of_lt h
    have rounds := toFloat_rounds n.toUInt64
    rw [hn] at rounds
    have small : |value (ofDouble (Nat.toUInt64 n).toFloat) * value (ofDouble 1.0)| ≤ 2 ^ 66 := by
      have := rounds.abs_value_le
      rw [value_one, mul_one]
      linarith
    have product : Rounds .binary64 _ (ofDouble ((Nat.toUInt64 n).toFloat * 1.0)) :=
      storedMul_rounds roomy_binary64 rounds.isReal isReal_one (small.trans (by norm_num))
    exact product.isModerate small
  · next large =>
    have hpos : 0 < n := by
      by_contra h0
      exact large ⟨by omega, by omega⟩
    have rounds : Rounds .binary64 n (ofDouble (.ofModel (Float.Model.ofScientific n 0))) :=
      (ofScientific_rounds hpos).stored roomy_binary64 (size.trans (by norm_num))
    exact rounds.isModerate (size.trans (by norm_num))

/-- A whole number of no more than 64 bits is near a finite number. -/
theorem isFinite_ofInt {n : ℤ} (h : n.natAbs < 2 ^ 64) : (Float.ofInt n).isFinite := by
  cases n with
  | ofNat n => exact (isModerate_ofNat h).isFinite
  | negSucc n => exact (isModerate_ofNat h).neg

end Astrogation.Floating
