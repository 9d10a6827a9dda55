import Mathlib

/-!
# Floating-point numbers as real numbers

An unpacked floating-point number stands for a real number (`value`) or for an
infinity. Numbers are compared by their places among the extended real numbers
(`rank`, `compare_spec`), provided that their mantissas and exponents are such as
a format stores them (`Fits`): of two such numbers, the one with the larger
exponent is the larger one whatever the mantissas are.

Rounding is off by a share of a number (`roundoff`), and close to zero by no more than a fixed
amount (`underflow`).
-/

namespace Astrogation.Floating

open Float.Model
open Float.Model.UnpackedFloat (Accuracy Sign)

/-- A sign as a factor. -/
def unit : Sign → ℝ
  | .negative => -1
  | .positive => 1

/-- The number that a mantissa and an exponent stand for. -/
noncomputable def magnitude (m : ℕ) (e : ℤ) : ℝ := m * 2 ^ e

/-- The real number that a floating-point number stands for; zero if there is none. -/
noncomputable def value : UnpackedFloat → ℝ
  | .finite s m e _ => unit s * magnitude m e
  | _ => 0

/-- The place of a floating-point number among the extended real numbers. -/
noncomputable def rank : UnpackedFloat → EReal
  | .infinity .positive => ⊤
  | .infinity .negative => ⊥
  | u => value u

/-! ## Signs and magnitudes -/

theorem unit_neg : ∀ s : Sign, unit (-s) = -unit s
  | .negative => (neg_neg 1).symm
  | .positive => rfl

theorem unit_mul : ∀ s t : Sign, unit (s * t) = unit s * unit t
  | .negative, .negative => (by norm_num : (1 : ℝ) = -1 * -1)
  | .negative, .positive => (mul_one (-1)).symm
  | .positive, .negative => (one_mul (-1)).symm
  | .positive, .positive => (one_mul 1).symm

@[simp]
theorem abs_unit : ∀ s : Sign, |unit s| = 1
  | .negative => by simp [unit]
  | .positive => abs_one

/-- A signed mantissa as a real number. -/
theorem cast_apply : ∀ (s : Sign) (n : ℤ), ((s.apply n : ℤ) : ℝ) = unit s * n
  | .negative, n => by simp [Sign.apply, unit]
  | .positive, n => (one_mul (n : ℝ)).symm

theorem magnitude_pos {m : ℕ} (hm : 0 < m) (e : ℤ) : 0 < magnitude m e :=
  mul_pos (Nat.cast_pos.2 hm) (zpow_pos two_pos e)

theorem magnitude_nonneg (m : ℕ) (e : ℤ) : 0 ≤ magnitude m e :=
  mul_nonneg m.cast_nonneg (zpow_nonneg zero_le_two e)

/-- A shifted mantissa at a smaller exponent stands for the same number. -/
theorem magnitude_shiftLeft (m k : ℕ) (e : ℤ) : magnitude (m <<< k) (e - k) = magnitude m e := by
  rw [magnitude, magnitude, Nat.shiftLeft_eq, zpow_sub₀ two_ne_zero, zpow_natCast]
  push_cast
  field_simp

/-- Mantissas are multiplied, and exponents are added. -/
theorem magnitude_mul (m n : ℕ) (d e : ℤ) :
    magnitude (m * n) (d + e) = magnitude m d * magnitude n e := by
  rw [magnitude, magnitude, magnitude, zpow_add₀ two_ne_zero]
  push_cast
  ring

/-! ## Mantissas and exponents of a format -/

/-- A mantissa and an exponent as a format stores them: unless the exponent is the
    least one, no bit of the mantissa is unused. -/
structure Fits (spec : Format) (m : ℕ) (e : ℤ) : Prop where
  mantissa_lt : m < 2 ^ spec.mantissaBits
  le_exponent : spec.minExponent ≤ e
  full : 2 ^ spec.mantissaBitsWithoutImplicit ≤ m ∨ e = spec.minExponent

/-- A number whose mantissa and exponent are as the format stores them. -/
def Canonical (spec : Format) : UnpackedFloat → Prop
  | .finite _ m e _ => Fits spec m e
  | _ => True

variable {spec : Format} {m n : ℕ} {d e : ℤ}

/-- A larger exponent makes a larger number. -/
theorem Fits.magnitude_lt (hm : Fits spec m d) (hn : Fits spec n e) (h : d < e) :
    magnitude m d < magnitude n e := by
  have hfull := hn.full.resolve_right (hm.le_exponent.trans_lt h).ne'
  have hbits : ((spec.mantissaBits : ℕ) : ℤ) + d ≤ spec.mantissaBitsWithoutImplicit + e := by
    rw [Format.mantissaBits]
    omega
  calc (m : ℝ) * 2 ^ d < 2 ^ spec.mantissaBits * 2 ^ d := by
        gcongr
        exact_mod_cast hm.mantissa_lt
    _ = 2 ^ ((spec.mantissaBits : ℕ) + d : ℤ) := by
        rw [zpow_add₀ two_ne_zero, zpow_natCast]
    _ ≤ 2 ^ ((spec.mantissaBitsWithoutImplicit : ℕ) + e : ℤ) :=
        zpow_le_zpow_right₀ one_le_two hbits
    _ = 2 ^ spec.mantissaBitsWithoutImplicit * 2 ^ e := by
        rw [zpow_add₀ two_ne_zero, zpow_natCast]
    _ ≤ n * 2 ^ e := by
        gcongr
        exact_mod_cast hfull

/-- Magnitudes are compared by their exponents, and by their mantissas if these are equal. -/
theorem Fits.compares (hm : Fits spec m d) (hn : Fits spec n e) :
    ((compare d e).then (compare m n)).Compares (magnitude m d) (magnitude n e) := by
  rcases lt_trichotomy d e with h | rfl | h
  · rw [compare_lt_iff_lt.2 h]
    exact hm.magnitude_lt hn h
  · rw [compare_eq_iff_eq.2 rfl, Ordering.eq_then]
    have hp : (0 : ℝ) < 2 ^ d := zpow_pos two_pos d
    rcases lt_trichotomy m n with h | rfl | h
    · rw [compare_lt_iff_lt.2 h]
      exact mul_lt_mul_of_pos_right (Nat.cast_lt.2 h) hp
    · rw [compare_eq_iff_eq.2 rfl]
      rfl
    · rw [compare_gt_iff_gt.2 h]
      exact mul_lt_mul_of_pos_right (Nat.cast_lt.2 h) hp
  · rw [compare_gt_iff_gt.2 h]
    exact hn.magnitude_lt hm h

/-! ## The order of floating-point numbers -/

section

variable (h : 0 < m)

@[simp]
theorem value_zero (s : Sign) : value (.zero s) = 0 := rfl

@[simp]
theorem value_finite (s : Sign) : value (.finite s m e h) = unit s * magnitude m e := rfl

@[simp]
theorem rank_zero (s : Sign) : rank (.zero s) = 0 := rfl

/-- A finite number has the place of the real number that it stands for. -/
@[simp]
theorem rank_finite (s : Sign) : rank (.finite s m e h) = (unit s * magnitude m e : ℝ) := rfl

theorem rank_positive : rank (.finite .positive m e h) = (magnitude m e : ℝ) := by
  rw [rank_finite, unit, one_mul]

theorem rank_negative : rank (.finite .negative m e h) = (-magnitude m e : ℝ) := by
  rw [rank_finite, unit, neg_one_mul]

theorem rank_positive_pos : 0 < rank (.finite .positive m e h) := by
  rw [rank_positive]
  exact_mod_cast magnitude_pos h e

theorem rank_negative_neg : rank (.finite .negative m e h) < 0 := by
  rw [rank_negative]
  exact_mod_cast neg_neg_of_pos (magnitude_pos h e)

end

/-- Real numbers compare as they do among the extended ones. -/
theorem compares_coe {o : Ordering} {x y : ℝ} (h : o.Compares x y) :
    o.Compares (x : EReal) y := by
  cases o
  · exact EReal.coe_lt_coe_iff.2 h
  · exact congrArg _ h
  · exact EReal.coe_lt_coe_iff.2 h

/-- The order of real numbers is turned around by a change of sign. -/
theorem compares_neg {o : Ordering} {x y : ℝ} (h : o.Compares x y) : o.swap.Compares (-x) (-y) := by
  cases o
  · exact neg_lt_neg h
  · exact congrArg _ h
  · exact neg_lt_neg h

/-- Numbers are compared as their places among the extended real numbers. -/
theorem compare_spec {u v : UnpackedFloat} (hu : Canonical spec u) (hv : Canonical spec v)
    (hnu : u ≠ .notANumber) (hnv : v ≠ .notANumber) :
    ∃ o, u.compare v = some o ∧ o.Compares (rank u) (rank v) := by
  match u, v with
  | .notANumber, _ => exact absurd rfl hnu
  | _, .notANumber => exact absurd rfl hnv
  | .infinity .negative, .infinity .negative => exact ⟨.eq, rfl, rfl⟩
  | .infinity .positive, .infinity .positive => exact ⟨.eq, rfl, rfl⟩
  | .infinity .negative, .infinity .positive => exact ⟨.lt, rfl, bot_lt_top⟩
  | .infinity .positive, .infinity .negative => exact ⟨.gt, rfl, bot_lt_top⟩
  | .infinity .negative, .zero _ | .infinity .negative, .finite .. =>
    exact ⟨.lt, rfl, EReal.bot_lt_coe _⟩
  | .infinity .positive, .zero _ | .infinity .positive, .finite .. =>
    exact ⟨.gt, rfl, EReal.coe_lt_top _⟩
  | .zero _, .infinity .negative | .finite .negative .., .infinity .negative
  | .finite .positive .., .infinity .negative =>
    exact ⟨.gt, rfl, EReal.bot_lt_coe _⟩
  | .zero _, .infinity .positive | .finite .negative .., .infinity .positive
  | .finite .positive .., .infinity .positive =>
    exact ⟨.lt, rfl, EReal.coe_lt_top _⟩
  | .zero _, .zero _ => exact ⟨.eq, rfl, rfl⟩
  | .zero _, .finite .positive _ _ h => exact ⟨.lt, rfl, rank_positive_pos h⟩
  | .zero _, .finite .negative _ _ h => exact ⟨.gt, rfl, rank_negative_neg h⟩
  | .finite .positive _ _ h, .zero _ => exact ⟨.gt, rfl, rank_positive_pos h⟩
  | .finite .negative _ _ h, .zero _ => exact ⟨.lt, rfl, rank_negative_neg h⟩
  | .finite .negative _ _ h, .finite .positive _ _ h' =>
    exact ⟨.lt, rfl, (rank_negative_neg h).trans (rank_positive_pos h')⟩
  | .finite .positive _ _ h, .finite .negative _ _ h' =>
    exact ⟨.gt, rfl, (rank_negative_neg h').trans (rank_positive_pos h)⟩
  | .finite .positive _ _ h, .finite .positive _ _ h' =>
    rw [rank_positive, rank_positive]
    exact ⟨_, rfl, compares_coe (hu.compares hv)⟩
  | .finite .negative _ _ h, .finite .negative _ _ h' =>
    rw [rank_negative, rank_negative]
    exact ⟨_, rfl, compares_coe (compares_neg (hu.compares hv))⟩

/-- Nothing is compared with NaN. -/
theorem compare_eq_none {u v : UnpackedFloat} (h : ¬(u ≠ .notANumber ∧ v ≠ .notANumber)) :
    u.compare v = none := by
  rw [not_and_or, not_ne_iff, not_ne_iff] at h
  rcases h with rfl | rfl
  · rfl
  · cases u <;> rfl

section

variable {u v : UnpackedFloat} (hu : Canonical spec u) (hv : Canonical spec v)
include hu hv

/-- Numbers of a format are ordered by their places, and NaN is not ordered. -/
theorem le_iff : u.le v ↔ (u ≠ .notANumber ∧ v ≠ .notANumber) ∧ rank u ≤ rank v := by
  by_cases hn : u ≠ .notANumber ∧ v ≠ .notANumber
  · obtain ⟨o, ho, hc⟩ := compare_spec hu hv hn.1 hn.2
    simp [UnpackedFloat.le, ho, hn, ← hc.ne_gt, ← Ordering.ne_gt_iff_isLE]
  · simp [UnpackedFloat.le, compare_eq_none hn, hn]

theorem lt_iff : u.lt v ↔ (u ≠ .notANumber ∧ v ≠ .notANumber) ∧ rank u < rank v := by
  by_cases hn : u ≠ .notANumber ∧ v ≠ .notANumber
  · obtain ⟨o, ho, hc⟩ := compare_spec hu hv hn.1 hn.2
    simp [UnpackedFloat.lt, ho, hn, ← hc.eq_lt]
  · simp [UnpackedFloat.lt, compare_eq_none hn, hn]

theorem beq_iff : u.beq v ↔ (u ≠ .notANumber ∧ v ≠ .notANumber) ∧ rank u = rank v := by
  by_cases hn : u ≠ .notANumber ∧ v ≠ .notANumber
  · obtain ⟨o, ho, hc⟩ := compare_spec hu hv hn.1 hn.2
    simp [UnpackedFloat.beq, ho, hn, ← hc.eq_eq]
  · simp [UnpackedFloat.beq, compare_eq_none hn, hn]

end

/-! ## What rounding leaves out -/

/-- What an accuracy says of the part of a number which a mantissa leaves out. -/
def Tells : Accuracy → ℝ → Prop
  | .exact, f => f = 0
  | .inexact o, f => (0 < f ∧ f < 1) ∧ o.Compares f (1 / 2)

theorem Tells.nonneg {a : Accuracy} {f : ℝ} (h : Tells a f) : 0 ≤ f := by
  cases a with
  | exact => exact h.ge
  | inexact o => exact h.1.1.le

/-- What is left out is less than one unit of the mantissa. -/
theorem Tells.lt_one {a : Accuracy} {f : ℝ} (h : Tells a f) : f < 1 := by
  cases a with
  | exact => exact (show f = 0 from h) ▸ one_pos
  | inexact o => exact h.1.2

/-- The relative error of rounding. -/
noncomputable def roundoff (spec : Format) : ℝ := (2 ^ spec.mantissaBits)⁻¹

/-- The absolute error of rounding numbers which are close to zero. -/
noncomputable def underflow (spec : Format) : ℝ := 2 ^ (spec.minExponent - 1)

/-- By how much a magnitude may be off after rounding. -/
noncomputable def error (spec : Format) (x : ℝ) : ℝ := roundoff spec * x + underflow spec

theorem roundoff_pos (spec : Format) : 0 < roundoff spec := by
  rw [roundoff]
  positivity

/-- The relative error of rounding is no more than a half. -/
theorem roundoff_le (spec : Format) : roundoff spec ≤ 1 / 2 := by
  have hp : (1 : ℝ) ≤ 2 ^ spec.mantissaBitsWithoutImplicit := one_le_pow₀ one_le_two
  rw [roundoff, Format.mantissaBits, pow_add, pow_one, mul_inv]
  have := inv_le_one_of_one_le₀ hp
  linarith

theorem underflow_pos (spec : Format) : 0 < underflow spec := zpow_pos two_pos _

theorem error_nonneg (spec : Format) {x : ℝ} (hx : 0 ≤ x) : 0 ≤ error spec x :=
  add_nonneg (mul_nonneg (roundoff_pos spec).le hx) (underflow_pos spec).le

/-- Less the error of rounding, larger magnitudes stay larger. -/
theorem sub_error_mono (spec : Format) {x y : ℝ} (h : x ≤ y) :
    x - error spec x ≤ y - error spec y := by
  have := mul_le_mul_of_nonneg_left h (show 0 ≤ 1 - roundoff spec by linarith [roundoff_le spec])
  rw [error, error]
  linarith

end Astrogation.Floating
