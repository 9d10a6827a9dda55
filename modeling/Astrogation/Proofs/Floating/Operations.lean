import Astrogation.Proofs.Floating.Packing

/-!
# Arithmetic on floating-point numbers

Each operation on finite numbers of a format rounds the exact result
(`sub_rounds`, `add_rounds`, `mul_rounds`, `sqrt_rounds`).
-/

namespace Astrogation.Floating

open Float.Model (Format UnpackedFloat totalExponent)
open Float.Model.UnpackedFloat

variable {spec : Format} {u v : UnpackedFloat} {s : Sign} {m n : ℕ} {d e t : ℤ}

/-- A number of the format is not rounded. -/
theorem rounds_value (hu : Canonical spec u) (h : u.isFinite) : Rounds spec (value u) u where
  canonical := hu
  isFinite := h
  near := by
    rw [sub_self, abs_zero]
    exact error_nonneg spec (abs_nonneg _)
  nonneg := id

/-- A mantissa which is brought to a smaller exponent. -/
theorem apply_decreaseExponent (s : Sign) (m : ℕ) (h : t ≤ e) :
    ((s.apply ((decreaseExponent m e t).1 : ℤ) : ℤ) : ℝ) * 2 ^ t = unit s * magnitude m e := by
  obtain ⟨k, rfl⟩ := Int.le.dest h
  have hk : (t + k - t).toNat = k := by omega
  rw [decreaseExponent, hk, cast_apply, ← magnitude_shiftLeft m k, add_sub_cancel_right, magnitude,
    Int.cast_natCast, mul_assoc]

/-- The exponent of a product is not larger than the format wants. -/
theorem Fits.mul_le (hm : Fits spec m d) (hn : Fits spec n e) (h : 0 < m) (h' : 0 < n) :
    d + e ≤ spec.targetExponent (totalExponent (m * n) (d + e)) := by
  have hle (k : ℕ) (hk : 2 ^ spec.mantissaBitsWithoutImplicit ≤ k) (hkmn : k ≤ m * n) :
      d + e ≤ spec.targetExponent (totalExponent (m * n) (d + e)) := by
    have := (Nat.le_log2 (Nat.mul_pos h h').ne').2 (hk.trans hkmn)
    rw [Format.targetExponent, totalExponent, Format.mantissaBits]
    omega
  rcases hm.full with hm' | rfl
  · exact hle m hm' (Nat.le_mul_of_pos_right m h')
  · rcases hn.full with hn' | rfl
    · exact hle n hn' (Nat.le_mul_of_pos_left n h)
    · have := minExponent_nonpos spec
      rw [Format.targetExponent]
      omega

theorem value_neg (h : 0 < m) : value (.finite (-s) m e h) = -value (.finite s m e h) := by
  rw [value_finite, value_finite, unit_neg, neg_mul]

section

variable (hu : Canonical spec u) (hv : Canonical spec v) (fu : u.isFinite) (fv : v.isFinite)
include hu hv fu fv

/-- A difference is rounded from the exact one. Its parts are first brought to the same exponent,
    which loses nothing. -/
theorem sub_rounds : Rounds spec (value u - value v) (UnpackedFloat.sub spec u v) := by
  match u, v with
  | .zero s, .zero t =>
    rw [value_zero, value_zero, sub_zero]
    cases s <;> cases t <;> exact rounds_zero _
  | .zero _, .finite s m e h =>
    rw [value_zero, zero_sub, ← value_neg]
    exact rounds_value (u := .finite (-s) m e h) hv rfl
  | .finite .., .zero _ =>
    rw [value_zero, sub_zero]
    exact rounds_value hu rfl
  | .finite s m d hm, .finite t n e hn =>
    have hx : value (.finite s m d hm) - value (.finite t n e hn) =
        ((s.apply ((decreaseExponent m d (min d e)).1 : ℤ) -
          t.apply ((decreaseExponent n e (min d e)).1 : ℤ) : ℤ) : ℝ) * 2 ^ min d e := by
      rw [Int.cast_sub, sub_mul, apply_decreaseExponent s m (min_le_left d e),
        apply_decreaseExponent t n (min_le_right d e), value_finite, value_finite]
    rw [hx]
    exact normalize_rounds _ _ _

theorem add_rounds : Rounds spec (value u + value v) (UnpackedFloat.add spec u v) := by
  match u, v with
  | .zero s, .zero t =>
    rw [value_zero, value_zero, add_zero]
    cases s <;> cases t <;> exact rounds_zero _
  | .zero _, .finite .. =>
    rw [value_zero, zero_add]
    exact rounds_value hv rfl
  | .finite .., .zero _ =>
    rw [value_zero, add_zero]
    exact rounds_value hu rfl
  | .finite s m d hm, .finite t n e hn =>
    have hx : value (.finite s m d hm) + value (.finite t n e hn) =
        ((s.apply ((decreaseExponent m d (min d e)).1 : ℤ) +
          t.apply ((decreaseExponent n e (min d e)).1 : ℤ) : ℤ) : ℝ) * 2 ^ min d e := by
      rw [Int.cast_add, add_mul, apply_decreaseExponent s m (min_le_left d e),
        apply_decreaseExponent t n (min_le_right d e), value_finite, value_finite]
    rw [hx]
    exact normalize_rounds _ _ _

/-- A product is rounded from the exact one. -/
theorem mul_rounds : Rounds spec (value u * value v) (UnpackedFloat.mul spec u v) := by
  match u, v with
  | .zero s, .zero t =>
    rw [value_zero, zero_mul]
    exact rounds_zero _
  | .zero _, .finite .. =>
    rw [value_zero, zero_mul]
    exact rounds_zero _
  | .finite .., .zero _ =>
    rw [value_zero, mul_zero]
    exact rounds_zero _
  | .finite s m d hm, .finite t n e hn =>
    have hx : value (.finite s m d hm) * value (.finite t n e hn) =
        unit (s * t) * magnitude (m * n) (d + e) := by
      rw [value_finite, value_finite, unit_mul, magnitude_mul]
      ring
    rw [hx]
    exact roundWithAccuracy_exact_rounds _ (Nat.mul_pos hm hn) (Fits.mul_le hu hv hm hn)

end

/-! ## Square roots -/

/-- The root of a number has half as many bits. -/
theorem log2_sqrt (h : 0 < n) : (Nat.sqrt n).log2 = n.log2 / 2 := by
  have hsq (k : ℕ) : 2 ^ k * 2 ^ k = 2 ^ (2 * k) := by rw [← pow_add, two_mul]
  rw [Nat.log2_eq_iff (Nat.sqrt_pos.2 h).ne', Nat.le_sqrt, Nat.sqrt_lt, hsq, hsq]
  exact ⟨(Nat.pow_le_pow_right two_pos (by omega)).trans (Nat.log2_self_le h.ne'),
    Nat.lt_log2_self.trans_le (Nat.pow_le_pow_right two_pos (by omega))⟩

/-- The accuracy of a whole square root. -/
theorem tells_sqrt (n : ℕ) :
    Tells (if n - n.sqrt * n.sqrt = 0 then .exact
      else .inexact (if n - n.sqrt * n.sqrt ≤ n.sqrt then .lt else .gt)) (√n - n.sqrt) := by
  have hle := Nat.sqrt_le n
  have hlt := Nat.lt_succ_sqrt n
  generalize n.sqrt = q at hle hlt ⊢
  obtain ⟨r, rfl⟩ := Nat.exists_eq_add_of_le hle
  rw [Nat.succ_mul_succ_eq] at hlt
  rw [Nat.add_sub_cancel_left]
  have hq : (0 : ℝ) ≤ q := q.cast_nonneg
  have hr : (r : ℝ) ≤ 2 * q := by exact_mod_cast (by omega : r ≤ 2 * q)
  push_cast
  have hupper : √(q * q + r : ℝ) < q + 1 := by
    rw [Real.sqrt_lt' (by linarith)]
    nlinarith
  split_ifs with h0 h
  · rw [h0, Nat.cast_zero, add_zero, Real.sqrt_mul_self hq]
    exact sub_self _
  · have hlower : (q : ℝ) < √(q * q + r) := by
      rw [Real.lt_sqrt hq]
      have : (0 : ℝ) < r := Nat.cast_pos.2 (Nat.pos_of_ne_zero h0)
      nlinarith
    have hhalf : √(q * q + r : ℝ) < q + 1 / 2 := by
      rw [Real.sqrt_lt' (by linarith)]
      have : (r : ℝ) ≤ q := Nat.cast_le.2 h
      nlinarith
    exact ⟨⟨by linarith, by linarith⟩, by simp only [Ordering.Compares]; linarith⟩
  · have hhalf : (q : ℝ) + 1 / 2 < √(q * q + r) := by
      rw [Real.lt_sqrt (by linarith)]
      have : (q : ℝ) + 1 ≤ r := by exact_mod_cast Nat.lt_of_not_le h
      nlinarith
    exact ⟨⟨by linarith, by linarith⟩, by simp only [Ordering.Compares]; linarith⟩

theorem sqrt_magnitude (m k : ℕ) (t : ℤ) :
    √(magnitude m (2 * t + k)) = √((m <<< k : ℕ) : ℝ) * 2 ^ t := by
  rw [← magnitude_shiftLeft m k, add_sub_cancel_right, magnitude, two_mul, zpow_add₀ two_ne_zero,
    Real.sqrt_mul (Nat.cast_nonneg _), Real.sqrt_mul_self (zpow_nonneg zero_le_two t)]

/-- A square root is rounded from the exact one, unless it is that of a negative number. -/
theorem sqrt_rounds (spec : Format) (hu : u.isFinite) (h0 : 0 ≤ value u) :
    Rounds spec (√(value u)) (UnpackedFloat.sqrt spec u) := by
  match u with
  | .zero s =>
    rw [value_zero, Real.sqrt_zero]
    exact rounds_zero s
  | .finite .negative m e h =>
    rw [value_finite, unit, neg_one_mul] at h0
    exact absurd (magnitude_pos h e) (by linarith)
  | .finite .positive m e h =>
    let t := min (e.ediv 2) (spec.targetExponent ((totalExponent m e + 1).ediv 2))
    have hle : 2 * t ≤ e := by
      have : t ≤ e / 2 := min_le_left _ _
      omega
    obtain ⟨k, hk⟩ := Int.le.dest hle
    have hn : 0 < m <<< k := Nat.shiftLeft_pos_iff.2 h
    have hcore : UnpackedFloat.sqrt spec (.finite .positive m e h) =
        let n := m <<< k
        roundWithAccuracy spec .positive n.sqrt t
          (if n - n.sqrt * n.sqrt = 0 then .exact
            else .inexact (if n - n.sqrt * n.sqrt ≤ n.sqrt then .lt else .gt)) := by
      rw [← show (e - 2 * t).toNat = k by omega]
      rfl
    have ht : t ≤ spec.targetExponent (totalExponent (m <<< k).sqrt t) := by
      have hte : totalExponent (m <<< k).sqrt t = (totalExponent m e + 1) / 2 := by
        rw [totalExponent, totalExponent, log2_sqrt hn, log2_shiftLeft h]
        omega
      rw [hte]
      exact min_le_right _ _
    have hr := roundWithAccuracy_rounds .positive (Nat.sqrt_pos.2 hn) ht (tells_sqrt (m <<< k))
    rw [add_sub_cancel, unit, one_mul, ← sqrt_magnitude, hk] at hr
    rw [value_finite, unit, one_mul, hcore]
    exact hr

/-! ## Numbers which are not negative -/

/-- A number, possibly infinite, which is not negative. -/
structure IsNonneg (u : UnpackedFloat) : Prop where
  ne_notANumber : u ≠ .notANumber
  rank_nonneg : 0 ≤ rank u

theorem Rounds.isNonneg {x : ℝ} (h : Rounds spec x u) (hx : 0 ≤ x) : IsNonneg u where
  ne_notANumber := by
    rintro rfl
    cases h.isFinite
  rank_nonneg := by
    rw [h.rank_eq]
    exact_mod_cast h.nonneg hx

theorem isNonneg_infinity : IsNonneg (.infinity .positive) := ⟨nofun, le_top⟩

theorem not_isNonneg_infinity : ¬IsNonneg (.infinity .negative) := fun h =>
  absurd h.rank_nonneg (EReal.bot_lt_coe 0).not_ge

theorem IsNonneg.value_nonneg (h : IsNonneg u) : 0 ≤ value u := by
  have := h.rank_nonneg
  cases u with
  | infinity s => exact le_rfl
  | notANumber => exact le_rfl
  | zero s => exact le_rfl
  | finite s m e h =>
    rw [rank_finite] at this
    exact_mod_cast this

theorem IsNonneg.repack (hu : Canonical spec u) (h : IsNonneg u) : IsNonneg (repack spec u) :=
  ⟨repack_ne_notANumber hu h.ne_notANumber, rank_repack_nonneg hu h.rank_nonneg⟩

/-- A finite number is taken from any number. -/
theorem sub_isNumber (hu : Canonical spec u) (hv : Canonical spec v) (hn : u ≠ .notANumber)
    (fv : v.isFinite) : Canonical spec (UnpackedFloat.sub spec u v) ∧
      UnpackedFloat.sub spec u v ≠ .notANumber := by
  match u, v with
  | .notANumber, _ => exact absurd rfl hn
  | .infinity _, .zero _ | .infinity _, .finite .. => exact ⟨trivial, nofun⟩
  | .zero _, .zero _ | .zero _, .finite .. | .finite .., .zero _ | .finite .., .finite .. =>
    have hr := sub_rounds hu hv rfl rfl
    refine ⟨hr.canonical, fun h => ?_⟩
    have := hr.isFinite
    rw [h] at this
    cases this

theorem sub_notANumber : UnpackedFloat.sub spec .notANumber v = .notANumber := by
  cases v <;> rfl

/-- Taken from itself, a finite number leaves zero, and any other leaves no number. -/
theorem sub_self_eq (spec : Format) (u : UnpackedFloat) :
    UnpackedFloat.sub spec u u = .zero .positive ∨ UnpackedFloat.sub spec u u = .notANumber := by
  cases u with
  | notANumber => exact .inr rfl
  | infinity s => cases s <;> exact .inr rfl
  | zero s => cases s <;> exact .inl rfl
  | finite s m e h => exact .inl (by simp [UnpackedFloat.sub, UnpackedFloat.normalize])

/-- A square is not negative. -/
theorem mul_self_isNonneg (hu : Canonical spec u) (hn : u ≠ .notANumber) :
    Canonical spec (UnpackedFloat.mul spec u u) ∧ IsNonneg (UnpackedFloat.mul spec u u) := by
  match u with
  | .notANumber => exact absurd rfl hn
  | .infinity .negative | .infinity .positive => exact ⟨trivial, isNonneg_infinity⟩
  | .zero _ | .finite .. =>
    have hr := mul_rounds hu hu rfl rfl
    exact ⟨hr.canonical, hr.isNonneg (mul_self_nonneg _)⟩

/-- A sum of numbers which are not negative is not negative, though it may be infinite. -/
theorem add_isNonneg (hu : Canonical spec u) (hv : Canonical spec v) (hnu : IsNonneg u)
    (hnv : IsNonneg v) : Canonical spec (UnpackedFloat.add spec u v) ∧
      IsNonneg (UnpackedFloat.add spec u v) := by
  match u, v with
  | .notANumber, _ => exact absurd rfl hnu.ne_notANumber
  | _, .notANumber => exact absurd rfl hnv.ne_notANumber
  | .infinity .negative, _ => exact absurd hnu not_isNonneg_infinity
  | _, .infinity .negative => exact absurd hnv not_isNonneg_infinity
  | .infinity .positive, .infinity .positive | .infinity .positive, .zero _
  | .infinity .positive, .finite .. | .zero _, .infinity .positive
  | .finite .., .infinity .positive => exact ⟨trivial, isNonneg_infinity⟩
  | .zero _, .zero _ | .zero _, .finite .. | .finite .., .zero _ | .finite .., .finite .. =>
    have hr := add_rounds hu hv rfl rfl
    exact ⟨hr.canonical, hr.isNonneg (add_nonneg hnu.value_nonneg hnv.value_nonneg)⟩

theorem infinity_add (fv : v.isFinite) : UnpackedFloat.add spec (.infinity s) v = .infinity s := by
  cases v with
  | infinity _ | notANumber => cases fv
  | zero _ | finite => rfl

theorem add_notANumber (h : u = .notANumber ∨ v = .notANumber) :
    UnpackedFloat.add spec u v = .notANumber := by
  rcases h with rfl | rfl
  · cases v <;> rfl
  · cases u <;> rfl

theorem sqrt_isNonneg (spec : Format) (hnu : IsNonneg u) :
    Canonical spec (UnpackedFloat.sqrt spec u) ∧
    IsNonneg (UnpackedFloat.sqrt spec u) := by
  match u with
  | .notANumber => exact absurd rfl hnu.ne_notANumber
  | .infinity .negative => exact absurd hnu not_isNonneg_infinity
  | .infinity .positive => exact ⟨trivial, isNonneg_infinity⟩
  | .zero _ | .finite .. =>
    have hr := sqrt_rounds spec rfl hnu.value_nonneg
    exact ⟨hr.canonical, hr.isNonneg (Real.sqrt_nonneg _)⟩

end Astrogation.Floating
