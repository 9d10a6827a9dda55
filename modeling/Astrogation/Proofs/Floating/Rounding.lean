import Astrogation.Proofs.Floating.Unpacked

/-!
# Rounding

What rounding makes of a number which a mantissa, an exponent and an accuracy
describe (`roundWithAccuracy_rounds`): a number of the format, of the same sign,
which is off by no more than the error of the format (`error`).

The bits which do not fit are shifted out; of these the round bit and the sticky bit tell
all that is needed (`Describes`). Rounding up may carry into one more bit, and
then the mantissa is shifted once more, which loses nothing (`assemble_stores`).
-/

namespace Astrogation.Floating

open Float.Model
open Float.Model.UnpackedFloat

/-! ## Shifting bits out -/

/-- A mantissa with its round and sticky bits describes a number. -/
def Describes (em : ExtendedMantissa) (y : ℝ) : Prop := Tells em.accuracy (y - em.mantissa)

theorem accuracy_ofMantissaAndAccuracy (m : ℕ) (a : Accuracy) :
    (ExtendedMantissa.ofMantissaAndAccuracy m a).accuracy = a := by
  cases a with
  | exact => rfl
  | inexact o => cases o <;> rfl

theorem mantissa_ofMantissaAndAccuracy (m : ℕ) (a : Accuracy) :
    (ExtendedMantissa.ofMantissaAndAccuracy m a).mantissa = m := by
  cases a with
  | exact => rfl
  | inexact o => cases o <;> rfl

/-- A mantissa and the accuracy with which it was computed describe their sum. -/
theorem describes_ofMantissaAndAccuracy (m : ℕ) {a : Accuracy} {f : ℝ} (h : Tells a f) :
    Describes (.ofMantissaAndAccuracy m a) (m + f) := by
  rw [Describes, accuracy_ofMantissaAndAccuracy, mantissa_ofMantissaAndAccuracy,
    add_sub_cancel_left]
  exact h

namespace Describes

variable {em : ExtendedMantissa} {y : ℝ}

theorem shiftRightOne (h : Describes em y) : Describes em.shiftRightOne (y / 2) := by
  obtain ⟨m, r, s⟩ := em
  have hm : (m : ℝ) = 2 * (m / 2 : ℕ) + (m % 2 : ℕ) := by exact_mod_cast (Nat.div_add_mod m 2).symm
  rcases Nat.mod_two_eq_zero_or_one m with hb | hb <;> cases r <;> cases s <;>
    simp [Describes, Tells, ExtendedMantissa.accuracy, ExtendedMantissa.shiftRightOne, hb,
      Ordering.Compares] at h hm ⊢ <;>
    grind

/-- A mantissa whose bits are shifted out describes the quotient, as the sticky bit keeps in mind
    what was lost. -/
theorem shiftRight (h : Describes em y) (k : ℕ) : Describes (em >>> k) (y / 2 ^ k) := by
  induction k with
  | zero =>
    rw [pow_zero, div_one]
    exact h
  | succ k ih =>
    rw [pow_succ, ← div_div]
    exact ih.shiftRightOne

/-- Rounding is off by at most a half. -/
theorem abs_rounded_sub (h : Describes em y) : |(em.roundedMantissa : ℝ) - y| ≤ 1 / 2 := by
  rw [Describes] at h
  rw [ExtendedMantissa.roundedMantissa, abs_le]
  generalize em.accuracy = a, em.mantissa = m at h
  rcases a with _ | _ | _ | _ <;>
    simp only [Tells, Ordering.Compares, Accuracy.roundToNearestEven] at h ⊢
  · grind
  · grind
  · rcases Nat.mod_two_eq_zero_or_one m with hb | hb <;> rw [hb] <;> push_cast <;>
      constructor <;> linarith [h.2]
  · push_cast
    grind

theorem mantissa_le (h : Describes em y) : (em.mantissa : ℝ) ≤ y :=
  sub_nonneg.1 (Tells.nonneg h)

/-- What is described is less than one unit beyond the mantissa. -/
theorem lt_mantissa_add_one (h : Describes em y) : y < em.mantissa + 1 :=
  sub_lt_iff_lt_add'.1 (Tells.lt_one h)

end Describes

theorem mantissa_le_roundedMantissa (em : ExtendedMantissa) :
    em.mantissa ≤ em.roundedMantissa ∧ em.roundedMantissa ≤ em.mantissa + 1 := by
  rw [ExtendedMantissa.roundedMantissa]
  generalize em.accuracy = a
  rcases a with _ | _ | _ | _ <;> simp only [Accuracy.roundToNearestEven] <;> omega

/-! ## The second shift -/

variable {spec : Format} {s : Sign} {m r : ℕ} {e t : ℤ}

/-- A number of a format with a sign and a magnitude. -/
inductive Stores (spec : Format) (s : Sign) : ℝ → UnpackedFloat → Prop
  | zero : Stores spec s 0 (.zero s)
  | finite {m : ℕ} {e : ℤ} (fits : Fits spec m e) (h : 0 < m) :
    Stores spec s (magnitude m e) (.finite s m e h)

/-- The number with a sign, a mantissa and an exponent. -/
def assemble (s : Sign) (parts : ExtendedMantissa × ℤ) : UnpackedFloat :=
  if h : parts.1.mantissa = 0 then .zero s
  else .finite s parts.1.mantissa parts.2 (Nat.pos_of_ne_zero h)

theorem assemble_pos (s : Sign) (rb sb : Bool) (t : ℤ) (h : 0 < r) :
    assemble s (⟨r, rb, sb⟩, t) = .finite s r t h := dif_neg h.ne'

theorem two_pow_mantissaBits (spec : Format) :
    2 ^ spec.mantissaBits = 2 * 2 ^ spec.mantissaBitsWithoutImplicit := by
  rw [Format.mantissaBits, pow_add, pow_one]

theorem shiftToTargetExponent_of_lt (hr : r < 2 ^ spec.mantissaBits) (ht : spec.minExponent ≤ t) :
    shiftToTargetExponent spec r t .exact = (⟨r, false, false⟩, t) := by
  have hlog : r.log2 + 1 ≤ spec.mantissaBits := by
    rcases r.eq_zero_or_pos with rfl | h0
    · rw [Nat.log2_zero, Format.mantissaBits]
      omega
    · exact (Nat.log2_lt h0.ne').2 hr
  have hshift : (spec.targetExponent (totalExponent r t) - t).toNat = 0 := by
    rw [Format.targetExponent, totalExponent]
    omega
  rw [shiftToTargetExponent, shiftToExponent, hshift, Nat.cast_zero, add_zero]
  rfl

/-- A mantissa with a carry is shifted once more, and what is shifted out is zero. -/
theorem shiftToTargetExponent_carry (ht : spec.minExponent ≤ t) :
    shiftToTargetExponent spec (2 ^ spec.mantissaBits) t .exact =
      (⟨2 ^ spec.mantissaBitsWithoutImplicit, false, false⟩, t + 1) := by
  have hshift : (spec.targetExponent (totalExponent (2 ^ spec.mantissaBits) t) - t).toNat = 1 := by
    rw [Format.targetExponent, totalExponent, Nat.log2_two_pow]
    omega
  have hone : ExtendedMantissa.ofMantissaAndAccuracy (2 ^ spec.mantissaBits) .exact >>> 1 =
      ExtendedMantissa.shiftRightOne ⟨2 ^ spec.mantissaBits, false, false⟩ := rfl
  rw [shiftToTargetExponent, shiftToExponent, hshift, hone, two_pow_mantissaBits]
  simp [ExtendedMantissa.shiftRightOne]

/-- A rounded mantissa of as many bits as the format has, or of one bit more after
    a carry, is stored without loss. -/
theorem assemble_stores (s : Sign) (hr : r ≤ 2 ^ spec.mantissaBits) (ht : spec.minExponent ≤ t)
    (hfull : 2 ^ spec.mantissaBitsWithoutImplicit ≤ r ∨ t = spec.minExponent) :
    Stores spec s (magnitude r t) (assemble s (shiftToTargetExponent spec r t .exact)) := by
  rcases hr.lt_or_eq with hlt | rfl
  · rw [shiftToTargetExponent_of_lt hlt ht]
    rcases r.eq_zero_or_pos with rfl | h0
    · rw [magnitude, Nat.cast_zero, zero_mul]
      exact .zero
    · rw [assemble_pos s _ _ _ h0]
      exact .finite ⟨hlt, ht, hfull⟩ h0
  · have hvalue : magnitude (2 ^ spec.mantissaBits) t =
        magnitude (2 ^ spec.mantissaBitsWithoutImplicit) (t + 1) := by
      rw [magnitude, magnitude, two_pow_mantissaBits, zpow_add_one₀ two_ne_zero]
      push_cast
      ring
    have hpos := Nat.two_pow_pos spec.mantissaBitsWithoutImplicit
    have hfits : Fits spec (2 ^ spec.mantissaBitsWithoutImplicit) (t + 1) := by
      refine ⟨?_, by omega, .inl le_rfl⟩
      rw [two_pow_mantissaBits]
      omega
    rw [shiftToTargetExponent_carry ht, hvalue, assemble_pos s _ _ _ hpos]
    exact .finite hfits hpos

/-! ## The error of rounding -/

/-- A number of a format which a real number may be rounded to. -/
structure Rounds (spec : Format) (x : ℝ) (u : UnpackedFloat) : Prop where
  canonical : Canonical spec u
  isFinite : u.isFinite
  near : |value u - x| ≤ error spec |x|
  nonneg : 0 ≤ x → 0 ≤ value u

theorem rounds_zero (s : Sign) : Rounds spec 0 (.zero s) :=
  ⟨trivial, rfl, by simpa [value] using error_nonneg spec le_rfl, fun _ => le_rfl⟩

/-- A stored number near another is rounded from it, whatever the sign. -/
theorem Stores.rounds {x y : ℝ} {u : UnpackedFloat} (h : Stores spec s y u) (hx : 0 < x)
    (hxy : |y - x| ≤ error spec x) : Rounds spec (unit s * x) u := by
  have hvalue : value u = unit s * y := by
    cases h with
    | zero => exact (mul_zero (unit s)).symm
    | finite => rfl
  have hy : 0 ≤ y := by
    cases h with
    | zero => exact le_rfl
    | finite => exact magnitude_nonneg _ _
  refine ⟨?_, ?_, ?_, fun hs => ?_⟩
  · cases h with
    | zero => trivial
    | finite fits => exact fits
  · cases h <;> rfl
  · rw [hvalue, ← mul_sub, abs_mul, abs_mul, abs_unit, one_mul, one_mul, abs_of_pos hx]
    exact hxy
  · rw [hvalue]
    exact mul_nonneg (nonneg_of_mul_nonneg_left hs hx) hy

/-- Half a unit in the last place, at the exponent that the format wants for a number. -/
theorem half_unit_le_error {f : ℝ} (hm : 0 < m) (hf : 0 ≤ f) :
    1 / 2 * 2 ^ spec.targetExponent (totalExponent m e) ≤ error spec ((m + f) * 2 ^ e) := by
  have hhalf : (1 / 2 : ℝ) * 2 ^ spec.targetExponent (totalExponent m e) =
      2 ^ (spec.targetExponent (totalExponent m e) - 1) := by
    rw [zpow_sub_one₀ two_ne_zero]
    ring
  have hx : 0 ≤ (m + f) * (2 : ℝ) ^ e := by positivity
  rw [hhalf, error]
  rcases le_total spec.minExponent (totalExponent m e - spec.mantissaBits) with h | h
  · refine le_add_of_le_of_nonneg ?_ (underflow_pos spec).le
    rw [Format.targetExponent, max_eq_left h, totalExponent, roundoff, ← div_eq_inv_mul,
      le_div_iff₀ (by positivity), ← zpow_natCast, ← zpow_add₀ two_ne_zero]
    calc (2 : ℝ) ^ ((m.log2 : ℤ) + 1 + e - spec.mantissaBits - 1 + spec.mantissaBits)
        = 2 ^ m.log2 * 2 ^ e := by
          rw [← zpow_natCast, ← zpow_add₀ two_ne_zero]
          congr 1
          ring
      _ ≤ (m + f) * 2 ^ e := by
          gcongr
          have : (2 : ℝ) ^ m.log2 ≤ m := by exact_mod_cast Nat.log2_self_le hm.ne'
          linarith
  · rw [Format.targetExponent, max_eq_right h]
    exact le_add_of_nonneg_left (mul_nonneg (roundoff_pos spec).le hx)

/-- A mantissa whose bits beyond the precision of the format are shifted out. -/
theorem div_two_pow_lt {f : ℝ} {k : ℕ} (hf : f < 1) (hk : m.log2 + 1 ≤ spec.mantissaBits + k) :
    (m + f) / 2 ^ k < 2 ^ spec.mantissaBits := by
  have hlog : (m : ℝ) + 1 ≤ 2 ^ (m.log2 + 1) := by exact_mod_cast Nat.lt_log2_self
  rw [div_lt_iff₀ (by positivity), ← pow_add]
  calc (m + f : ℝ) < m + 1 := by linarith
    _ ≤ 2 ^ (m.log2 + 1) := hlog
    _ ≤ 2 ^ (spec.mantissaBits + k) := pow_le_pow_right₀ one_le_two hk

/-- A mantissa which has as many bits left as the format has. -/
theorem two_pow_le_div (spec : Format) {f : ℝ} {k : ℕ} (hm : 0 < m) (hf : 0 ≤ f)
    (hk : m.log2 + 1 = spec.mantissaBits + k) :
    2 ^ spec.mantissaBitsWithoutImplicit ≤ (m + f) / 2 ^ k := by
  have hlog : (2 : ℝ) ^ m.log2 ≤ m := by exact_mod_cast Nat.log2_self_le hm.ne'
  rw [Format.mantissaBits] at hk
  rw [le_div_iff₀ (by positivity), ← pow_add, show _ + k = m.log2 by omega]
  linarith

/-- Rounding finds a number of the format, unless the exponent is larger than the
    format wants. -/
theorem roundWithAccuracy_rounds {a : Accuracy} {f : ℝ} (s : Sign) (hm : 0 < m)
    (he : e ≤ spec.targetExponent (totalExponent m e)) (ha : Tells a f) :
    Rounds spec (unit s * ((m + f) * 2 ^ e)) (roundWithAccuracy spec s m e a) := by
  obtain ⟨k, hk⟩ := Int.le.dest he
  have ht : spec.minExponent ≤ e + k := hk ▸ le_max_right _ _
  have hte : m.log2 + 1 ≤ spec.mantissaBits + k := by
    rw [Format.targetExponent, totalExponent] at hk
    omega
  -- What is left of the mantissa after the first shift, with the bits shifted out.
  let em := ExtendedMantissa.ofMantissaAndAccuracy m a >>> k
  let y : ℝ := (m + f) / 2 ^ k
  have hd : Describes em y := (describes_ofMantissaAndAccuracy m ha).shiftRight k
  have hround : roundWithAccuracy spec s m e a =
      assemble s (shiftToTargetExponent spec em.roundedMantissa (e + k) .exact) := by
    have hfirst : shiftToTargetExponent spec m e a = (em, e + k) := by
      rw [shiftToTargetExponent, ← hk, shiftToExponent, add_sub_cancel_left, Int.toNat_natCast]
    rw [roundWithAccuracy, hfirst]
    rfl
  have hr : em.roundedMantissa ≤ 2 ^ spec.mantissaBits := by
    have : em.mantissa < 2 ^ spec.mantissaBits := by
      exact_mod_cast hd.mantissa_le.trans_lt (div_two_pow_lt ha.lt_one hte)
    exact (mantissa_le_roundedMantissa em).2.trans this
  have hfull : 2 ^ spec.mantissaBitsWithoutImplicit ≤ em.roundedMantissa ∨
      e + k = spec.minExponent := by
    rw [Format.targetExponent, totalExponent] at hk
    refine or_iff_not_imp_right.2 fun hne => ?_
    have hy := two_pow_le_div spec (k := k) hm ha.nonneg (by omega)
    have : 2 ^ spec.mantissaBitsWithoutImplicit < em.mantissa + 1 := by
      exact_mod_cast hy.trans_lt hd.lt_mantissa_add_one
    exact (Nat.le_of_lt_succ this).trans (mantissa_le_roundedMantissa em).1
  have hm' : (0 : ℝ) < m := Nat.cast_pos.2 hm
  have hpos : 0 < (m + f) * 2 ^ e :=
    mul_pos (add_pos_of_pos_of_nonneg hm' ha.nonneg) (zpow_pos two_pos e)
  refine hround ▸ (assemble_stores s hr ht hfull).rounds hpos ?_
  have hx : (m + f) * 2 ^ e = y * 2 ^ (e + k) := by
    rw [zpow_add₀ two_ne_zero, zpow_natCast, mul_left_comm, div_mul_cancel₀ _ (by positivity),
      mul_comm]
  have hp : (0 : ℝ) < 2 ^ (e + k) := zpow_pos two_pos _
  calc |magnitude em.roundedMantissa (e + k) - (m + f) * 2 ^ e|
      = |(em.roundedMantissa : ℝ) - y| * 2 ^ (e + k) := by
        rw [hx, magnitude, ← sub_mul, abs_mul, abs_of_pos hp]
    _ ≤ 1 / 2 * 2 ^ (e + k) := by
        gcongr
        exact hd.abs_rounded_sub
    _ ≤ error spec ((m + f) * 2 ^ e) := hk ▸ half_unit_le_error hm ha.nonneg

theorem roundWithAccuracy_exact_rounds (s : Sign) (hm : 0 < m)
    (he : e ≤ spec.targetExponent (totalExponent m e)) :
    Rounds spec (unit s * magnitude m e) (roundWithAccuracy spec s m e .exact) := by
  have := roundWithAccuracy_rounds (a := .exact) s hm he rfl
  rwa [add_zero] at this

theorem log2_shiftLeft (hm : 0 < m) (k : ℕ) : (m <<< k).log2 = m.log2 + k := by
  rw [Nat.log2_eq_iff (Nat.shiftLeft_pos_iff.2 hm).ne', Nat.shiftLeft_eq, pow_add, add_right_comm,
    pow_add]
  exact ⟨Nat.mul_le_mul_right _ (Nat.log2_self_le hm.ne'),
    Nat.mul_lt_mul_of_pos_right Nat.lt_log2_self (Nat.two_pow_pos k)⟩

theorem totalExponent_shiftLeft (hm : 0 < m) (k : ℕ) :
    totalExponent (m <<< k) (e - k) = totalExponent m e := by
  rw [totalExponent, totalExponent, log2_shiftLeft hm]
  push_cast
  ring

/-- A mantissa with an exponent is rounded, with as many bits added as the format wants. -/
theorem round_rounds (s : Sign) (hm : 0 < m) :
    Rounds spec (unit s * magnitude m e) (UnpackedFloat.round spec s m e) := by
  let k := (e - spec.targetExponent (totalExponent m e)).toNat
  rw [← magnitude_shiftLeft m k e]
  refine roundWithAccuracy_exact_rounds s (Nat.shiftLeft_pos_iff.2 hm) ?_
  rw [totalExponent_shiftLeft hm]
  omega

/-- A whole mantissa with an exponent is rounded, whatever its sign. -/
theorem normalize_rounds (n e : ℤ) (s : Sign) :
    Rounds spec (n * 2 ^ e) (UnpackedFloat.normalize spec n e s) := by
  rcases lt_trichotomy n 0 with h | rfl | h
  · have hn : (n : ℝ) * 2 ^ e = unit .negative * magnitude (-n).toNat e := by
      have : (((-n).toNat : ℤ) : ℝ) = -n := by
        rw [Int.toNat_of_nonneg (by omega), Int.cast_neg]
      rw [magnitude, ← Int.cast_natCast, this, unit]
      ring
    rw [UnpackedFloat.normalize, compare_lt_iff_lt.2 h, hn]
    exact round_rounds .negative (by omega)
  · rw [Int.cast_zero, zero_mul]
    exact rounds_zero s
  · have hn : (n : ℝ) * 2 ^ e = unit .positive * magnitude n.toNat e := by
      rw [magnitude, ← Int.cast_natCast, Int.toNat_of_nonneg h.le, unit, one_mul]
    rw [UnpackedFloat.normalize, compare_gt_iff_gt.2 h, hn]
    exact round_rounds .positive (by omega)

end Astrogation.Floating
