import Astrogation.Proofs.Floating.Rounding

/-!
# Packing

A number is packed into the bits of a format and unpacked again (`repack`). Nothing is
lost of a number of the format (`repack_finite`), unless it is too large, and
then it becomes an infinity (`repack_overflow`). Whatever bits are unpacked, the number is one
of the format (`canonical_unpack`).
-/

namespace Astrogation.Floating

open Float.Model (Format UnpackedFloat)
open Float.Model.UnpackedFloat

variable {spec : Format} {s : Sign} {m : ℕ} {e : ℤ}

/-! ## The constants of a format -/

theorem exponentBias_add_one (spec : Format) :
    spec.exponentBias + 1 = 2 ^ (spec.exponentBits - 1) := by
  have := Nat.two_pow_pos (spec.exponentBits - 1)
  rw [Format.exponentBias]
  omega

theorem minExponent_eq (spec : Format) :
    spec.minExponent = 1 - spec.exponentBias - spec.mantissaBitsWithoutImplicit := by
  have := exponentBias_add_one spec
  zify at this
  rw [Format.minExponent, Format.mantissaBits, ← this]
  push_cast
  ring

theorem two_pow_exponentBits (spec : Format) :
    2 ^ spec.exponentBits = 2 * (spec.exponentBias + 1) := by
  rw [exponentBias_add_one, ← pow_succ', Nat.sub_add_cancel spec.he]

theorem minExponent_nonpos (spec : Format) : spec.minExponent ≤ 0 := by
  have := spec.hm
  rw [minExponent_eq]
  omega

/-! ## The fields of packed numbers -/

@[simp]
theorem ofBitVec_toBitVec : ∀ s : Sign, Sign.ofBitVec s.toBitVec = s
  | .negative => rfl
  | .positive => rfl

@[simp]
theorem unpackSign_packComponents (E : BitVec spec.exponentBits)
    (M : BitVec spec.mantissaBitsWithoutImplicit) :
    unpackSign (packComponents spec s E M) = s.toBitVec := by
  ext i hi
  obtain rfl : i = 0 := by omega
  simp [unpackSign, packComponents, BitVec.getLsbD_append, BitVec.getElem_append]

theorem toNat_implicit_append {w : ℕ} (v : BitVec w) : (1#1 ++ v).toNat = 2 ^ w + v.toNat := by
  rw [BitVec.toNat_append, ← Nat.shiftLeft_add_eq_or_of_lt v.isLt, Nat.shiftLeft_eq]
  simp

theorem toNat_unpackMantissa (b : BitVec spec.numBits) :
    (unpackMantissa b).toNat = b.toNat % 2 ^ spec.mantissaBitsWithoutImplicit := by
  rw [unpackMantissa, BitVec.toNat_cast, BitVec.extractLsb_toNat, Nat.shiftRight_zero, Nat.sub_zero,
    Nat.sub_add_cancel spec.hm]

theorem toNat_unpackExponent (b : BitVec spec.numBits) :
    (unpackExponent b).toNat =
      b.toNat / 2 ^ spec.mantissaBitsWithoutImplicit % 2 ^ spec.exponentBits := by
  have := spec.he
  rw [unpackExponent, BitVec.toNat_cast, BitVec.extractLsb_toNat, Nat.shiftRight_eq_div_pow]
  congr 2
  omega

theorem toNat_unpackSign (b : BitVec spec.numBits) :
    (unpackSign b).toNat =
      b.toNat / 2 ^ (spec.mantissaBitsWithoutImplicit + spec.exponentBits) % 2 := by
  rw [unpackSign, BitVec.toNat_cast, BitVec.extractLsb_toNat, Nat.shiftRight_eq_div_pow,
    Nat.sub_self, zero_add, pow_one]

theorem toNat_packComponents (E : BitVec spec.exponentBits)
    (M : BitVec spec.mantissaBitsWithoutImplicit) :
    (packComponents spec s E M).toNat =
      (s.toBitVec.toNat * 2 ^ spec.exponentBits + E.toNat) * 2 ^ spec.mantissaBitsWithoutImplicit +
        M.toNat := by
  rw [packComponents, BitVec.toNat_append, BitVec.toNat_append,
    ← Nat.shiftLeft_add_eq_or_of_lt M.isLt, ← Nat.shiftLeft_add_eq_or_of_lt E.isLt,
    Nat.shiftLeft_eq, Nat.shiftLeft_eq]

theorem zero_ne_neg_one (spec : Format) : (0#(spec.exponentBits)) ≠ -1#_ := fun h => by
  have := congrArg BitVec.toNat h
  rw [BitVec.neg_one_eq_allOnes, BitVec.toNat_allOnes, BitVec.toNat_zero,
    two_pow_exponentBits] at this
  omega

/-! ## Unpacking -/

/-- What is unpacked is a number of the format. -/
theorem canonical_unpack (spec : Format) (b : BitVec spec.numBits) :
    Canonical spec (unpack spec b) := by
  have hM := (unpackMantissa b).isLt
  have hp := two_pow_mantissaBits spec
  have hmin := minExponent_eq spec
  rw [unpack]
  split_ifs with h1 h2 h3 h4
  · trivial
  · trivial
  · trivial
  · -- A subnormal number.
    have he : ((unpackExponent b).toNat : ℤ) -
        (spec.exponentBias + spec.mantissaBitsWithoutImplicit) + 1 =
        spec.minExponent := by
      rw [h3, BitVec.toNat_zero]
      omega
    exact ⟨by omega, he.ge, .inr he⟩
  · have hE : 0 < (unpackExponent b).toNat :=
      BitVec.toNat_pos_of_ne_zero h3
    refine ⟨?_, by omega, .inl ?_⟩
    · rw [toNat_implicit_append]
      omega
    · rw [toNat_implicit_append]
      omega

/-- What is unpacked is infinite or NaN only if all bits of its exponent are set. -/
theorem isFinite_unpack (b : BitVec spec.numBits) :
    (unpack spec b).isFinite ↔ unpackExponent b ≠ -1#_ := by
  rw [unpack]
  split_ifs with h1 h2 h3 h4 <;> simp [UnpackedFloat.isFinite, h1]

/-- The value of what is unpacked, from the fields. -/
theorem value_unpack {b : BitVec spec.numBits} (h : (unpack spec b).isFinite) :
    value (unpack spec b) = unit (.ofBitVec (unpackSign b)) *
      if unpackExponent b = 0#_ then magnitude (unpackMantissa b).toNat spec.minExponent
      else magnitude (2 ^ spec.mantissaBitsWithoutImplicit + (unpackMantissa b).toNat)
        ((unpackExponent b).toNat - (spec.exponentBias + spec.mantissaBitsWithoutImplicit)) := by
  have he : ((0 : ℕ) : ℤ) - (spec.exponentBias + spec.mantissaBitsWithoutImplicit) + 1 =
      spec.minExponent := by
    rw [minExponent_eq]
    omega
  have h1 := (isFinite_unpack b).1 h
  rw [unpack]
  by_cases h0 : unpackExponent b = 0#_
  · by_cases hM : unpackMantissa b = 0#_
    · simp [h0, hM, spec.he.ne', magnitude]
    · simp [h0, hM, spec.he.ne', ← he]
  · simp only [h0, h1, if_false, value_finite, toNat_implicit_append]

/-- A number whose exponent is neither the least nor the greatest has an implicit bit. -/
theorem unpack_normal {E : BitVec spec.exponentBits} (M : BitVec spec.mantissaBitsWithoutImplicit)
    (h0 : E ≠ 0#_) (h1 : E ≠ -1#_) (h : 0 < 2 ^ spec.mantissaBitsWithoutImplicit + M.toNat) :
    unpack spec (packComponents spec s E M) =
      .finite s (2 ^ spec.mantissaBitsWithoutImplicit + M.toNat)
        (E.toNat - (spec.exponentBias + spec.mantissaBitsWithoutImplicit)) h := by
  simp only [unpack, unpackMantissa_packComponents, unpackExponent_packComponents,
    unpackSign_packComponents, ofBitVec_toBitVec, h0, h1, if_false, toNat_implicit_append]

/-- A number with the least exponent has no implicit bit. -/
theorem unpack_subnormal {M : BitVec spec.mantissaBitsWithoutImplicit} (h0 : M ≠ 0#_)
    (h : 0 < M.toNat) :
    unpack spec (packComponents spec s 0#_ M) = .finite s M.toNat spec.minExponent h := by
  have he : ((0 : ℕ) : ℤ) - (spec.exponentBias + spec.mantissaBitsWithoutImplicit) + 1 =
      spec.minExponent := by
    rw [minExponent_eq]
    omega
  simp only [unpack, unpackMantissa_packComponents, unpackExponent_packComponents,
    unpackSign_packComponents, ofBitVec_toBitVec, h0, zero_ne_neg_one, if_false, if_true,
    dif_neg, not_false_iff, BitVec.toNat_zero, he]

/-- A number after it was stored. -/
def repack (spec : Format) (u : UnpackedFloat) : UnpackedFloat := unpack spec (pack spec u)

theorem canonical_repack (spec : Format) (u : UnpackedFloat) : Canonical spec (repack spec u) :=
  canonical_unpack spec _

@[simp]
theorem repack_notANumber : repack spec .notANumber = .notANumber := by
  have h : 1#(spec.mantissaBitsWithoutImplicit) <<<
      (spec.mantissaBitsWithoutImplicit - 1) ≠ 0#_ := by
    intro h
    have := congrArg BitVec.toNat h
    rw [← BitVec.twoPow_eq, BitVec.toNat_twoPow_of_lt (Nat.sub_one_lt_of_lt spec.hm)] at this
    exact (Nat.two_pow_pos _).ne' this
  simp [repack, pack, unpack, packedNaN, h]

@[simp]
theorem repack_infinity : repack spec (.infinity s) = .infinity s := by
  simp [repack, pack, unpack, packedInfinity]

@[simp]
theorem repack_zero : repack spec (.zero s) = .zero s := by
  simp [repack, pack, unpack, packedZero, spec.he.ne']

/-- Nothing is lost of a number of the format which is not too large. -/
theorem repack_finite (hf : Fits spec m e) (h : 0 < m)
    (he : e + spec.mantissaBitsWithoutImplicit ≤ spec.exponentBias) :
    repack spec (.finite s m e h) = .finite s m e h := by
  have hcap := two_pow_exponentBits spec
  have hmin := minExponent_eq spec
  have hp := two_pow_mantissaBits spec
  have hle := hf.le_exponent
  have hlt := hf.mantissa_lt
  obtain ⟨b, hb⟩ : ∃ b : ℕ, e + spec.exponentBias + spec.mantissaBitsWithoutImplicit = b :=
    Int.eq_ofNat_of_zero_le (by omega)
  have hsmall : ¬2 ^ spec.exponentBits ≤ b + 1 := by omega
  rw [repack, pack, hb, Int.toNat_natCast, if_neg hsmall]
  have hE : (BitVec.ofNat spec.exponentBits b).toNat = b := by
    rw [BitVec.toNat_ofNat, Nat.mod_eq_of_lt (by omega)]
  split_ifs with hlog
  · -- A normal number, which is stored without its leading bit.
    have hfull : 2 ^ spec.mantissaBitsWithoutImplicit ≤ m := by
      rw [← Nat.le_log2 h.ne']
      rw [Format.mantissaBits] at hlog
      omega
    have hM : 2 ^ spec.mantissaBitsWithoutImplicit +
        (BitVec.ofNat spec.mantissaBitsWithoutImplicit m).toNat = m := by
      rw [BitVec.toNat_ofNat, Nat.mod_eq_sub_mod hfull, Nat.mod_eq_of_lt (by omega)]
      omega
    rw [unpack_normal _ (fun h0 => ?_) (fun h1 => ?_) (hM.symm ▸ h)]
    · simp only [hE, hM, finite.injEq, true_and]
      omega
    · rw [h0, BitVec.toNat_zero] at hE
      omega
    · rw [h1, BitVec.neg_one_eq_allOnes, BitVec.toNat_allOnes] at hE
      omega
  · have hsub : m < 2 ^ spec.mantissaBitsWithoutImplicit := by
      have := (Nat.log2_lt h.ne').2 hlt
      rw [← Nat.log2_lt h.ne']
      rw [Format.mantissaBits] at this hlog
      omega
    have hM : (BitVec.ofNat spec.mantissaBitsWithoutImplicit m).toNat = m := by
      rw [BitVec.toNat_ofNat, Nat.mod_eq_of_lt hsub]
    rw [unpack_subnormal (fun h0 => ?_) (hM.symm ▸ h)]
    · simp only [hM, finite.injEq, true_and]
      exact (hf.full.resolve_left hsub.not_ge).symm
    · rw [h0, BitVec.toNat_zero] at hM
      omega

/-- A number of the format which is too large becomes an infinity. -/
theorem repack_overflow (h : 0 < m)
    (he : spec.exponentBias < e + spec.mantissaBitsWithoutImplicit) :
    repack spec (.finite s m e h) = .infinity s := by
  have hcap := two_pow_exponentBits spec
  have hlarge : 2 ^ spec.exponentBits ≤
      (e + spec.exponentBias + spec.mantissaBitsWithoutImplicit).toNat + 1 := by
    omega
  rw [repack, pack, if_pos hlarge]
  exact repack_infinity

/-- What is stored of a number of the format is the number itself, or an infinity of
    the same sign if it is too large. -/
theorem repack_cases {u : UnpackedFloat} (hu : Canonical spec u) :
    repack spec u = u ∨ ∃ s m e h, u = .finite s m e h ∧ repack spec u = .infinity s ∧
      spec.exponentBias < e + spec.mantissaBitsWithoutImplicit := by
  cases u with
  | infinity s => exact .inl repack_infinity
  | notANumber => exact .inl repack_notANumber
  | zero s => exact .inl repack_zero
  | finite s m e h =>
    rcases le_or_gt (e + spec.mantissaBitsWithoutImplicit) spec.exponentBias with he | he
    · exact .inl (repack_finite hu h he)
    · exact .inr ⟨s, m, e, h, rfl, repack_overflow h he, he⟩

/-- A number which is too large is beyond all that are not. -/
theorem le_magnitude_of_overflow (hb : 0 < spec.exponentBias) (hf : Fits spec m e)
    (he : spec.exponentBias < e + spec.mantissaBitsWithoutImplicit) :
    2 ^ (spec.exponentBias + 1) ≤ magnitude m e := by
  have hfull : 2 ^ spec.mantissaBitsWithoutImplicit ≤ m := by
    refine hf.full.resolve_right fun hmin => ?_
    rw [minExponent_eq] at hmin
    omega
  calc (2 : ℝ) ^ (spec.exponentBias + 1)
      = 2 ^ ((spec.exponentBias + 1 : ℕ) : ℤ) := (zpow_natCast _ _).symm
    _ ≤ 2 ^ ((spec.mantissaBitsWithoutImplicit : ℕ) + e : ℤ) :=
        zpow_le_zpow_right₀ one_le_two (by omega)
    _ = 2 ^ spec.mantissaBitsWithoutImplicit * 2 ^ e := by
        rw [zpow_add₀ two_ne_zero, zpow_natCast]
    _ ≤ m * 2 ^ e := by
        gcongr
        exact_mod_cast hfull

/-- Storing a number again changes nothing. -/
theorem repack_repack {u : UnpackedFloat} (hu : Canonical spec u) :
    repack spec (repack spec u) = repack spec u := by
  rcases repack_cases hu with h | ⟨s, m, e, h0, rfl, h, -⟩
  · rw [h, h]
  · rw [h, repack_infinity]

theorem repack_ne_notANumber {u : UnpackedFloat} (hu : Canonical spec u) (h : u ≠ .notANumber) :
    repack spec u ≠ .notANumber := by
  rcases repack_cases hu with hr | ⟨s, m, e, h0, rfl, hr, -⟩ <;> rw [hr]
  · exact h
  · exact nofun

theorem eq_positive_of_rank_nonneg {h : 0 < m} (hr : 0 ≤ rank (.finite s m e h)) :
    s = .positive := by
  cases s with
  | positive => rfl
  | negative => exact absurd hr (rank_negative_neg h).not_ge

/-- Storing a number does not make it negative. -/
theorem rank_repack_nonneg {u : UnpackedFloat} (hu : Canonical spec u) (h : 0 ≤ rank u) :
    0 ≤ rank (repack spec u) := by
  rcases repack_cases hu with hr | ⟨s, m, e, h0, rfl, hr, -⟩ <;> rw [hr]
  · exact h
  · rw [eq_positive_of_rank_nonneg h]
    exact le_top

/-! ## What is stored of a rounded number -/

namespace Rounds

variable {x : ℝ} {u : UnpackedFloat}

theorem rank_eq (h : Rounds spec x u) : rank u = (value u : ℝ) := by
  have := h.isFinite
  cases u with
  | infinity s => cases this
  | notANumber => cases this
  | zero s => rfl
  | finite s m e h => rfl

/-- A rounded number which is not too large is stored as it is. -/
theorem repack_eq (hb : 0 < spec.exponentBias) (h : Rounds spec x u)
    (hx : |x| + error spec |x| < 2 ^ (spec.exponentBias + 1)) : repack spec u = u := by
  rcases repack_cases h.canonical with hr | ⟨s, m, e, h0, rfl, -, he⟩
  · exact hr
  · have hvalue : |value (.finite s m e h0)| = magnitude m e := by
      rw [value, abs_mul, abs_unit, one_mul, abs_of_pos (magnitude_pos h0 e)]
    have hle : magnitude m e ≤ |x| + error spec |x| := by
      have := abs_sub_abs_le_abs_sub (value (.finite s m e h0)) x
      have := h.near
      linarith
    exact absurd (hle.trans_lt hx) (le_magnitude_of_overflow hb h.canonical he).not_gt

/-- What is stored of a rounded number is not much smaller, even if it is too large. -/
theorem le_rank_repack {a : ℝ} (h : Rounds spec x u) (hx : 0 ≤ x) (ha : a ≤ x) :
    ((a - error spec a : ℝ) : EReal) ≤ rank (repack spec u) := by
  rcases repack_cases h.canonical with hr | ⟨s, m, e, h0, rfl, hr, -⟩
  · have hnear := abs_le.1 (abs_of_nonneg hx ▸ h.near)
    have := sub_error_mono spec ha
    rw [hr, h.rank_eq, EReal.coe_le_coe_iff]
    linarith
  · have hnonneg : 0 ≤ rank (.finite s m e h0) := by
      rw [h.rank_eq]
      exact_mod_cast h.nonneg hx
    rw [hr, eq_positive_of_rank_nonneg hnonneg]
    exact le_top

end Rounds

end Astrogation.Floating
