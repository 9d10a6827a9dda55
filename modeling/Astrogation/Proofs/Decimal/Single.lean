import Astrogation.Decimal.BinaryParts
import Astrogation.Proofs.Floating.Machine

/-!
# Rounding to single precision is rounding

The parts of a number of double precision are those of its value (`ofFloat?_of_isFinite`),
and `toSingle` stores what rounding to single precision makes of them
(`toSingle_rounds`), an infinity if they are too large.
-/

namespace Astrogation.Decimal

open Floating
open Float.Model (Format UnpackedFloat totalExponent)
open Float.Model.UnpackedFloat

/-! ## The parts of a number -/

/-- The sign of a number. -/
def BinaryParts.sign (b : BinaryParts) : Sign := if b.negative then .negative else .positive

theorem ofFloat?_of_isFinite {x : Float} (h : x.isFinite) :
    ∃ b, BinaryParts.ofFloat? x = some b ∧
      value (ofDouble x) = unit b.sign * magnitude b.mantissa b.exponent := by
  let b : BitVec Format.binary64.numBits := x.toModel.toBits.toBitVec
  have hE : (unpackExponent b).toNat = x.toBits.toNat / Nat.pow 2 52 % Nat.pow 2 11 :=
    toNat_unpackExponent b
  have hM : (unpackMantissa b).toNat = x.toBits.toNat % Nat.pow 2 52 := toNat_unpackMantissa b
  have hS : (unpackSign b).toNat = x.toBits.toNat / 2 ^ 63 % 2 := toNat_unpackSign b
  have hsign : Sign.ofBitVec (unpackSign b) =
      if decide (Nat.pow 2 63 ≤ x.toBits.toNat) then .negative else .positive := by
    have hbits : x.toBits.toNat < 2 ^ 64 := x.toBits.toNat_lt
    have hzero : unpackSign b = 0#1 ↔ x.toBits.toNat < 2 ^ 63 := by
      rw [← BitVec.toNat_inj, hS, BitVec.toNat_zero]
      omega
    simp only [Sign.ofBitVec, hzero, decide_eq_true_eq, Nat.pow_eq]
    split_ifs <;> first | rfl | omega
  have hfin : (unpack .binary64 b).isFinite := h
  have hvalue : value (unpack .binary64 b) = _ := value_unpack hfin
  have hne : (unpackExponent b).toNat ≠ specialExponent := fun h =>
    (isFinite_unpack b).1 hfin (BitVec.eq_of_toNat_eq h)
  rw [BinaryParts.ofFloat?, ← hE, ← hM, if_neg (by simpa using hne)]
  by_cases h0 : (unpackExponent b).toNat = 0
  · rw [if_pos (by simpa using h0)]
    rw [if_pos (BitVec.eq_of_toNat_eq h0), hsign] at hvalue
    exact ⟨_, rfl, hvalue⟩
  · rw [if_neg (by simpa using h0)]
    rw [if_neg fun h => h0 (congrArg BitVec.toNat h), hsign, add_comm (2 ^ _)] at hvalue
    exact ⟨_, rfl, hvalue⟩

theorem ofFloat?_of_not_isFinite {x : Float} (h : ¬x.isFinite) : BinaryParts.ofFloat? x = none := by
  let b : BitVec Format.binary64.numBits := x.toModel.toBits.toBitVec
  have hE : (unpackExponent b).toNat = x.toBits.toNat / Nat.pow 2 52 % Nat.pow 2 11 :=
    toNat_unpackExponent b
  have hone : unpackExponent b = -1#_ := by
    by_contra hne
    exact h ((isFinite_unpack b).2 hne)
  rw [BinaryParts.ofFloat?, ← hE, hone]
  rfl

/-! ## Rounding to the nearest number -/

theorem abs_roundToEven_sub (num : ℕ) {den : ℕ} (h : 0 < den) :
    |(roundToEven num den : ℝ) - num / den| ≤ 1 / 2 := by
  have hd : (0 : ℝ) < den := Nat.cast_pos.2 h
  have hnum : (num : ℝ) = den * (num / den : ℕ) + (num % den : ℕ) := by
    exact_mod_cast (Nat.div_add_mod num den).symm
  have hlt : ((num % den : ℕ) : ℝ) < den := by exact_mod_cast Nat.mod_lt num h
  rw [roundToEven]
  generalize num / den = q, num % den = r at hnum hlt ⊢
  have hr : (0 : ℝ) ≤ r := r.cast_nonneg
  have hscale (n : ℕ) : |(n : ℝ) - num / den| ≤ 1 / 2 ↔
      |2 * ((n : ℝ) - q) * den - 2 * r| ≤ (den : ℝ) := by
    have : 2 * ((n : ℝ) - q) * den - 2 * r = (n - num / den) * (2 * den) := by
      field_simp
      rw [hnum]
      ring
    rw [this, abs_mul, abs_of_pos (by linarith : (0 : ℝ) < 2 * den)]
    constructor <;> intro h <;> nlinarith
  rw [hscale, abs_le]
  split_ifs with h1 h2
  · have : 2 * (r : ℝ) < den := by exact_mod_cast h1
    constructor <;> nlinarith
  · have : (den : ℝ) < 2 * r := by exact_mod_cast h2
    push_cast
    constructor <;> nlinarith
  · have : (den : ℝ) = 2 * r := by exact_mod_cast (by omega : den = 2 * r)
    rcases Nat.mod_two_eq_zero_or_one q with hb | hb <;> rw [hb] <;> push_cast <;>
      constructor <;> nlinarith

variable {m r : ℕ} {e t : ℤ} {s : Sign}

/-- A number of single precision is packed by its biased exponent. -/
theorem pack_single {b : ℕ} (h : 0 < m) (hb : e + 150 = b) :
    pack .binary32 (.finite s m e h) =
      if 2 ^ 8 ≤ b + 1 then packedInfinity .binary32 s
      else if m.log2 + 1 = 24 then packComponents .binary32 s (.ofNat 8 b) (.ofNat 23 m)
      else packComponents .binary32 s 0#8 (.ofNat 23 m) := by
  have hbiased : e + Format.binary32.exponentBias + Format.binary32.mantissaBitsWithoutImplicit =
      b := by
    rw [← hb, add_assoc]
    rfl
  rw [pack, hbiased]
  rfl

theorem toNat_packedInfinity_single (s : Sign) :
    (packedInfinity .binary32 s).toNat = s.toBitVec.toNat * 2 ^ 31 + singleInfinity := by
  cases s <;> rfl

theorem toNat_packComponents_single (s : Sign) (E : BitVec 8) (m : ℕ) :
    (packComponents .binary32 s E (.ofNat 23 m)).toNat =
      s.toBitVec.toNat * 2 ^ 31 + (E.toNat * 2 ^ 23 + m % 2 ^ 23) := by
  have h31 : 2 ^ (Format.binary32.exponentBits + Format.binary32.mantissaBitsWithoutImplicit) =
      2 ^ 31 := rfl
  have h23 : 2 ^ Format.binary32.mantissaBitsWithoutImplicit = 2 ^ 23 := rfl
  rw [toNat_packComponents, BitVec.toNat_ofNat, add_mul, mul_assoc, ← pow_add, add_assoc, h31, h23]

/-- The bits of a finite number of single precision. -/
theorem toNat_pack_single (hf : Fits .binary32 m e) (h : 0 < m) :
    (pack .binary32 (.finite s m e h)).toNat =
      s.toBitVec.toNat * 2 ^ 31 + min ((e + 149).toNat * 2 ^ 23 + m) singleInfinity := by
  have hlt : m < 2 ^ 24 := hf.mantissa_lt
  have he : -149 ≤ e := hf.le_exponent
  have hfull : 2 ^ 23 ≤ m ∨ e = -149 := hf.full
  have hinf : singleInfinity = 255 * 2 ^ 23 := rfl
  have hlog : m.log2 + 1 = 24 ↔ 2 ^ 23 ≤ m := by
    have := (Nat.log2_lt h.ne').2 hlt
    rw [← Nat.le_log2 h.ne']
    omega
  obtain ⟨b, hb⟩ : ∃ b : ℕ, e + 150 = b := Int.eq_ofNat_of_zero_le (by omega)
  rw [pack_single h hb]
  split_ifs with h1 h2
  · rw [toNat_packedInfinity_single]
    omega
  · -- The leading bit of the mantissa is not stored, but adds one to the stored exponent.
    have hm : m % 2 ^ 23 + 2 ^ 23 = m := by
      have := hlog.1 h2
      omega
    obtain ⟨k, rfl⟩ : ∃ k : ℕ, e = k - 149 := ⟨(e + 149).toNat, by omega⟩
    rw [sub_add_cancel, Int.toNat_natCast, hinf, min_eq_left (by omega),
      toNat_packComponents_single, BitVec.toNat_ofNat, Nat.mod_eq_of_lt (by omega)]
    omega
  · rw [toNat_packComponents_single, BitVec.toNat_zero]
    omega

/-- The bits of a rounded mantissa: a carry raises the stored exponent by itself. -/
theorem toNat_pack_assemble (s : Sign) (hr : r ≤ 2 ^ 24) (ht : -149 ≤ t)
    (hfull : 2 ^ 23 ≤ r ∨ t = -149) :
    (pack .binary32 (assemble s (shiftToTargetExponent .binary32 r t .exact))).toNat =
      s.toBitVec.toNat * 2 ^ 31 + min ((t + 149).toNat * 2 ^ 23 + r) singleInfinity := by
  rcases hr.lt_or_eq with hlt | rfl
  · rw [shiftToTargetExponent_of_lt hlt ht]
    rcases r.eq_zero_or_pos with rfl | h0
    · obtain rfl := hfull.resolve_left (by norm_num)
      cases s <;> rfl
    · rw [assemble_pos s _ _ _ h0]
      exact toNat_pack_single ⟨hlt, ht, hfull⟩ h0
  · have hfits : Fits .binary32 (2 ^ 23) (t + 1) :=
      ⟨by decide, (by omega : (-149 : ℤ) ≤ t + 1), .inl le_rfl⟩
    have hcarry : shiftToTargetExponent .binary32 (2 ^ 24) t .exact =
        (⟨2 ^ 23, false, false⟩, t + 1) := shiftToTargetExponent_carry ht
    rw [hcarry, assemble_pos s _ _ _ (by norm_num), toNat_pack_single hfits]
    omega

/-! ## Rounding to single precision -/

/-- Bits of single precision which a number was packed into. -/
theorem ofSingle_ofBits {w : UnpackedFloat} (hw : Canonical .binary32 w) {n : ℕ}
    (hn : (pack .binary32 w).toNat = n) :
    ofSingle (Float32.ofBits (UInt32.ofNat n)) = repack .binary32 w := by
  have hbits : (UInt32.ofNat n).toBitVec = pack .binary32 w := by
    rw [← hn]
    exact BitVec.ofNat_toNat ..
  have h : ofSingle (Float32.ofBits (UInt32.ofNat n)) =
      repack .binary32 (unpack .binary32 (UInt32.ofNat n).toBitVec) := rfl
  rw [h, hbits]
  exact repack_repack hw

/-- The exponent that a magnitude is rounded at. -/
def singleExponent (m : ℕ) (e : ℤ) : ℤ := max (e + (m.log2 + 1) - 24) (-149)

theorem singleExponent_eq (m : ℕ) (e : ℤ) :
    singleExponent m e = Format.binary32.targetExponent (totalExponent m e) := by
  have h : Format.binary32.targetExponent (totalExponent m e) =
      max ((m.log2 : ℤ) + 1 + e - 24) (-149) := rfl
  rw [h, singleExponent, add_comm e]

/-- The mantissa that a magnitude is rounded to. -/
def singleMantissa (m : ℕ) (e : ℤ) : ℕ :=
  roundToEven (m * Nat.pow 2 (e - singleExponent m e).toNat)
    (Nat.pow 2 (singleExponent m e - e).toNat)

theorem singleMagnitude_of_pos (h : 0 < m) :
    singleMagnitude m e =
      min ((singleExponent m e + 149).toNat * 2 ^ 23 + singleMantissa m e) singleInfinity := by
  rw [singleMagnitude, if_neg (by simpa using h.ne')]
  rfl

/-- The mantissa is rounded once. -/
theorem abs_singleMantissa_sub (m : ℕ) (e : ℤ) :
    |(singleMantissa m e : ℝ) - magnitude m (e - singleExponent m e)| ≤ 1 / 2 := by
  generalize ht : singleExponent m e = t
  have hscale : ((m * 2 ^ (e - t).toNat : ℕ) : ℝ) / (2 ^ (t - e).toNat : ℕ) =
      magnitude m (e - t) := by
    rcases le_total t e with h | h
    · obtain ⟨k, rfl⟩ := Int.le.dest h
      rw [add_sub_cancel_left, Int.toNat_natCast, magnitude, zpow_natCast,
        show (t - (t + k)).toNat = 0 by omega]
      push_cast
      ring
    · obtain ⟨k, rfl⟩ := Int.le.dest h
      rw [add_sub_cancel_left, Int.toNat_natCast, magnitude, show e - (e + k) = -k by ring,
        zpow_neg, zpow_natCast, Int.toNat_of_nonpos (by omega)]
      push_cast
      ring
  rw [← hscale, singleMantissa, ht]
  exact abs_roundToEven_sub _ (Nat.two_pow_pos _)

theorem singleMantissa_le (m : ℕ) (e : ℤ) : singleMantissa m e ≤ 2 ^ 24 := by
  have hy : magnitude m (e - singleExponent m e) < 2 ^ 24 := by
    have hm : (m : ℝ) < 2 ^ (m.log2 + 1) := by exact_mod_cast Nat.lt_log2_self
    have he : ((m.log2 + 1 : ℕ) : ℤ) + (e - singleExponent m e) ≤ (24 : ℕ) := by
      rw [singleExponent]
      omega
    calc (m : ℝ) * 2 ^ (e - singleExponent m e)
        < 2 ^ (m.log2 + 1) * 2 ^ (e - singleExponent m e) := by gcongr
      _ = 2 ^ (((m.log2 + 1 : ℕ) : ℤ) + (e - singleExponent m e)) := by
        rw [zpow_add₀ two_ne_zero, zpow_natCast]
      _ ≤ 2 ^ ((24 : ℕ) : ℤ) := zpow_le_zpow_right₀ one_le_two he
      _ = 2 ^ 24 := zpow_natCast _ _
  have hr := (abs_le.1 (abs_singleMantissa_sub m e)).2
  have : (singleMantissa m e : ℝ) < (2 ^ 24 + 1 : ℕ) := by
    push_cast
    linarith
  exact Nat.le_of_lt_succ (Nat.cast_lt.1 this)

theorem singleMantissa_full (hm : 0 < m) (e : ℤ) :
    2 ^ 23 ≤ singleMantissa m e ∨ singleExponent m e = -149 := by
  refine or_iff_not_imp_right.2 fun hne => ?_
  have hy : 2 ^ 23 ≤ magnitude m (e - singleExponent m e) := by
    have hm' : (2 : ℝ) ^ m.log2 ≤ m := by exact_mod_cast Nat.log2_self_le hm.ne'
    have he : ((23 : ℕ) : ℤ) = (m.log2 : ℕ) + (e - singleExponent m e) := by
      rw [singleExponent] at hne ⊢
      omega
    calc (2 : ℝ) ^ 23 = 2 ^ ((23 : ℕ) : ℤ) := (zpow_natCast _ _).symm
      _ = 2 ^ m.log2 * 2 ^ (e - singleExponent m e) := by
        rw [he, zpow_add₀ two_ne_zero, zpow_natCast]
      _ ≤ m * 2 ^ (e - singleExponent m e) := by gcongr
  have hr := (abs_le.1 (abs_singleMantissa_sub m e)).1
  have : ((2 ^ 23 : ℕ) : ℝ) < (singleMantissa m e + 1 : ℕ) := by
    push_cast
    linarith
  exact Nat.le_of_lt_succ (Nat.cast_lt.1 this)

/-- What the magnitude of a number is rounded to. -/
def roundedSingle (s : Sign) (m : ℕ) (e : ℤ) : UnpackedFloat :=
  assemble s (shiftToTargetExponent .binary32 (singleMantissa m e) (singleExponent m e) .exact)

theorem roundedSingle_rounds (s : Sign) (hm : 0 < m) (e : ℤ) :
    Rounds .binary32 (unit s * magnitude m e) (roundedSingle s m e) := by
  refine (assemble_stores s (singleMantissa_le m e) (le_max_right _ _)
    (singleMantissa_full hm e)).rounds (magnitude_pos hm e) ?_
  have herror : 1 / 2 * 2 ^ Format.binary32.targetExponent (totalExponent m e) ≤
      error .binary32 ((m + 0) * 2 ^ e) := half_unit_le_error hm le_rfl
  rw [add_zero, ← singleExponent_eq] at herror
  have hp : (0 : ℝ) < 2 ^ singleExponent m e := zpow_pos two_pos _
  have hscale : magnitude m e = magnitude m (e - singleExponent m e) * 2 ^ singleExponent m e := by
    rw [magnitude, magnitude, mul_assoc, ← zpow_add₀ two_ne_zero, sub_add_cancel]
  calc |magnitude (singleMantissa m e) (singleExponent m e) - magnitude m e|
      = |(singleMantissa m e : ℝ) - magnitude m (e - singleExponent m e)| *
          2 ^ singleExponent m e := by
        rw [hscale, magnitude, ← sub_mul, abs_mul, abs_of_pos hp]
    _ ≤ 1 / 2 * 2 ^ singleExponent m e := by
        gcongr
        exact abs_singleMantissa_sub m e
    _ ≤ error .binary32 (magnitude m e) := herror

theorem toNat_pack_roundedSingle (s : Sign) (hm : 0 < m) (e : ℤ) :
    (pack .binary32 (roundedSingle s m e)).toNat =
      s.toBitVec.toNat * 2 ^ 31 + singleMagnitude m e := by
  rw [singleMagnitude_of_pos hm]
  exact toNat_pack_assemble s (singleMantissa_le m e) (le_max_right _ _) (singleMantissa_full hm e)

/-- Rounding to single precision stores what the value of a number is rounded to. -/
theorem toSingle_rounds {x : Float} (h : x.isFinite) :
    ∃ w, Rounds .binary32 (value (ofDouble x)) w ∧ ofSingle (toSingle x) = repack .binary32 w := by
  obtain ⟨b, hb, hx⟩ := ofFloat?_of_isFinite h
  have hsign : (if b.negative then Nat.pow 2 31 else 0) = b.sign.toBitVec.toNat * 2 ^ 31 := by
    rw [BinaryParts.sign]
    cases b.negative <;> rfl
  simp only [toSingle, hb, hsign, hx]
  rcases b.mantissa.eq_zero_or_pos with h0 | hm
  · have hw : Rounds .binary32 0 (.zero b.sign) := rounds_zero b.sign
    rw [h0, magnitude, Nat.cast_zero, zero_mul, mul_zero]
    refine ⟨_, hw, ofSingle_ofBits hw.canonical ?_⟩
    rw [singleMagnitude, if_pos (beq_self_eq_true 0)]
    cases b.sign <;> rfl
  · have hw := roundedSingle_rounds b.sign hm b.exponent
    exact ⟨_, hw, ofSingle_ofBits hw.canonical (toNat_pack_roundedSingle b.sign hm b.exponent)⟩

theorem toSingle_infinity {x : Float} (h : ofDouble x = .infinity .positive) :
    ofSingle (toSingle x) = .infinity .positive := by
  have hfin : ¬x.isFinite := fun hx => by
    have : (ofDouble x).isFinite := hx
    rw [h] at this
    cases this
  have hpos : 0 < x := by
    have hzero : ofDouble 0 = .zero .positive := rfl
    rw [double_lt_iff, IsNumber, IsNumber, place, place, h, hzero]
    exact ⟨⟨by simp, by simp⟩, EReal.coe_lt_top 0⟩
  simp only [toSingle, ofFloat?_of_not_isFinite hfin, hpos, if_true]
  rfl

/-- A finite number of moderate size is off by no more than one rounding. -/
theorem toSingle_near {x : Float} {b : ℝ} (h : x.isFinite) (hb : |value (ofDouble x)| ≤ b)
    (hb' : b ≤ 2 ^ 98) : IsReal .binary32 (ofSingle (toSingle x)) ∧
      |value (ofSingle (toSingle x)) - value (ofDouble x)| ≤ error .binary32 b := by
  obtain ⟨w, hw, hs⟩ := toSingle_rounds h
  have hr := hw.stored roomy_binary32 (hb.trans hb')
  rw [hs]
  exact ⟨hr.isReal, hr.near.trans
    (add_le_add_left (mul_le_mul_of_nonneg_left hb (roundoff_pos _).le) _)⟩

/-- What is rounded to single precision is not much smaller, even if it is too large. -/
theorem le_rank_toSingle {x : Float} {a : ℝ} (hx : IsNonneg (ofDouble x))
    (ha : (a : EReal) ≤ place x) :
    ((a - error .binary32 a : ℝ) : EReal) ≤ rank (ofSingle (toSingle x)) := by
  rcases hx.cases (canonical_ofDouble x) with hr | hr
  · rw [place, hr.rank_eq, EReal.coe_le_coe_iff] at ha
    obtain ⟨w, hw, hs⟩ := toSingle_rounds hr.isFinite
    rw [hs]
    exact hw.le_rank_repack hx.value_nonneg ha
  · rw [toSingle_infinity hr]
    exact le_top

end Astrogation.Decimal
