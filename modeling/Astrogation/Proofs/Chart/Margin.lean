import Astrogation.Chart.Search
import Astrogation.Proofs.Decimal.Single

/-!
# The margin of the index

The index of a chart compares squares of distances in single precision. Both points were
rounded before, and the radius that it is asked for is larger than the radius of the search
by a margin (`Chart.radiusMargin`). The farther from the origin points are, the more
rounding moves them; the margin outweighs this for points whose coordinates and
distance are moderate (`found_of_moderate`).
-/

namespace Astrogation

open Floating Decimal
open Float.Model (Format UnpackedFloat)
open Float.Model.UnpackedFloat

/-- The point that a position of finite coordinates stands for. -/
noncomputable def Position.inReals (p : Position) : Position ℝ := (p.map ofDouble).map value

/-- A point in single precision, unpacked. -/
def SinglePoint.unpacked (p : SinglePoint) : Position UnpackedFloat :=
  ⟨ofSingle p.x, ofSingle p.y, ofSingle p.z⟩

/-- The point that one in single precision stands for. -/
noncomputable def SinglePoint.inReals (p : SinglePoint) : Position ℝ := p.unpacked.map value

/-! ## Distances in double precision -/

theorem roundoff_binary64 : roundoff .binary64 = 1 / 2 ^ 53 := by
  rw [roundoff, one_div]
  rfl

theorem underflow_binary64 : underflow .binary64 ≤ 1 / 2 ^ 200 := by
  have h : underflow .binary64 = 2 ^ (-1075 : ℤ) := rfl
  rw [h]
  calc (2 : ℝ) ^ (-1075 : ℤ) ≤ 2 ^ (-200 : ℤ) := zpow_le_zpow_right₀ one_le_two (by norm_num)
    _ = 1 / 2 ^ 200 := by rw [zpow_neg, one_div]; rfl

theorem roundoff_binary32 : roundoff .binary32 = 1 / 2 ^ 24 := by
  rw [roundoff, one_div]
  rfl

theorem underflow_binary32 : underflow .binary32 = 1 / 2 ^ 150 := by
  have h : underflow .binary32 = 2 ^ (-150 : ℤ) := rfl
  rw [h, zpow_neg, one_div]
  rfl

/-- A number whose square is off by a small relative error. -/
theorem le_sqrt_add {n s : ℝ} (hn : 0 ≤ n) (hn' : n ≤ 2 ^ 14)
    (h : |s - n ^ 2| ≤ 1 / 2 ^ 48 * n ^ 2 + 1 / 2 ^ 100) : n ≤ √s + 1 / 2 ^ 32 := by
  rw [← sub_le_iff_le_add]
  have hlow := (abs_le.1 h).1
  rcases le_total n (1 / 2 ^ 32) with hsmall | hlarge
  · exact (sub_nonpos.2 hsmall).trans (Real.sqrt_nonneg s)
  · refine Real.le_sqrt_of_sq_le ?_
    nlinarith

section

variable {p q : Position} (hp : IsFinite p) (hq : IsFinite q)
  (h : p.inReals.distanceTo q.inReals ≤ 2 ^ 14)
include hp hq h

/-- A distance that is not huge is hardly smaller than the exact one. -/
theorem le_distanceTo_add : IsReal .binary64 (ofDouble (p.distanceTo q)) ∧
    p.inReals.distanceTo q.inReals ≤ value (ofDouble (p.distanceTo q)) + 1 / 2 ^ 30 := by
  have hn := p.inReals.distanceTo_nonneg q.inReals
  obtain ⟨hreal, hnear⟩ := storedSquare_near roomy_binary64 hp.isReal hq.isReal
    (one_le_pow₀ one_le_two : (1 : ℝ) ≤ 2 ^ 14) (by norm_num) h
  have hnonneg := storedSquare_isNonneg (hp.isReal.imp fun h => ⟨h.canonical, h.ne_notANumber⟩)
    hq.isReal
  change |_ - p.inReals.distanceTo q.inReals ^ 2| ≤
    _ * p.inReals.distanceTo q.inReals ^ 2 + _ at hnear
  rw [ofDouble_distanceTo, storedSqrt]
  generalize storedSquare .binary64 (p.map ofDouble) (q.map ofDouble) = u at hreal hnear hnonneg ⊢
  generalize p.inReals.distanceTo q.inReals = n at hn h hnear ⊢
  have hκ : (1 + roundoff .binary64) ^ 5 - 1 ≤ 1 / 2 ^ 48 := by
    rw [roundoff_binary64]
    norm_num
  have hη := underflow_binary64
  have hs : |value u - n ^ 2| ≤ 1 / 2 ^ 48 * n ^ 2 + 1 / 2 ^ 100 :=
    hnear.trans (add_le_add (mul_le_mul_of_nonneg_right hκ (sq_nonneg n)) (by linarith))
  have hsqrt : √(value u) ≤ 2 ^ 15 := by
    rw [Real.sqrt_le_left (by norm_num)]
    have := (abs_le.1 hs).2
    have : n ^ 2 ≤ (2 ^ 14) ^ 2 := pow_le_pow_left₀ hn h 2
    linarith
  have hr := (sqrt_rounds .binary64 hreal.isFinite hnonneg.value_nonneg).stored roomy_binary64
    (by rw [abs_of_nonneg (Real.sqrt_nonneg _)]; linarith)
  have hd := (abs_le.1 hr.near).1
  rw [error, abs_of_nonneg (Real.sqrt_nonneg _), roundoff_binary64] at hd
  have := le_sqrt_add hn h hs
  exact ⟨hr.isReal, by linarith⟩

end

/-! ## Distances in single precision -/

/-- A position whose coordinates are at most so large. -/
def Moderate (b : ℝ) (p : Position) : Prop :=
  OnAxes (fun x => x.isFinite ∧ |value (ofDouble x)| ≤ b) p

theorem Moderate.isFinite {b : ℝ} {p : Position} (h : Moderate b p) : IsFinite p :=
  h.imp fun h => h.1

theorem Moderate.isNumber {b : ℝ} {p : Position} (h : Moderate b p) : OnAxes IsNumber p :=
  h.isFinite.isNumber

section

variable {p q : Position} {b : ℝ} (hp : Moderate b p) (hq : Moderate b q) (hb : b ≤ 2 ^ 13)
include hp hq hb

/-- Rounding to single precision hardly moves two points apart. -/
theorem inReals_ofPosition_le :
    (SinglePoint.ofPosition p).inReals.distanceTo (SinglePoint.ofPosition q).inReals ≤
      p.inReals.distanceTo q.inReals + 7 / 2 * error .binary32 b := by
  have haxis {x y : Float} (hx : x.isFinite ∧ |value (ofDouble x)| ≤ b)
      (hy : y.isFinite ∧ |value (ofDouble y)| ≤ b) :
      |value (ofSingle (toSingle x)) - value (ofSingle (toSingle y))| ≤
        |value (ofDouble x) - value (ofDouble y)| + 2 * error .binary32 b := by
    have nx := abs_le.1 (toSingle_near hx.1 hx.2 (by linarith)).2
    have ny := abs_le.1 (toSingle_near hy.1 hy.2 (by linarith)).2
    have := abs_le.1 (le_refl |value (ofDouble x) - value (ofDouble y)|)
    rw [abs_le]
    constructor <;> linarith
  have hb0 : 0 ≤ b := (abs_nonneg _).trans hp.x.2
  have h : (SinglePoint.ofPosition p).inReals.distanceTo (SinglePoint.ofPosition q).inReals ≤
      p.inReals.distanceTo q.inReals + _ :=
    Position.distanceTo_le_add (mul_nonneg zero_le_two (error_nonneg .binary32 hb0))
      (haxis hp.x hq.x) (haxis hp.y hq.y) (haxis hp.z hq.z)
  linarith

omit hq in
theorem isReal_ofPosition : OnAxes (IsReal .binary32) (SinglePoint.ofPosition p).unpacked :=
  have hb' : b ≤ 2 ^ 98 := hb.trans (by norm_num)
  ⟨(toSingle_near hp.x.1 hp.x.2 hb').1, (toSingle_near hp.y.1 hp.y.2 hb').1,
    (toSingle_near hp.z.1 hp.z.2 hb').1⟩

/-- The square of a distance that the index computes is hardly larger than the exact one. -/
theorem squaredDistance_le (h : p.inReals.distanceTo q.inReals ≤ 2 ^ 14) :
    let s := (SinglePoint.ofPosition p).squaredDistance (SinglePoint.ofPosition q)
    IsReal .binary32 (ofSingle s) ∧ value (ofSingle s) ≤
      (1 + roundoff .binary32) ^ 5 *
        (p.inReals.distanceTo q.inReals + 7 / 2 * error .binary32 b) ^ 2 + 1 / 2 ^ 120 := by
  intro s
  have hb0 : 0 ≤ b := (abs_nonneg _).trans hp.x.2
  have hκ := roundoff_pos .binary32
  have hle := inReals_ofPosition_le hp hq hb
  have herror : error .binary32 b ≤ 1 := by
    rw [error, roundoff_binary32, underflow_binary32]
    linarith
  obtain ⟨hreal, hnear⟩ := storedSquare_near roomy_binary32 (isReal_ofPosition hp hb)
    (isReal_ofPosition hq hb) (one_le_pow₀ one_le_two : (1 : ℝ) ≤ 2 ^ 15) (by norm_num)
    (hle.trans (by linarith))
  refine ⟨hreal, ?_⟩
  have hupper : value (ofSingle s) - (SinglePoint.ofPosition p).inReals.distanceTo
      (SinglePoint.ofPosition q).inReals ^ 2 ≤ _ := (abs_le.1 hnear).2
  rw [underflow_binary32] at hupper
  have hsq := mul_le_mul_of_nonneg_left
    (pow_le_pow_left₀ (Position.distanceTo_nonneg _ _) hle 2)
    (show 0 ≤ (1 + roundoff .binary32) ^ 5 by positivity)
  change _ ≤ _ * (SinglePoint.ofPosition p).inReals.distanceTo
      (SinglePoint.ofPosition q).inReals ^ 2 + _ at hupper
  linarith

end

/-! ## The radius that the index is asked for -/

/-- The margin, as it is stored. -/
theorem ofDouble_radiusMargin : ofDouble Chart.radiusMargin =
    .finite .positive 0x10624DD2F1A9FC (-62) (by norm_num) := rfl

theorem le_value_radiusMargin : 999999 / 10 ^ 9 ≤ value (ofDouble Chart.radiusMargin) := by
  rw [ofDouble_radiusMargin, value_finite, unit, one_mul, magnitude, zpow_neg]
  norm_num

theorem isReal_radiusMargin : IsReal .binary64 (ofDouble Chart.radiusMargin) :=
  ⟨canonical_ofDouble _, rfl⟩

/-- The square that the index is asked for is hardly smaller than that of the radius with
    the margin. -/
theorem le_widenedSquare {r : Float} {d : ℝ} (hr : IsNumber r) (hd : 0 ≤ d)
    (hdr : (d : EReal) ≤ place r) :
    ((((1 - 51 / 100 * roundoff .binary32) * (d + 999999 / 10 ^ 9)) ^ 2 : ℝ) : EReal) ≤
      rank (ofSingle (Chart.widenedSquare r)) := by
  have hr0 : IsNonneg (ofDouble r) := ⟨hr, (EReal.coe_nonneg.2 hd).trans hdr⟩
  have hm0 : IsNonneg (ofDouble Chart.radiusMargin) :=
    (rounds_value isReal_radiusMargin.canonical isReal_radiusMargin.isFinite).isNonneg
      ((by norm_num : (0 : ℝ) ≤ 999999 / 10 ^ 9).trans le_value_radiusMargin)
  -- The sum of the radius and the margin, its square, and this in single precision.
  have hsum := le_rank_storedAdd (canonical_ofDouble r) hr0 hdr isReal_radiusMargin hm0
    le_value_radiusMargin
  have hsum0 := storedAdd_isNonneg (canonical_ofDouble r) isReal_radiusMargin.canonical hr0 hm0
  have hη := underflow_binary64
  have hy : 999999 / 10 ^ 9 ≤ d + 999999 / 10 ^ 9 := le_add_of_nonneg_left hd
  generalize d + 999999 / 10 ^ 9 = y at hsum hy ⊢
  have hle : y * (1 - 1 / 2 ^ 52) ≤ y - error .binary64 y := by
    rw [error, roundoff_binary64]
    linarith
  generalize y - error .binary64 y = a at hsum hle
  have ha : 0 ≤ a := by linarith
  have hsquare := le_rank_storedMul_self (canonical_repack _ _) hsum0 hsum ha
  have hsquare0 := storedMul_self_isNonneg (canonical_repack .binary64 _) hsum0.ne_notANumber
  have hsingle := le_rank_toSingle
    (x := (r + Chart.radiusMargin) * (r + Chart.radiusMargin)) hsquare0 hsquare
  refine le_trans (EReal.coe_le_coe_iff.2 ?_) hsingle
  have hyy := mul_self_le_mul_self (by norm_num) hy
  have haa := mul_self_le_mul_self (mul_nonneg (by linarith) (by norm_num)) hle
  generalize a * a = b at haa ⊢
  rw [error, error, roundoff_binary64, roundoff_binary32, underflow_binary32, mul_pow, sq y]
  linarith

/-! ## What the index finds -/

/-- The margin outweighs the errors of rounding. -/
theorem margin_outweighs {b d n x : ℝ} (hb : 0 ≤ b) (hx : 0 ≤ x) (hxn : x ≤ n)
    (hxd : x ≤ d + 1 / 2 ^ 30) (hbn : 36 * b + 32 * n ≤ 167000) :
    (1 + roundoff .binary32) ^ 5 * (x + 7 / 2 * error .binary32 b) ^ 2 + 1 / 2 ^ 120 ≤
      ((1 - 51 / 100 * roundoff .binary32) * (d + 999999 / 10 ^ 9)) ^ 2 := by
  rw [error, roundoff_binary32, underflow_binary32]
  set y : ℝ := x + 7 / 2 * (1 / 2 ^ 24 * b + 1 / 2 ^ 150) with hy
  have hy0 : 0 ≤ y := by positivity
  have hpow : ((1 : ℝ) + 1 / 2 ^ 24) ^ 5 ≤ (1 + 26 / 10 * (1 / 2 ^ 24)) ^ 2 := by norm_num
  calc (1 + 1 / 2 ^ 24) ^ 5 * y ^ 2 + 1 / 2 ^ 120
      ≤ (1 + 26 / 10 * (1 / 2 ^ 24)) ^ 2 * y ^ 2 + 1 / 2 ^ 120 := by gcongr
    _ ≤ ((1 + 26 / 10 * (1 / 2 ^ 24)) * y + 1 / 2 ^ 60) ^ 2 := by
        rw [← mul_pow, add_sq]
        have : 0 ≤ (1 + 26 / 10 * (1 / 2 ^ 24)) * y := by positivity
        linarith
    _ ≤ ((1 - 51 / 100 * (1 / 2 ^ 24)) * (d + 999999 / 10 ^ 9)) ^ 2 := by
        refine pow_le_pow_left₀ (by positivity) ?_ 2
        linarith

/-- The margin outweighs the rounding: the index finds every point within a radius, as long
    as coordinates and distances are moderate. -/
theorem found_of_moderate {p q : Position} {r : Float} {b n : ℝ} (hp : Moderate b p)
    (hq : Moderate b q) (hb : b ≤ 2 ^ 13) (hn : p.inReals.distanceTo q.inReals ≤ n)
    (hn' : n ≤ 2 ^ 14) (hbn : 36 * b + 32 * n ≤ 167000) (hr : p.distanceTo q ≤ r) :
    (SinglePoint.ofPosition p).squaredDistance (SinglePoint.ofPosition q) ≤
      Chart.widenedSquare r := by
  obtain ⟨⟨-, hr⟩, hle⟩ := double_le_iff.1 hr
  have hnonneg := distanceTo_isNonneg hp.isNumber hq.isFinite
  obtain ⟨hreal, hdist⟩ := le_distanceTo_add hp.isFinite hq.isFinite (hn.trans hn')
  rw [place, hreal.rank_eq] at hle
  have hd0 := hnonneg.value_nonneg
  have hwide := le_widenedSquare hr hd0 hle
  obtain ⟨hreal', hsquare⟩ := squaredDistance_le hp hq hb (hn.trans hn')
  have hdist0 := p.inReals.distanceTo_nonneg q.inReals
  generalize value (ofDouble (p.distanceTo q)) = d at hdist hd0 hwide
  have hmargin := margin_outweighs ((abs_nonneg _).trans hp.x.2) hdist0 hn hdist hbn
  have hpos : 0 < ((1 - 51 / 100 * roundoff .binary32) * (d + 999999 / 10 ^ 9)) ^ 2 := by
    rw [roundoff_binary32]
    positivity
  have hnum : ofSingle (Chart.widenedSquare r) ≠ .notANumber := fun h => by
    rw [h] at hwide
    exact absurd (EReal.coe_le_coe_iff.1 hwide) hpos.not_ge
  rw [single_le_iff, hreal'.rank_eq]
  exact ⟨⟨hreal'.ne_notANumber, hnum⟩,
    (EReal.coe_le_coe_iff.2 (hsquare.trans hmargin)).trans hwide⟩

end Astrogation
