import Astrogation.Proofs.Floating.Operations
import Astrogation.Proofs.Space.Exact

/-!
# Operations whose results are stored

A machine stores the result of every operation in its format (`storedSub`, `storedAdd`,
`storedMul`, `storedSqrt`), and finds what rounding makes of the exact result unless this is
huge.

The square of a distance takes eight operations (`storedSquare`). Their errors add up to
no more than five roundings of the exact square, and to an absolute error close to
zero (`storedSquare_near`).
-/

namespace Astrogation.Floating

open Float.Model (Format UnpackedFloat)
open Float.Model.UnpackedFloat

variable {spec : Format} {u v : UnpackedFloat} {x : ℝ}

/-! ## Stored results -/

def storedAdd (spec : Format) (u v : UnpackedFloat) : UnpackedFloat :=
  repack spec (UnpackedFloat.add spec u v)

def storedSub (spec : Format) (u v : UnpackedFloat) : UnpackedFloat :=
  repack spec (UnpackedFloat.sub spec u v)

def storedMul (spec : Format) (u v : UnpackedFloat) : UnpackedFloat :=
  repack spec (UnpackedFloat.mul spec u v)

def storedSqrt (spec : Format) (u : UnpackedFloat) : UnpackedFloat :=
  repack spec (UnpackedFloat.sqrt spec u)

/-- A finite number of a format. -/
structure IsReal (spec : Format) (u : UnpackedFloat) : Prop where
  canonical : Canonical spec u
  isFinite : u.isFinite

theorem Rounds.isReal (h : Rounds spec x u) : IsReal spec u := ⟨h.canonical, h.isFinite⟩

/-- A format in which no number of moderate size is too large. -/
def Roomy (spec : Format) : Prop := 101 ≤ spec.exponentBias

theorem underflow_le (spec : Format) : underflow spec ≤ 1 / 2 := by
  have := minExponent_nonpos spec
  calc (2 : ℝ) ^ (spec.minExponent - 1) ≤ 2 ^ (-1 : ℤ) := zpow_le_zpow_right₀ one_le_two (by omega)
    _ = 1 / 2 := by norm_num

theorem error_le (spec : Format) (hx : 0 ≤ x) : error spec x ≤ 1 / 2 * x + 1 / 2 :=
  add_le_add (mul_le_mul_of_nonneg_right (roundoff_le spec) hx) (underflow_le spec)

theorem Rounds.abs_value_le (h : Rounds spec x u) : |value u| ≤ 3 / 2 * |x| + 1 / 2 := by
  have := abs_sub_abs_le_abs_sub (value u) x
  have := h.near.trans (error_le spec (abs_nonneg x))
  linarith

/-- What is stored of a rounded number of moderate size. -/
theorem Rounds.stored (hs : Roomy spec) (h : Rounds spec x u) (hx : |x| ≤ 2 ^ 98) :
    Rounds spec x (repack spec u) := by
  have hpow : (2 : ℝ) ^ 102 ≤ 2 ^ (spec.exponentBias + 1) :=
    pow_le_pow_right₀ one_le_two (Nat.succ_le_succ hs)
  have herror := error_le spec (abs_nonneg x)
  rw [h.repack_eq (Nat.lt_of_lt_of_le (by norm_num) hs) (lt_of_lt_of_le _ hpow)]
  · exact h
  · linarith

theorem IsReal.ne_notANumber (h : IsReal spec u) : u ≠ .notANumber := by
  rintro rfl
  cases h.isFinite

theorem IsReal.rank_eq (h : IsReal spec u) : rank u = (value u : ℝ) :=
  (rounds_value h.canonical h.isFinite).rank_eq

section

variable (hs : Roomy spec) (hu : IsReal spec u) (hv : IsReal spec v)
include hs hu hv

theorem storedSub_rounds (h : |value u - value v| ≤ 2 ^ 98) :
    Rounds spec (value u - value v) (storedSub spec u v) :=
  (sub_rounds hu.canonical hv.canonical hu.isFinite hv.isFinite).stored hs h

theorem storedAdd_rounds (h : |value u + value v| ≤ 2 ^ 98) :
    Rounds spec (value u + value v) (storedAdd spec u v) :=
  (add_rounds hu.canonical hv.canonical hu.isFinite hv.isFinite).stored hs h

theorem storedMul_rounds (h : |value u * value v| ≤ 2 ^ 98) :
    Rounds spec (value u * value v) (storedMul spec u v) :=
  (mul_rounds hu.canonical hv.canonical hu.isFinite hv.isFinite).stored hs h

end

/-! ## Accumulated errors -/

section

variable {κ η : ℝ}

/-- The square of a difference that is off by one rounding, itself rounded. -/
theorem near_square {d e m l : ℝ} (hκ : 0 ≤ κ) (hκ' : κ ≤ 1 / 2) (hη : 0 ≤ η) (hη' : η ≤ 1 / 2)
    (hl : 1 ≤ l) (he : |e| ≤ l) (hd : |d - e| ≤ κ * |e| + η) (hm : |m - d * d| ≤ κ * |d * d| + η) :
    |m - e * e| ≤ ((1 + κ) ^ 3 - 1) * (e * e) + 7 * l * η := by
  have hy := abs_nonneg e
  have hd' : |d| ≤ (1 + κ) * |e| + η := by
    have := abs_sub_abs_le_abs_sub d e
    linarith
  have hdd : |d * d| ≤ ((1 + κ) * |e| + η) * ((1 + κ) * |e| + η) := by
    rw [abs_mul]
    exact mul_self_le_mul_self (abs_nonneg d) hd'
  have hee : |d * d - e * e| ≤ (κ * |e| + η) * ((2 + κ) * |e| + η) := by
    rw [mul_self_sub_mul_self, mul_comm, abs_mul]
    refine mul_le_mul hd ?_ (abs_nonneg _) (by positivity)
    have := abs_add_le d e
    linarith
  have hsplit : |m - e * e| ≤ |m - d * d| + |d * d - e * e| := abs_sub_le _ _ _
  have hκd := mul_le_mul_of_nonneg_left hdd hκ
  rw [← abs_mul_abs_self e] at hsplit hee ⊢
  -- Every product with the absolute error is at most a share of that error times the bound.
  have h1 : η * |e| ≤ η * l := by gcongr
  have h2 : κ * (η * |e|) ≤ 1 / 2 * (η * l) := by gcongr
  have h3 : κ * (κ * (η * |e|)) ≤ 1 / 2 * (1 / 2 * (η * l)) := by gcongr
  have h4 : η * η ≤ η * (1 / 2) := by gcongr
  have h5 : κ * (η * η) ≤ 1 / 2 * (η * (1/2)) := by gcongr
  have h6 : η * 1 ≤ η * l := by gcongr
  linarith

/-- The rounded sum of two numbers that are off by as much each. -/
theorem near_add {τ a a' b b' s : ℝ} {k : ℕ} (hκ : 0 ≤ κ) (hκ' : κ ≤ 1 / 2) (hτ : 0 ≤ τ)
    (ha' : 0 ≤ a') (hb' : 0 ≤ b') (ha : |a - a'| ≤ ((1 + κ) ^ k - 1) * a' + τ)
    (hb : |b - b'| ≤ ((1 + κ) ^ k - 1) * b' + τ) (hs : |s - (a + b)| ≤ κ * |a + b| + η) :
    |s - (a' + b')| ≤ ((1 + κ) ^ (k + 1) - 1) * (a' + b') + (3 * τ + η) := by
  have hab : |a + b - (a' + b')| ≤ ((1 + κ) ^ k - 1) * (a' + b') + 2 * τ := by
    have := abs_add_le (a - a') (b - b')
    rw [add_sub_add_comm]
    linarith
  have hsum : |a + b| ≤ (1 + κ) ^ k * (a' + b') + 2 * τ := by
    have := abs_sub_abs_le_abs_sub (a + b) (a' + b')
    rw [abs_of_nonneg (add_nonneg ha' hb')] at this
    linarith
  have hsplit : |s - (a' + b')| ≤ |s - (a + b)| + |a + b - (a' + b')| := abs_sub_le _ _ _
  have hκsum := mul_le_mul_of_nonneg_left hsum hκ
  have hκτ : κ * τ ≤ 1 / 2 * τ := by gcongr
  rw [pow_succ]
  linarith

end

/-- What a format computes for the square of the distance of two points. -/
def storedSquare (spec : Format) (p q : Position UnpackedFloat) : UnpackedFloat :=
  let dx := storedSub spec p.x q.x
  let dy := storedSub spec p.y q.y
  let dz := storedSub spec p.z q.z
  storedAdd spec (storedAdd spec (storedMul spec dx dx) (storedMul spec dy dy))
    (storedMul spec dz dz)

/-- Something said of all three axes. -/
structure OnAxes {α : Type} (P : α → Prop) (p : Position α) : Prop where
  x : P p.x
  y : P p.y
  z : P p.z

theorem OnAxes.imp {α : Type} {P Q : α → Prop} {p : Position α} (h : OnAxes P p)
    (hpq : ∀ {x}, P x → Q x) : OnAxes Q p := ⟨hpq h.x, hpq h.y, hpq h.z⟩

/-! ## Distances which are not negative -/

theorem storedMul_self_isNonneg (hu : Canonical spec u) (hn : u ≠ .notANumber) :
    IsNonneg (storedMul spec u u) := by
  obtain ⟨hc, h⟩ := mul_self_isNonneg hu hn
  exact h.repack hc

theorem storedSub_ne_notANumber (hu : Canonical spec u ∧ u ≠ .notANumber) (hv : IsReal spec v) :
    storedSub spec u v ≠ .notANumber := by
  obtain ⟨hc, h⟩ := sub_isNumber hu.1 hv.canonical hu.2 hv.isFinite
  exact repack_ne_notANumber hc h

theorem storedAdd_isNonneg (hu : Canonical spec u) (hv : Canonical spec v) (hnu : IsNonneg u)
    (hnv : IsNonneg v) : IsNonneg (storedAdd spec u v) := by
  obtain ⟨hc, h⟩ := add_isNonneg hu hv hnu hnv
  exact h.repack hc

theorem storedSqrt_isNonneg (hu : IsNonneg u) : IsNonneg (storedSqrt spec u) := by
  obtain ⟨hc, h⟩ := sqrt_isNonneg spec hu
  exact h.repack hc

/-- A number which is not negative is finite, or the positive infinity. -/
theorem IsNonneg.cases (hu : Canonical spec u) (h : IsNonneg u) :
    IsReal spec u ∨ u = .infinity .positive := by
  match u with
  | .notANumber => exact absurd rfl h.ne_notANumber
  | .infinity .negative => exact absurd h not_isNonneg_infinity
  | .infinity .positive => exact .inr rfl
  | .zero _ | .finite .. => exact .inl ⟨hu, rfl⟩

section

variable {a b : ℝ} (hu : Canonical spec u) (hnu : IsNonneg u) (ha : (a : EReal) ≤ rank u)
include hu hnu ha

/-- A sum is not much smaller than those of smaller numbers, even if it is too large. -/
theorem le_rank_storedAdd (hv : IsReal spec v) (hnv : IsNonneg v) (hb : b ≤ value v) :
    ((a + b - error spec (a + b) : ℝ) : EReal) ≤ rank (storedAdd spec u v) := by
  rcases hnu.cases hu with hu | rfl
  · rw [hu.rank_eq, EReal.coe_le_coe_iff] at ha
    exact (add_rounds hu.canonical hv.canonical hu.isFinite hv.isFinite).le_rank_repack
      (add_nonneg hnu.value_nonneg hnv.value_nonneg) (add_le_add ha hb)
  · rw [storedAdd, infinity_add hv.isFinite, repack_infinity]
    exact le_top

theorem le_rank_storedMul_self (ha0 : 0 ≤ a) :
    ((a * a - error spec (a * a) : ℝ) : EReal) ≤ rank (storedMul spec u u) := by
  rcases hnu.cases hu with hu | rfl
  · rw [hu.rank_eq, EReal.coe_le_coe_iff] at ha
    exact (mul_rounds hu.canonical hu.canonical hu.isFinite hu.isFinite).le_rank_repack
      (mul_self_nonneg _) (mul_self_le_mul_self ha0 ha)
  · rw [storedMul, UnpackedFloat.mul, repack_infinity]
    exact le_top

end

section

variable {p q : Position UnpackedFloat}

/-- The square of the distance of any point from a finite one. -/
theorem storedSquare_isNonneg (hp : OnAxes (fun u => Canonical spec u ∧ u ≠ .notANumber) p)
    (hq : OnAxes (IsReal spec) q) : IsNonneg (storedSquare spec p q) := by
  have haxis {u v : UnpackedFloat} (hu : Canonical spec u ∧ u ≠ .notANumber) (hv : IsReal spec v) :=
    storedMul_self_isNonneg (canonical_repack spec _) (storedSub_ne_notANumber hu hv)
  exact storedAdd_isNonneg (canonical_repack _ _) (canonical_repack _ _)
    (storedAdd_isNonneg (canonical_repack _ _) (canonical_repack _ _) (haxis hp.x hq.x)
      (haxis hp.y hq.y)) (haxis hp.z hq.z)

theorem storedMul_self_notANumber (h : u = .notANumber) :
    storedMul spec (storedSub spec u v) (storedSub spec u v) = .notANumber := by
  rw [h, storedSub, sub_notANumber, repack_notANumber]
  exact repack_notANumber

theorem storedAdd_notANumber (h : u = .notANumber ∨ v = .notANumber) :
    storedAdd spec u v = .notANumber := by
  rw [storedAdd, add_notANumber h, repack_notANumber]

/-- NaN in one coordinate is enough. -/
theorem storedSquare_notANumber
    (h : p.x = .notANumber ∨ p.y = .notANumber ∨ p.z = .notANumber) :
    storedSquare spec p q = .notANumber := by
  apply storedAdd_notANumber
  rcases h with h | h | h
  · exact .inl (storedAdd_notANumber (.inl (storedMul_self_notANumber h)))
  · exact .inl (storedAdd_notANumber (.inr (storedMul_self_notANumber h)))
  · exact .inr (storedMul_self_notANumber h)

end

/-! ## The error of squared distances -/

variable {l : ℝ}

/-- The square of the distance along one axis. -/
theorem storedSquare_axis (hs : Roomy spec) (hu : IsReal spec u) (hv : IsReal spec v) (hl : 1 ≤ l)
    (hl' : l ≤ 2 ^ 20) (h : |value u - value v| ≤ l) :
    let m := storedMul spec (storedSub spec u v) (storedSub spec u v)
    let a := (value u - value v) * (value u - value v)
    IsReal spec m ∧ |value m| ≤ 2 ^ 44 ∧
      |value m - a| ≤ ((1 + roundoff spec) ^ 3 - 1) * a + 7 * l * underflow spec := by
  intro m a
  have hd := storedSub_rounds hs hu hv (h.trans (by linarith))
  have hdd : |value (storedSub spec u v) * value (storedSub spec u v)| ≤ 2 ^ 42 := by
    have hbound : |value (storedSub spec u v)| ≤ 2 ^ 21 := by
      have := hd.abs_value_le
      linarith
    rw [abs_mul]
    exact (mul_le_mul hbound hbound (abs_nonneg _) (by positivity)).trans (by norm_num)
  have hm := storedMul_rounds hs hd.isReal hd.isReal (hdd.trans (by norm_num))
  refine ⟨hm.isReal, ?_, near_square (roundoff_pos spec).le (roundoff_le spec)
    (underflow_pos spec).le (underflow_le spec) hl h hd.near hm.near⟩
  have := hm.abs_value_le
  linarith

/-- The computed square of a distance is close to the exact one. -/
theorem storedSquare_near (hs : Roomy spec) {p q : Position UnpackedFloat}
    (hp : OnAxes (IsReal spec) p) (hq : OnAxes (IsReal spec) q) (hl : 1 ≤ l) (hl' : l ≤ 2 ^ 20)
    (h : (p.map value).distanceTo (q.map value) ≤ l) :
    IsReal spec (storedSquare spec p q) ∧
      |value (storedSquare spec p q) - (p.map value).distanceTo (q.map value) ^ 2| ≤
        ((1 + roundoff spec) ^ 5 - 1) * (p.map value).distanceTo (q.map value) ^ 2 +
          70 * l * underflow spec := by
  obtain ⟨hx, hy, hz⟩ := Position.abs_sub_le_distanceTo (p.map value) (q.map value)
  obtain ⟨rx, bx, nx⟩ := storedSquare_axis hs hp.x hq.x hl hl' (hx.trans h)
  obtain ⟨ry, by', ny⟩ := storedSquare_axis hs hp.y hq.y hl hl' (hy.trans h)
  obtain ⟨rz, bz, nz⟩ := storedSquare_axis hs hp.z hq.z hl hl' (hz.trans h)
  have hxx := mul_self_nonneg (value p.x - value q.x)
  have hyy := mul_self_nonneg (value p.y - value q.y)
  have hzz := mul_self_nonneg (value p.z - value q.z)
  have hκ := (roundoff_pos spec).le
  have hη := (underflow_pos spec).le
  have hη' : underflow spec ≤ l * underflow spec := le_mul_of_one_le_left hη hl
  have bsum := (abs_add_le _ _).trans (add_le_add bx by')
  have hsum := storedAdd_rounds hs rx ry (bsum.trans (by norm_num))
  have nsum := near_add hκ (roundoff_le spec) (by positivity) hxx hyy nx ny hsum.near
  have btotal := (abs_add_le _ _).trans
    (add_le_add (hsum.abs_value_le.trans (add_le_add_left
      (mul_le_mul_of_nonneg_left bsum (by norm_num)) _)) bz)
  have htotal := storedAdd_rounds hs hsum.isReal rz (btotal.trans (by norm_num))
  -- The third square takes one addition less than the other two.
  have nz' := nz.trans (add_le_add
    (mul_le_mul_of_nonneg_right (sub_le_sub_right
      (pow_le_pow_right₀ (le_add_of_nonneg_right hκ) (Nat.le_succ 3)) 1) hzz)
    (show 7 * l * underflow spec ≤ 3 * (7 * l * underflow spec) + underflow spec by linarith))
  have ntotal := near_add hκ (roundoff_le spec) (by positivity) (add_nonneg hxx hyy) hzz nsum nz'
    htotal.near
  refine ⟨htotal.isReal, ?_⟩
  rw [Position.distanceTo_sq]
  refine ntotal.trans (add_le_add le_rfl ?_)
  linarith

end Astrogation.Floating
