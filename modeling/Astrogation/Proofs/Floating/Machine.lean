import Astrogation.Chart.System
import Astrogation.Proofs.Floating.Stored

/-!
# Double and single precision

The numbers of double precision are ordered by their places among the extended real
numbers (`place`); only NaN is not ordered at all. The distance from a point to a finite
position is a number and not negative, unless a coordinate of the point is NaN
(`distanceTo_isNonneg`, `distanceTo_isNaN`).
-/

namespace Astrogation.Floating

open Float.Model (Format UnpackedFloat)
open Float.Model.UnpackedFloat

/-- A number of double precision, unpacked. -/
def ofDouble (x : Float) : UnpackedFloat := x.toModel.unpack

/-- A number of single precision, unpacked. -/
def ofSingle (x : Float32) : UnpackedFloat := x.toModel.unpack

/-- What is unpacked from the bits of double precision is a number of that format. -/
theorem canonical_ofDouble (x : Float) : Canonical .binary64 (ofDouble x) := canonical_unpack _ _

theorem canonical_ofSingle (x : Float32) : Canonical .binary32 (ofSingle x) := canonical_unpack _ _

/-- No number of moderate size is too large for double precision. -/
theorem roomy_binary64 : Roomy .binary64 := by
  rw [Roomy]
  decide

theorem roomy_binary32 : Roomy .binary32 := by
  rw [Roomy]
  decide

/-- A number of double precision which is not NaN. -/
def IsNumber (x : Float) : Prop := ofDouble x ≠ .notANumber

theorem isNaN_eq_false_iff {x : Float} : x.isNaN = false ↔ IsNumber x := by
  have unpacked : x.isNaN = (ofDouble x).isNaN := rfl
  rw [unpacked, IsNumber]
  cases ofDouble x with
  | notANumber => exact iff_of_false (by decide) fun h => h rfl
  | _ => exact iff_of_true rfl (by simp)

/-- NaN is the only value which is no number. -/
theorem isNaN_iff {x : Float} : x.isNaN = true ↔ ¬IsNumber x := by
  rw [← isNaN_eq_false_iff, Bool.not_eq_false]

/-- The place of a number among the extended real numbers. -/
noncomputable def place (x : Float) : EReal := rank (ofDouble x)

variable {x y : Float}

theorem double_le_iff : x ≤ y ↔ (IsNumber x ∧ IsNumber y) ∧ place x ≤ place y := by
  have h : x ≤ y ↔ (ofDouble x).le (ofDouble y) := by
    simp only [LE.le, Float.le, decide_eq_true_eq]
    rfl
  rw [h, le_iff (canonical_ofDouble x) (canonical_ofDouble y)]
  rfl

/-- One value is less than another if and only if both are numbers and their places are so. -/
theorem double_lt_iff : x < y ↔ (IsNumber x ∧ IsNumber y) ∧ place x < place y := by
  have h : x < y ↔ (ofDouble x).lt (ofDouble y) := by
    simp only [LT.lt, Float.lt, decide_eq_true_eq]
    rfl
  rw [h, lt_iff (canonical_ofDouble x) (canonical_ofDouble y)]
  rfl

theorem double_beq_iff : x == y ↔ (IsNumber x ∧ IsNumber y) ∧ place x = place y :=
  beq_iff (canonical_ofDouble x) (canonical_ofDouble y)

/-- Nothing is less than itself, NaN included. -/
theorem double_lt_irrefl (x : Float) : ¬x < x := fun h => lt_irrefl _ (double_lt_iff.1 h).2

/-- Nothing positive is left of a number that is taken from itself, be it infinite. -/
theorem double_not_pos_sub_self (x : Float) : ¬0 < x - x := by
  intro h
  obtain ⟨⟨-, number⟩, lt⟩ := double_lt_iff.1 h
  have stored : ofDouble (x - x) = storedSub .binary64 (ofDouble x) (ofDouble x) := rfl
  rcases sub_self_eq .binary64 (ofDouble x) with zero | nan
  · rw [storedSub, zero, repack_zero] at stored
    rw [place, place, stored] at lt
    exact lt_irrefl _ lt
  · rw [storedSub, nan, repack_notANumber] at stored
    exact number stored

theorem double_le_of_lt (h : x < y) : x ≤ y := by
  obtain ⟨numbers, lt⟩ := double_lt_iff.1 h
  exact double_le_iff.2 ⟨numbers, lt.le⟩

/-- Though NaN is not ordered, the order of the numbers is transitive. -/
theorem double_le_trans {z : Float} (h : x ≤ y) (h' : y ≤ z) : x ≤ z := by
  obtain ⟨⟨hx, -⟩, le⟩ := double_le_iff.1 h
  obtain ⟨⟨-, hz⟩, le'⟩ := double_le_iff.1 h'
  exact double_le_iff.2 ⟨⟨hx, hz⟩, le.trans le'⟩

theorem double_lt_of_le_of_lt {z : Float} (h : x ≤ y) (h' : y < z) : x < z := by
  obtain ⟨⟨hx, -⟩, le⟩ := double_le_iff.1 h
  obtain ⟨⟨-, hz⟩, lt⟩ := double_lt_iff.1 h'
  exact double_lt_iff.2 ⟨⟨hx, hz⟩, le.trans_lt lt⟩

theorem single_le_iff {x y : Float32} : x ≤ y ↔
    (ofSingle x ≠ .notANumber ∧ ofSingle y ≠ .notANumber) ∧
      rank (ofSingle x) ≤ rank (ofSingle y) := by
  have h : x ≤ y ↔ (ofSingle x).le (ofSingle y) := by
    simp only [LE.le, Float32.le, decide_eq_true_eq]
    rfl
  rw [h, le_iff (canonical_ofSingle x) (canonical_ofSingle y)]

/-- The order in which distances are ranked is that of their places. -/
theorem compareDistance_compares (hx : IsNumber x) (hy : IsNumber y) :
    (compareDistance x y).Compares (place x) (place y) := by
  have hlt : x < y ↔ place x < place y := double_lt_iff.trans (and_iff_right ⟨hx, hy⟩)
  have hbeq : x == y ↔ place x = place y := double_beq_iff.trans (and_iff_right ⟨hx, hy⟩)
  rw [compareDistance]
  split_ifs with h1 h2
  · exact hlt.1 h1
  · exact hbeq.1 h2
  · exact lt_of_le_of_ne (not_lt.1 (mt hlt.2 h1)) (Ne.symm (mt hbeq.2 h2))

/-! ## Distances -/

/-- The distance between two positions is computed step by step, and each step is stored. -/
theorem ofDouble_distanceTo (p q : Position) : ofDouble (p.distanceTo q) =
    storedSqrt .binary64 (storedSquare .binary64 (p.map ofDouble) (q.map ofDouble)) := rfl

/-- A position whose coordinates are finite. -/
def IsFinite (p : Position) : Prop := OnAxes (fun x : Float => x.isFinite) p

theorem IsFinite.isReal {p : Position} (h : IsFinite p) :
    OnAxes (IsReal .binary64) (p.map ofDouble) :=
  ⟨⟨canonical_ofDouble _, h.x⟩, ⟨canonical_ofDouble _, h.y⟩, ⟨canonical_ofDouble _, h.z⟩⟩

variable {p q : Position}

theorem IsFinite.isNumber (h : IsFinite p) : OnAxes IsNumber p :=
  h.imp fun h => (IsReal.mk (canonical_ofDouble _) h).ne_notANumber

/-- To a finite position the distance is not negative, though it may be infinite. -/
theorem distanceTo_isNonneg (hp : OnAxes IsNumber p) (hq : IsFinite q) :
    IsNonneg (ofDouble (p.distanceTo q)) := by
  rw [ofDouble_distanceTo]
  exact storedSqrt_isNonneg (storedSquare_isNonneg
    ⟨⟨canonical_ofDouble _, hp.x⟩, ⟨canonical_ofDouble _, hp.y⟩, ⟨canonical_ofDouble _, hp.z⟩⟩
    hq.isReal)

/-- From a point with a coordinate which is NaN, all distances are NaN. -/
theorem distanceTo_isNaN (hp : ¬OnAxes IsNumber p) : ¬IsNumber (p.distanceTo q) := by
  have h : ofDouble p.x = .notANumber ∨ ofDouble p.y = .notANumber ∨
      ofDouble p.z = .notANumber := by
    by_contra h
    simp only [not_or] at h
    exact hp ⟨h.1, h.2.1, h.2.2⟩
  rw [IsNumber, not_ne_iff, ofDouble_distanceTo, storedSquare_notANumber h]
  exact repack_notANumber

end Astrogation.Floating
