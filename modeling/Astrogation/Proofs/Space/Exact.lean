import Astrogation.Proofs.Route.Stamped
import Mathlib

/-!
# Exact arithmetic

The real numbers are scalars, in which distances are symmetric (`Position.distanceTo_comm`)
and a route is as long as the sum of its legs (`Route.totalDistance_eq_sum`). What is given
in scalars of one kind is read in another by a map of the scalars (`Waypoint.map`,
`Route.map`); which numbers the map makes of the floating-point numbers does not matter for
what is proved in exact arithmetic.
-/

namespace Astrogation

noncomputable instance : Scalar ℝ where
  sqrt := Real.sqrt
  decidableLt := inferInstance

variable {α β : Type}

/-! ## Other scalars -/

/-- A position in other scalars. -/
def Position.map (f : α → β) (p : Position α) : Position β := ⟨f p.x, f p.y, f p.z⟩

/-- Coordinates in other scalars. -/
def Coordinates.map (f : α → β) (c : Coordinates α) : Coordinates β :=
  ⟨c.x.map f, c.y.map f, c.z.map f⟩

/-- A stop in other scalars. -/
def Waypoint.map (f : α → β) (w : Waypoint α) : Waypoint β :=
  { w with
    coordinates := w.coordinates.map f
    fromStart := w.fromStart.map f
    travelled := w.travelled.map f
    remaining := w.remaining.map f }

/-- A route in other scalars. -/
def Route.map (f : α → β) (r : Route α) : Route β :=
  ⟨r.waypoints.map (Waypoint.map f), r.origin.map (Position.map f)⟩

/-! ## Distances -/

namespace Position

variable (p q : Position ℝ)

/-- The distance between two positions is that of Euclid. -/
theorem distanceTo_eq :
    p.distanceTo q = √((p.x - q.x) ^ 2 + (p.y - q.y) ^ 2 + (p.z - q.z) ^ 2) := by
  rw [sq, sq, sq]
  rfl

/-- Two positions are as far apart from either end. -/
theorem distanceTo_comm : p.distanceTo q = q.distanceTo p := by
  rw [distanceTo_eq, distanceTo_eq, sub_sq_comm p.x, sub_sq_comm p.y, sub_sq_comm p.z]

theorem distanceTo_self : p.distanceTo p = 0 := by
  simp [distanceTo_eq]

theorem distanceTo_nonneg : 0 ≤ p.distanceTo q := by
  rw [distanceTo_eq]
  exact Real.sqrt_nonneg _

theorem distanceTo_sq :
    p.distanceTo q ^ 2 =
      (p.x - q.x) * (p.x - q.x) + (p.y - q.y) * (p.y - q.y) + (p.z - q.z) * (p.z - q.z) := by
  rw [distanceTo_eq, Real.sq_sqrt (by positivity), sq, sq, sq]

/-- Two positions are at least as far apart as they are along each axis. -/
theorem abs_sub_le_distanceTo :
    |p.x - q.x| ≤ p.distanceTo q ∧ |p.y - q.y| ≤ p.distanceTo q ∧ |p.z - q.z| ≤ p.distanceTo q := by
  have hx := mul_self_nonneg (p.x - q.x)
  have hy := mul_self_nonneg (p.y - q.y)
  have hz := mul_self_nonneg (p.z - q.z)
  have h := distanceTo_sq p q
  refine ⟨?_, ?_, ?_⟩ <;> refine abs_le_of_sq_le_sq ?_ (distanceTo_nonneg p q) <;> linarith

/-- Positions whose differences along each axis are a little larger are a little farther apart. -/
theorem distanceTo_le_add {p q p' q' : Position ℝ} {δ : ℝ} (hδ : 0 ≤ δ)
    (hx : |p'.x - q'.x| ≤ |p.x - q.x| + δ) (hy : |p'.y - q'.y| ≤ |p.y - q.y| + δ)
    (hz : |p'.z - q'.z| ≤ |p.z - q.z| + δ) :
    p'.distanceTo q' ≤ p.distanceTo q + 7 / 4 * δ := by
  have h := distanceTo_sq p q
  have h' := distanceTo_sq p' q'
  have hn := distanceTo_nonneg p q
  simp only [← abs_mul_abs_self (_ - _)] at h h'
  have hx' := mul_self_le_mul_self (abs_nonneg _) hx
  have hy' := mul_self_le_mul_self (abs_nonneg _) hy
  have hz' := mul_self_le_mul_self (abs_nonneg _) hz
  have hsum : |p.x - q.x| + |p.y - q.y| + |p.z - q.z| ≤ 7 / 4 * p.distanceTo q := by
    refine le_of_sq_le_sq ?_ (by linarith)
    nlinarith [sq_nonneg (|p.x - q.x| - |p.y - q.y|), sq_nonneg (|p.y - q.y| - |p.z - q.z|),
      sq_nonneg (|p.x - q.x| - |p.z - q.z|), sq_nonneg (p.distanceTo q)]
  have hδsum := mul_le_mul_of_nonneg_left hsum hδ
  refine le_of_sq_le_sq ?_ (by linarith)
  nlinarith [sq_nonneg δ]

end Position

/-! ## Lengths -/

namespace Route

variable [Scalar α]

/-- The leg by which a route would return from its last stop to its first. -/
def closingLeg (r : Route α) : α :=
  match r.waypoints.getLast?, r.waypoints.head? with
  | some last, some first => last.leg first
  | _, _ => 0

/-- A route is as long as its legs together. -/
theorem totalDistance_eq_sum (r : Route ℝ) : r.totalDistance = (legs r.waypoints).sum :=
  (List.sum_eq_foldl ..).symm

end Route

end Astrogation
