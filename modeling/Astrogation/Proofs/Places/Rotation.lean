import Astrogation.Proofs.Places.Tour
import Astrogation.Proofs.Tour.Greedy

/-!
# Tours read from another place on

A tour is turned so that one of its places comes first, or last (`Tour.toFront`, `Tour.toBack`).
What is read then is still the same cycle: the places in a rotated order, with the length that was
recorded, and as long in exact arithmetic (`Tour.Reads`). As no place comes twice, there is only
one rotation that leads with a place or ends there (`eq_of_isRotated_of_head?`,
`eq_of_isRotated_of_getLast?`).

The length of a cycle is summed up by places, where the one after the last is the first, counted
on modulo their number (`Grid.cycleLength`). Neither this nor a rotation goes out of range: on the
grid of a matrix it gives the length of the cycle (`Grid.cycleLength_ofMatrix`), and the trip that
is turned is that of the tour which is turned (`Trip.toFront_ofTour`, `Trip.toBack_ofTour`).
-/

namespace Astrogation

variable {α β : Type} {n : Nat}

/-! ## The only rotation -/

theorem eq_of_isRotated_of_head? {x : α} {xs ys : List α} (nodup : xs.Nodup)
    (rotated : xs.IsRotated ys) (hx : xs.head? = some x) (hy : ys.head? = some x) : xs = ys := by
  obtain ⟨xs, rfl⟩ := List.head?_eq_some_iff.1 hx
  obtain ⟨ys, rfl⟩ := List.head?_eq_some_iff.1 hy
  rw [eq_of_isRotated_cons nodup rotated]

theorem eq_of_isRotated_of_getLast? {x : α} {xs ys : List α} (nodup : xs.Nodup)
    (rotated : xs.IsRotated ys) (hx : xs.getLast? = some x) (hy : ys.getLast? = some x) :
    xs = ys := by
  rw [← List.head?_reverse] at hx hy
  exact List.reverse_injective <|
    eq_of_isRotated_of_head? (List.nodup_reverse.2 nodup) rotated.reverse hx hy

/-! ## Cycles by places -/

/-- Around a cycle, from each place to the one after it, counted on modulo their number. -/
theorem around_eq_map (d : α → α → β) (xs : List α) :
    around d xs = (List.finRange xs.length).map fun i =>
      d (xs.get i) (xs.get ⟨(i + 1) % xs.length, Nat.mod_lt _ i.pos⟩) := by
  refine List.ext_getElem (by simp [around]) fun i hi _ => ?_
  simp [around, List.getElem_rotate]

/-- In exact arithmetic, the length of a cycle is the sum of these legs. -/
theorem Matrix.cycleLength_eq_sum (m : Matrix n ℝ) {order : List (Fin n)}
    (several : 1 < order.length) :
    m.cycleLength order = ∑ i : Fin order.length,
      m.get (order.get i) (order.get ⟨(i + 1) % order.length, Nat.mod_lt _ i.pos⟩) := by
  rw [m.cycleLength_eq_foldl several, ← List.sum_eq_foldl, around_eq_map]
  exact (Fin.sum_univ_def _).symm

namespace Grid

/-- The length of the closed cycle through places in this order, zero for fewer than two. -/
def cycleLength (g : Grid) (order : List Nat) : Call Float :=
  let count := order.length
  if count < 2 then return 0
  else
    (List.range count).foldlM (fun length i => do
      let start ← Call.member order i
      let goal ← Call.member order ((i + 1) % count)
      let leg ← g.distance start goal
      return length + leg) 0

/-- Along a tour of a matrix, no leg is out of range. -/
theorem cycleLength_ofMatrix (m : Matrix n) (order : List (Fin n)) :
    (ofMatrix m).cycleLength (order.map (·.val)) = .reply (m.cycleLength order) := by
  have count : (order.map (·.val)).length = order.length := List.length_map _
  rw [cycleLength, count]
  split
  · next few =>
    match order, few with
    | [], _ => rfl
    | [i], _ => rfl
  · next several =>
    have member (i : Fin order.length) :
        Call.member (order.map (·.val)) i = .reply (order.get i).val :=
      Call.member_eq_reply (by simp)
    rw [m.cycleLength_eq_foldl (Nat.not_lt.1 several), around_eq_map, List.foldl_map,
      ← List.map_coe_finRange_eq_range]
    refine Call.foldlM_reply id Fin.val (fun i _ length => ?_) 0
    rw [member i, Call.reply_bind, member ⟨(i + 1) % order.length, Nat.mod_lt _ i.pos⟩,
      Call.reply_bind, distance_ofMatrix, Call.reply_bind]
    rfl

end Grid

/-! ## Turning a tour -/

namespace Tour

/-- A tour which reads the cycle of another: its order is rotated, its length is recorded as it
    was, and in exact arithmetic it is as long. -/
structure Reads (t' t : Tour n) : Prop where
  rotated : t'.order.IsRotated t.order
  total : t'.total = t.total
  length : ∀ m : Matrix n ℝ, m.cycleLength t'.order = m.cycleLength t.order

variable (t : Tour n)

theorem reads_toFront (position : Nat) : (t.toFront position).Reads t where
  rotated := t.isRotated_toFront position
  total := t.total_toFront position
  length m := m.cycleLength_of_isRotated (t.isRotated_toFront position)

theorem reads_toBack (place : Nat) : (t.toBack place).Reads t where
  rotated := t.isRotated_toBack place
  total := t.total_toBack place
  length m := m.cycleLength_of_isRotated (t.isRotated_toBack place)

theorem toBack_of_not_mem {place : Nat} (h : ∀ i ∈ t.order, i.val ≠ place) :
    t.toBack place = t := by
  have nowhere : t.positionOf? place = none :=
    List.findIdx?_eq_none_iff.2 fun i hi => beq_eq_false_iff_ne.2 (h i hi)
  rw [toBack, nowhere]

/-- Turned to the front, a tour begins with the place that was at the position, and turned to the
    back it ends with the place that is asked for; it reads the same cycle, and no other rotation
    of its order does so. If there is no such position or place, it stays as it is. A trip through
    places is turned likewise and stays in range, and so does the length of its cycle, which in
    exact arithmetic is the sum of the legs from each place to the next. -/
theorem turned_reads_cycle (nodup : t.order.Nodup) :
    (∀ position, ∀ inside : position < t.order.length,
      (t.toFront position).Reads t ∧
      (t.toFront position).order.head? = some t.order[position] ∧
      ∀ order : List (Fin n), order.IsRotated t.order → order.head? = some t.order[position] →
        order = (t.toFront position).order) ∧
    (∀ i ∈ t.order,
      (t.toBack i).Reads t ∧
      (t.toBack i).order.getLast? = some i ∧
      ∀ order : List (Fin n), order.IsRotated t.order → order.getLast? = some i →
        order = (t.toBack i).order) ∧
    (∀ position, t.order.length ≤ position → t.toFront position = t) ∧
    (∀ place, (∀ i ∈ t.order, i.val ≠ place) → t.toBack place = t) ∧
    (∀ position, (Trip.ofTour t).toFront position = .reply (.ofTour (t.toFront position))) ∧
    (∀ place, (Trip.ofTour t).toBack place = .reply (.ofTour (t.toBack place))) ∧
    (∀ m : Matrix n, (Grid.ofMatrix m).cycleLength (Trip.ofTour t).order =
      .reply (m.cycleLength t.order)) ∧
    (1 < t.order.length → ∀ m : Matrix n ℝ, m.cycleLength t.order =
      ∑ i : Fin t.order.length,
        m.get (t.order.get i) (t.order.get ⟨(i + 1) % t.order.length, Nat.mod_lt _ i.pos⟩)) := by
  refine ⟨fun position inside => ?_, fun i hi => ?_, fun position outside => ?_,
    fun place absent => t.toBack_of_not_mem absent, Trip.toFront_ofTour t, Trip.toBack_ofTour t,
    fun m => Grid.cycleLength_ofMatrix m t.order, fun several m => m.cycleLength_eq_sum several⟩
  · have reads := t.reads_toFront position
    have first : (t.toFront position).order.head? = some t.order[position] := by
      rw [toFront, if_pos inside]
      exact head?_rotate inside
    refine ⟨reads, first, fun order rotated head => ?_⟩
    have nodup' : order.Nodup := rotated.nodup_iff.2 nodup
    exact eq_of_isRotated_of_head? nodup' (rotated.trans reads.rotated.symm) head first
  · have reads := t.reads_toBack i
    have last := getLast?_toBack hi
    refine ⟨reads, last, fun order rotated getLast => ?_⟩
    have nodup' : order.Nodup := rotated.nodup_iff.2 nodup
    exact eq_of_isRotated_of_getLast? nodup' (rotated.trans reads.rotated.symm) getLast last
  · exact if_neg (Nat.not_lt.2 outside)

/-- A tour of the crossroads from the third place. -/
def acrossCrossroads : Tour 4 := ⟨[2, 0, 1, 3], 50⟩

/-- The tour ends at the last of its places as it is; it may be turned so that it begins there,
    or ends at the first. -/
theorem acrossCrossroads_turned :
    acrossCrossroads.order.Nodup ∧
      (acrossCrossroads.toFront 3).order = [3, 2, 0, 1] ∧
      (acrossCrossroads.toBack 2).order = [0, 1, 3, 2] ∧
      (acrossCrossroads.toBack 3).order = [2, 0, 1, 3] ∧
      acrossCrossroads.toFront 4 = acrossCrossroads ∧
      acrossCrossroads.toBack 7 = acrossCrossroads ∧
      (Grid.ofMatrix Matrix.crossroads).cycleLength (Trip.ofTour acrossCrossroads).order =
        .reply 50 := by
  have nodup : acrossCrossroads.order.Nodup := by decide
  obtain ⟨front, back, outside, absent, -, -, length, -⟩ :=
    acrossCrossroads.turned_reads_cycle nodup
  refine ⟨nodup, ?_, ?_, ?_, outside 4 (by decide), absent 7 (by decide), ?_⟩
  · exact ((front 3 (by decide)).2.2 [3, 2, 0, 1] (by decide) rfl).symm
  · exact ((back 2 (by decide)).2.2 [0, 1, 3, 2] (by decide) rfl).symm
  · exact ((back 3 (by decide)).2.2 [2, 0, 1, 3] (by decide) rfl).symm
  · rw [length Matrix.crossroads]
    exact congrArg Call.reply (by decide +kernel)

end Tour

end Astrogation
