import Astrogation.Proofs.Floating.Machine
import Astrogation.Proofs.Space.Exact

/-!
# The books of a route

The stamps of a route keep books of its legs. From one stop to the next the length travelled
grows by the leg between them (`isChain_stampFrom`), and at the last stop it has reached the
length of the route (`exists_getLast?_stampFrom`): the length of the route is the sum of the same
legs in the same order. So the books are right in any scalars in which nothing is left of a
number that is taken from itself (`isBooked_stamped`), be they rounded.

In exact arithmetic, where no leg is negative, the length travelled never decreases
(`pairwise_notBefore`). So it is nowhere more than the length of the route, and what remains
makes it up to that (`isMetered_stamped`).
-/

namespace Astrogation

/-! ## Right books -/

/-- `s` is `r` with right books, and otherwise unchanged: at its last stop the whole route has
    been travelled and nothing remains, every stop has the distance from the origin unless that
    is not known, and keeping the books again changes nothing. -/
structure Route.IsBooked {α : Type} [Scalar α] (r s : Route α) : Prop where
  origin : s.origin = r.origin
  stops : s.waypoints.map Waypoint.unstamped = r.waypoints.map Waypoint.unstamped
  arrival : ∀ w, s.destination? = some w →
    w.travelled = some r.totalDistance ∧ w.remaining = some 0
  straight : ∀ w ∈ s.waypoints, ∀ o p, r.origin = some o → w.position? = some p →
    w.fromStart = some (o.distanceTo p)
  unknown : ∀ w ∈ s.waypoints, w.fromStart = none ↔ r.origin = none ∨ w.position? = none
  again : s.stamped = s

/-- `v` is reached from `w` by one leg, which has no length if one of them has no position. -/
def Waypoint.IsLegTo (w v : Waypoint ℝ) : Prop :=
  ∃ d e, w.travelled = some d ∧ v.travelled = some e ∧
    (∀ p q, w.position? = some p → v.position? = some q → e = d + p.distanceTo q) ∧
    (w.position? = none ∨ v.position? = none → e = d)

/-- Whether no less has been travelled at `v` than at `w`. -/
def Waypoint.NotBefore (w v : Waypoint ℝ) : Prop :=
  ∃ d e, w.travelled = some d ∧ v.travelled = some e ∧ d ≤ e

/-- The lengths travelled along `s` start with zero and grow with every leg, never decrease, and
    add up with those that remain to the length of `r`. -/
structure Route.IsMetered (r s : Route ℝ) : Prop where
  start : ∀ w, s.waypoints.head? = some w → w.travelled = some 0
  legs : s.waypoints.IsChain Waypoint.IsLegTo
  increasing : s.waypoints.Pairwise Waypoint.NotBefore
  balance : ∀ w ∈ s.waypoints,
    ∃ d e, w.travelled = some d ∧ w.remaining = some e ∧ d + e = r.totalDistance

namespace Route

/-! ## Going along a route -/

section

variable {α : Type} [Scalar α] (r : Route α) (total travelled : α) (w : Waypoint α)
  (ws : List (Waypoint α))

theorem exists_stampFrom_eq_cons :
    ∃ rest, r.stampFrom total travelled w ws = r.stamp total travelled w :: rest := by
  cases ws <;> exact ⟨_, rfl⟩

/-- Every stop is stamped after some length. -/
theorem exists_of_mem_stampFrom {x : Waypoint α} (h : x ∈ r.stampFrom total travelled w ws) :
    ∃ d v, x = r.stamp total d v := by
  induction ws generalizing w travelled with
  | nil => exact ⟨_, _, List.mem_singleton.1 h⟩
  | cons v ws ih =>
    rcases List.mem_cons.1 h with rfl | h
    · exact ⟨_, _, rfl⟩
    · exact ih _ _ h

/-- From stop to stop, the length travelled grows by the leg between them. -/
theorem isChain_stampFrom :
    (r.stampFrom total travelled w ws).IsChain fun w v =>
      ∃ d, w.travelled = some d ∧ v.travelled = some (d + w.leg v) := by
  induction ws generalizing w travelled with
  | nil => exact List.isChain_singleton _
  | cons v ws ih =>
    have further := ih (travelled + w.leg v) v
    obtain ⟨rest, next⟩ := r.exists_stampFrom_eq_cons total (travelled + w.leg v) v ws
    rw [next] at further
    rw [stampFrom, next, List.isChain_cons_cons]
    exact ⟨⟨travelled, rfl, rfl⟩, further⟩

/-- At the last stop, all legs have been added to the length travelled. -/
theorem exists_getLast?_stampFrom :
    ∃ v, (r.stampFrom total travelled w ws).getLast? =
      some (r.stamp total ((legsFrom w ws).foldl (· + ·) travelled) v) := by
  induction ws generalizing w travelled with
  | nil => exact ⟨w, rfl⟩
  | cons v ws ih =>
    obtain ⟨last, ends⟩ := ih (travelled + w.leg v) v
    obtain ⟨rest, next⟩ := r.exists_stampFrom_eq_cons total (travelled + w.leg v) v ws
    refine ⟨last, ?_⟩
    rw [next] at ends
    rw [stampFrom, next, List.getLast?_cons_cons, ends]
    rfl

theorem exists_of_mem_stamped {x : Waypoint α} (h : x ∈ r.stamped.waypoints) :
    ∃ d v, x = r.stamp r.totalDistance d v := by
  rcases r with ⟨_ | ⟨w, ws⟩, o⟩
  · exact absurd h List.not_mem_nil
  · exact exists_of_mem_stampFrom _ _ _ _ _ h

theorem travelled_head?_stamped {x : Waypoint α} (h : r.stamped.waypoints.head? = some x) :
    x.travelled = some 0 := by
  rcases r with ⟨_ | ⟨w, _ | _⟩, o⟩
  · cases h
  all_goals
    obtain rfl := Option.some.inj h
    rfl

theorem isChain_stamped :
    r.stamped.waypoints.IsChain fun w v =>
      ∃ d, w.travelled = some d ∧ v.travelled = some (d + w.leg v) := by
  rcases r with ⟨_ | ⟨w, ws⟩, o⟩
  · exact .nil
  · exact isChain_stampFrom ..

theorem exists_destination?_stamped {x : Waypoint α} (h : r.stamped.destination? = some x) :
    ∃ v, x = r.stamp r.totalDistance r.totalDistance v := by
  rcases r with ⟨_ | ⟨w, ws⟩, o⟩
  · cases h
  · obtain ⟨v, ends⟩ := exists_getLast?_stampFrom ⟨w :: ws, o⟩ (totalDistance ⟨w :: ws, o⟩) 0 w ws
    exact ⟨v, Option.some.inj (h.symm.trans ends)⟩

/-- The books of a stamped route are right if nothing is left of a number that is taken from
    itself. -/
theorem isBooked_stamped (clear : ∀ x : α, ¬0 < x - x) : r.IsBooked r.stamped where
  origin := r.origin_stamped
  stops := r.map_stamped fun _ _ _ => rfl
  arrival w ends := by
    obtain ⟨v, rfl⟩ := r.exists_destination?_stamped ends
    exact ⟨rfl, congrArg some (if_neg (clear _))⟩
  straight w hw o p origin here := by
    obtain ⟨d, v, rfl⟩ := r.exists_of_mem_stamped hw
    have here : v.coordinates.position? = some p := here
    simp [stamp, distanceFromOrigin?, origin, Coordinates.distance?, here]
  unknown w hw := by
    obtain ⟨d, v, rfl⟩ := r.exists_of_mem_stamped hw
    have same : (r.stamp r.totalDistance d v).position? = v.coordinates.position? := rfl
    rw [same, stamp, distanceFromOrigin?]
    rcases r.origin with _ | o
    · simp
    · rcases h : v.coordinates.position? <;> simp [Coordinates.distance?, h]
  again := r.stamped_stamped

end

/-! ## Exact arithmetic -/

theorem leg_nonneg (w v : Waypoint ℝ) : 0 ≤ w.leg v := by
  rw [Waypoint.leg, Coordinates.leg, Coordinates.distance?]
  split
  · exact Position.distanceTo_nonneg _ _
  · exact le_rfl

theorem isLegTo_of_leg {w v : Waypoint ℝ}
    (h : ∃ d, w.travelled = some d ∧ v.travelled = some (d + w.leg v)) : w.IsLegTo v := by
  obtain ⟨d, hw, hv⟩ := h
  refine ⟨d, _, hw, hv, fun p q hp hq => ?_, fun unknown => ?_⟩
  · have leg : w.leg v = p.distanceTo q := by
      rw [Waypoint.position?] at hp hq
      simp [Waypoint.leg, Coordinates.leg, Coordinates.distance?, hp, hq]
    rw [leg]
  · have leg : w.leg v = 0 := by
      rw [Waypoint.position?, Waypoint.position?] at unknown
      rw [Waypoint.leg, Coordinates.leg, Coordinates.distance?]
      split
      · next hp hq => simp [hp, hq] at unknown
      · rfl
    rw [leg, add_zero]

theorem clamped_of_nonneg {d : ℝ} (h : 0 ≤ d) : clamped d = d := by
  rw [clamped]
  split
  · rfl
  · next h' => exact h.antisymm (not_lt.1 h')

instance : Trans Waypoint.NotBefore Waypoint.NotBefore Waypoint.NotBefore where
  trans := by
    rintro u v w ⟨d, e, hu, hv, le⟩ ⟨e', f, hv', hw, le'⟩
    obtain rfl := Option.some.inj (hv.symm.trans hv')
    exact ⟨d, f, hu, hw, le.trans le'⟩

theorem notBefore_of_leg {w v : Waypoint ℝ}
    (h : ∃ d, w.travelled = some d ∧ v.travelled = some (d + w.leg v)) : w.NotBefore v := by
  obtain ⟨d, hw, hv⟩ := h
  exact ⟨d, _, hw, hv, le_add_of_nonneg_right (leg_nonneg w v)⟩

theorem pairwise_notBefore (r : Route ℝ) :
    r.stamped.waypoints.Pairwise Waypoint.NotBefore :=
  (r.isChain_stamped.imp fun _ _ => notBefore_of_leg).pairwise

/-- Nowhere has more been travelled than at the last stop. -/
theorem exists_le_of_mem_stamped (r : Route ℝ) {w : Waypoint ℝ} (hw : w ∈ r.stamped.waypoints) :
    ∃ d ≤ r.totalDistance,
      w.travelled = some d ∧ w.remaining = some (clamped (r.totalDistance - d)) := by
  obtain ⟨d, v, rfl⟩ := r.exists_of_mem_stamped hw
  -- At the last stop the whole route has been travelled, and no stop is after it.
  have ends := List.getLast?_eq_some_getLast (List.ne_nil_of_mem hw)
  obtain ⟨last, same⟩ := r.exists_destination?_stamped ends
  have arrived := congrArg Waypoint.travelled same
  obtain ⟨d', e, here, there, le⟩ := r.pairwise_notBefore.rel_getLast_of_rel_getLast_getLast hw
    ⟨_, _, arrived, arrived, le_rfl⟩
  obtain rfl := Option.some.inj here
  obtain rfl := Option.some.inj (arrived.symm.trans there)
  exact ⟨d, le, rfl, rfl⟩

theorem isMetered_stamped (r : Route ℝ) : r.IsMetered r.stamped where
  start w h := r.travelled_head?_stamped h
  legs := r.isChain_stamped.imp fun _ _ => isLegTo_of_leg
  increasing := r.pairwise_notBefore
  balance w hw := by
    obtain ⟨d, le, travelled, remaining⟩ := r.exists_le_of_mem_stamped hw
    rw [clamped_of_nonneg (sub_nonneg.2 le)] at remaining
    exact ⟨d, _, travelled, remaining, add_sub_cancel d _⟩

/-- Whichever coordinates are not known, the books of a stamped route are right: in floating-point
    arithmetic, whatever is rounded, and in exact arithmetic, where they also follow its legs. -/
theorem stamped_keeps_books :
    (∀ r : Route, r.IsBooked r.stamped) ∧
      ∀ r : Route ℝ, r.IsBooked r.stamped ∧ r.IsMetered r.stamped :=
  ⟨fun r => r.isBooked_stamped Floating.double_not_pos_sub_self,
    fun r => ⟨r.isBooked_stamped fun x => by rw [sub_self]; exact lt_irrefl 0, isMetered_stamped r⟩⟩

/-- A stop without a position is reached and left by legs of no length. -/
example :
    let r : Route := .ofWaypoints
      [{ systemName := "Sol", coordinates := Position.coordinates ⟨0, 0, 0⟩ },
        { systemName := "Lave", coordinates := Position.coordinates ⟨3, 4, 0⟩ },
        { systemName := "Nowhere" },
        { systemName := "Colonia", coordinates := Position.coordinates ⟨3, 14, 0⟩ }]
    r.stamped.waypoints.map (·.travelled) == [some 0, some 5, some 5, some 5] := by
  decide +kernel

end Route

end Astrogation
