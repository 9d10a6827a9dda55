import Astrogation.Route.Distance
import Mathlib.Data.List.Forall2

/-!
# Stamped routes

The stamps of a stop depend on the coordinates of the stops and on the origin of
the route, and on nothing else that is recorded of a stop: neither on earlier
stamps (`stamped_stamped`) nor on which stops are visited (`stamped_of_sameButVisited`).
-/

namespace Astrogation

variable {α β : Type}

namespace Waypoint

/-- A stop without stamps. -/
def unstamped (w : Waypoint α) : Waypoint α :=
  { w with fromStart := none, travelled := none, remaining := none }

/-- A stop without anything that a route records of it. -/
def bare (w : Waypoint α) : Waypoint α :=
  { w.unstamped with visited := false, missionIds := [], isMissionSystem := false }

/-- `v` is `w` but for whether it is visited. -/
def SameButVisited (w v : Waypoint α) : Prop := v = { w with visited := v.visited }

@[simp]
theorem unstamped_unstamped (w : Waypoint α) : w.unstamped.unstamped = w.unstamped := rfl

@[simp]
theorem coordinates_unstamped (w : Waypoint α) : w.unstamped.coordinates = w.coordinates := rfl

/-- To visit a stop changes nothing but what the route records of it. -/
@[simp]
theorem bare_intoVisited (w : Waypoint α) : w.intoVisited.bare = w.bare := rfl

@[simp]
theorem coordinates_bare (w : Waypoint α) : w.bare.coordinates = w.coordinates := rfl

@[simp]
theorem address_bare (w : Waypoint α) : w.bare.address = w.address := rfl

@[simp]
theorem address_intoVisited (w : Waypoint α) : w.intoVisited.address = w.address := rfl

@[simp]
theorem visited_intoVisited (w : Waypoint α) : w.intoVisited.visited = true := rfl

theorem SameButVisited.refl (w : Waypoint α) : w.SameButVisited w := rfl

theorem sameButVisited_intoVisited (w : Waypoint α) : w.SameButVisited w.intoVisited := rfl

theorem SameButVisited.coordinates {w v : Waypoint α} (h : w.SameButVisited v) :
    v.coordinates = w.coordinates := by
  rw [SameButVisited] at h
  rw [h]

theorem SameButVisited.address {w v : Waypoint α} (h : w.SameButVisited v) :
    v.address = w.address := by
  rw [SameButVisited] at h
  rw [h]

end Waypoint

namespace Route

variable [Scalar α] (r : Route α)

/-! ## What stamps leave alone -/

/-- Stamps change nothing else of a stop, from any stop of the route on. -/
theorem map_stampFrom {f : Waypoint α → β}
    (hf : ∀ total travelled w, f (r.stamp total travelled w) = f w) (total travelled : α)
    (w : Waypoint α) (ws : List (Waypoint α)) :
    (r.stampFrom total travelled w ws).map f = (w :: ws).map f := by
  induction ws generalizing w travelled with
  | nil => rw [stampFrom, List.map_singleton, hf, List.map_singleton]
  | cons v rest ih => rw [stampFrom, List.map_cons, hf, ih, ← List.map_cons]

/-- What is not a stamp stays as it was. -/
theorem map_stamped {f : Waypoint α → β}
    (hf : ∀ total travelled w, f (r.stamp total travelled w) = f w) :
    r.stamped.waypoints.map f = r.waypoints.map f := by
  rw [stamped]
  split
  · rfl
  · next h => rw [r.map_stampFrom hf, h]

/-! ## What stamps depend on -/

/-- The legs of a route depend on the coordinates of its stops. -/
theorem legsFrom_congr {w v : Waypoint α} {ws vs : List (Waypoint α)}
    (h : (w :: ws).map (·.coordinates) = (v :: vs).map (·.coordinates)) :
    legsFrom w ws = legsFrom v vs := by
  induction ws generalizing w v vs with
  | nil =>
    cases vs with
    | nil => rfl
    | cons => simp at h
  | cons w' ws ih =>
    cases vs with
    | nil => simp at h
    | cons v' vs =>
      obtain ⟨here, rest⟩ := List.cons.inj h
      have there : w'.coordinates = v'.coordinates := (List.cons.inj rest).1
      rw [legsFrom, legsFrom, ih rest, Waypoint.leg, Waypoint.leg, show w.coordinates = _ from here,
        there]

/-- The length of a route depends on the coordinates of its stops. -/
theorem totalDistance_congr {r s : Route α}
    (h : r.waypoints.map (·.coordinates) = s.waypoints.map (·.coordinates)) :
    r.totalDistance = s.totalDistance := by
  have same : legs r.waypoints = legs s.waypoints := by
    cases hr : r.waypoints with
    | nil =>
      rw [hr, List.map_nil, eq_comm, List.map_eq_nil_iff] at h
      rw [h]
    | cons w ws =>
      cases hs : s.waypoints with
      | nil =>
        rw [hr, hs] at h
        cases h
      | cons v vs =>
        rw [hr, hs] at h
        exact legsFrom_congr h
  rw [totalDistance, totalDistance, same]

theorem stamp_unstamped (total travelled : α) (w : Waypoint α) :
    r.stamp total travelled w.unstamped = r.stamp total travelled w := rfl

/-- Stamping a stop depends on the stop without its stamps. -/
theorem stamp_congr {r s : Route α} (origin : r.origin = s.origin) (total travelled : α)
    {w v : Waypoint α} (h : w.unstamped = v.unstamped) :
    r.stamp total travelled w = s.stamp total travelled v := by
  rw [← r.stamp_unstamped, ← s.stamp_unstamped, h, stamp, stamp, distanceFromOrigin?,
    distanceFromOrigin?, origin]

omit [Scalar α] in
theorem coordinates_of_unstamped {w v : Waypoint α} (h : w.unstamped = v.unstamped) :
    w.coordinates = v.coordinates := by
  rw [← w.coordinates_unstamped, h, v.coordinates_unstamped]

/-- The stamps from a stop on depend on the stops without their stamps. -/
theorem stampFrom_congr {r s : Route α} (origin : r.origin = s.origin) (total travelled : α)
    {w v : Waypoint α} {ws vs : List (Waypoint α)}
    (h : (w :: ws).map Waypoint.unstamped = (v :: vs).map Waypoint.unstamped) :
    r.stampFrom total travelled w ws = s.stampFrom total travelled v vs := by
  induction ws generalizing w v vs travelled with
  | nil =>
    cases vs with
    | nil => rw [stampFrom, stampFrom, stamp_congr origin total travelled (List.cons.inj h).1]
    | cons => simp at h
  | cons w' ws ih =>
    cases vs with
    | nil => simp at h
    | cons v' vs =>
      obtain ⟨here, rest⟩ := List.cons.inj h
      have leg : w.leg w' = v.leg v' := by
        rw [Waypoint.leg, Waypoint.leg, coordinates_of_unstamped here,
          coordinates_of_unstamped (List.cons.inj rest).1]
      rw [stampFrom, stampFrom, stamp_congr origin total travelled here, leg, ih _ rest]

/-- The stamps of a route depend on its origin and on its stops without their stamps. -/
theorem stamped_congr {r s : Route α} (origin : r.origin = s.origin)
    (h : r.waypoints.map Waypoint.unstamped = s.waypoints.map Waypoint.unstamped) :
    r.stamped = s.stamped := by
  have total : r.totalDistance = s.totalDistance := totalDistance_congr <| by
    have := congrArg (List.map fun w : Waypoint α => w.coordinates) h
    rwa [List.map_map, List.map_map] at this
  -- Both routes have stops, or neither has.
  rcases r with ⟨_ | ⟨w, ws⟩, o⟩ <;> rcases s with ⟨_ | ⟨v, vs⟩, p⟩
  · rw [show o = p from origin]
  · simp at h
  · simp at h
  · have same := stampFrom_congr origin (totalDistance ⟨w :: ws, o⟩) 0 h
    rw [stamped, stamped]
    dsimp only
    rw [same, total, show o = p from origin]

/-- Stamping a route again changes nothing. -/
theorem stamped_stamped : r.stamped.stamped = r.stamped :=
  stamped_congr r.origin_stamped (r.map_stamped fun _ _ _ => rfl)

/-! ## Visiting a stop -/

theorem stamp_sameButVisited {r s : Route α} (origin : r.origin = s.origin) {total travelled : α}
    {w v : Waypoint α} (h : w.SameButVisited v) (hw : r.stamp total travelled w = w) :
    s.stamp total travelled v = v := by
  rw [Waypoint.SameButVisited] at h
  calc s.stamp total travelled v
      = { r.stamp total travelled w with visited := v.visited } := by
        rw [h, stamp, stamp, distanceFromOrigin?, distanceFromOrigin?, origin]
    _ = v := by rw [hw, ← h]

theorem leg_sameButVisited {w v w' v' : Waypoint α} (h : w.SameButVisited v)
    (h' : w'.SameButVisited v') : v.leg v' = w.leg w' := by
  rw [Waypoint.leg, Waypoint.leg, h.coordinates, h'.coordinates]

/-- If stamping the stops from one on changes nothing, it also changes nothing after other stops
    have been visited. -/
theorem stampFrom_sameButVisited {r s : Route α} (origin : r.origin = s.origin)
    {total travelled : α} {w v : Waypoint α} {ws vs : List (Waypoint α)}
    (h : w.SameButVisited v) (hs : List.Forall₂ Waypoint.SameButVisited ws vs)
    (fixed : r.stampFrom total travelled w ws = w :: ws) :
    s.stampFrom total travelled v vs = v :: vs := by
  induction hs generalizing w v travelled with
  | nil =>
    rw [stampFrom] at fixed ⊢
    rw [stamp_sameButVisited origin h (List.cons.inj fixed).1]
  | cons h' _ ih =>
    rw [stampFrom] at fixed ⊢
    obtain ⟨here, rest⟩ := List.cons.inj fixed
    rw [stamp_sameButVisited origin h here, leg_sameButVisited h h', ih h' rest]

omit [Scalar α] in
theorem map_coordinates_sameButVisited {ws vs : List (Waypoint α)}
    (h : List.Forall₂ Waypoint.SameButVisited ws vs) :
    vs.map (·.coordinates) = ws.map (·.coordinates) := by
  induction h with
  | nil => rfl
  | cons h _ ih => rw [List.map_cons, List.map_cons, h.coordinates, ih]

/-- A stamped route stays stamped whichever stops are marked as visited. -/
theorem stamped_of_sameButVisited {ws : List (Waypoint α)} (fixed : r.stamped = r)
    (h : List.Forall₂ Waypoint.SameButVisited r.waypoints ws) :
    ({ r with waypoints := ws } : Route α).stamped = { r with waypoints := ws } := by
  have total : ({ r with waypoints := ws } : Route α).totalDistance = r.totalDistance :=
    totalDistance_congr (map_coordinates_sameButVisited h)
  rcases r with ⟨stops, o⟩
  cases h with
  | nil => rfl
  | @cons w v ws vs h hs =>
    rw [stamped] at fixed ⊢
    rw [mk.injEq] at fixed
    dsimp only at total ⊢
    rw [total, stampFrom_sameButVisited (r := ⟨w :: ws, o⟩) (s := ⟨v :: vs, o⟩) rfl h hs fixed.1]

end Route

end Astrogation
