import Astrogation.Route.Basic

/-!
# Distances along a route

A route is as long as the sum of its legs, a leg of unknown length counting as
zero. Before a route is published each stop is stamped with what lies behind it
and ahead of it (`Route.stamped`): the length travelled, the length remaining,
and the distance from the origin in a straight line.
-/

namespace Astrogation.Route

variable {α : Type} [Scalar α]

/-- The lengths of the legs from a stop through those after it. -/
def legsFrom : Waypoint α → List (Waypoint α) → List α
  | _, [] => []
  | w, v :: rest => w.leg v :: legsFrom v rest

/-- The lengths of the legs, in order. -/
def legs : List (Waypoint α) → List α
  | [] => []
  | w :: ws => legsFrom w ws

/-- The length of the route. -/
def totalDistance (r : Route α) : α := (legs r.waypoints).foldl (· + ·) 0

/-- The distance of a waypoint from the origin of the route, in a straight line. -/
def distanceFromOrigin? (r : Route α) (w : Waypoint α) : Option α :=
  r.origin.bind fun o => o.coordinates.distance? w.coordinates

/-- A difference of lengths, which is not below zero. -/
def clamped (d : α) : α := if 0 < d then d else 0

/-- A stop stamped with its distances, on a route of length `total`. -/
def stamp (r : Route α) (total travelled : α) (w : Waypoint α) : Waypoint α :=
  { w with
    fromStart := r.distanceFromOrigin? w
    travelled := some travelled
    remaining := some (clamped (total - travelled)) }

/-- A stop, reached after `travelled`, and those after it, stamped with their
    distances. -/
def stampFrom (r : Route α) (total : α) :
    (travelled : α) → Waypoint α → List (Waypoint α) → List (Waypoint α)
  | travelled, w, [] => [r.stamp total travelled w]
  | travelled, w, v :: rest =>
    r.stamp total travelled w :: stampFrom r total (travelled + w.leg v) v rest

/-- The route with every stop stamped with its distances. -/
def stamped (r : Route α) : Route α :=
  match r.waypoints with
  | [] => r
  | w :: ws => { r with waypoints := r.stampFrom r.totalDistance 0 w ws }

@[simp]
theorem length_stampFrom (r : Route α) (total travelled : α) (w : Waypoint α)
    (ws : List (Waypoint α)) : (r.stampFrom total travelled w ws).length = ws.length + 1 := by
  induction ws generalizing w travelled with
  | nil => rfl
  | cons v rest ih => simp [stampFrom, ih]

@[simp]
theorem origin_stamped (r : Route α) : r.stamped.origin = r.origin := by
  unfold stamped
  split <;> rfl

@[simp]
theorem size_stamped (r : Route α) : r.stamped.size = r.size := by
  unfold stamped size
  split
  · rfl
  · next h => simp [h]

end Astrogation.Route
