import Astrogation.Space.Waypoint

/-!
# Routes

A `Route` lists waypoints in the order in which they are to be visited; nothing
here sorts them. Apart from the waypoints it remembers its *origin*, the position
from which it was planned.
-/

namespace Astrogation

/-- The stops of a journey in order, and the position it was planned from. -/
structure Route (α : Type := Float) where
  waypoints : List (Waypoint α) := []
  origin : Option (Position α) := none
  deriving BEq, Repr

namespace Route

variable {α : Type}

/-- The route through waypoints which are in travel order: its origin is the
    position of the first. -/
def ofWaypoints (ws : List (Waypoint α)) : Route α := ⟨ws, ws.head?.bind (·.position?)⟩

/-- A route with one more stop at its end. -/
def push (r : Route α) (w : Waypoint α) : Route α := { r with waypoints := r.waypoints ++ [w] }

/-- The number of stops. -/
def size (r : Route α) : Nat := r.waypoints.length

/-- The number of legs. -/
def jumps (r : Route α) : Nat := r.size - 1

/-- The last stop. -/
def destination? (r : Route α) : Option (Waypoint α) := r.waypoints.getLast?

/-- The first stop that is not visited yet. -/
def nextUnvisited? (r : Route α) : Option (Waypoint α) := r.waypoints.find? (!·.visited)

/-- Whether a system is known to be on the route. -/
def contains (r : Route α) (address : Address) : Bool := r.waypoints.any (·.hasAddress address)

/-- The stops, those up to and including the first at `address` marked as
    visited; none if no stop is there. -/
def visitThrough? (address : Address) : List (Waypoint α) → Option (List (Waypoint α))
  | [] => none
  | w :: ws =>
    if w.hasAddress address then some (w.intoVisited :: ws)
    else (visitThrough? address ws).map (w.intoVisited :: ·)

/-- The route with every stop up to and including the first at `address` marked
    as visited; none if the system is not on the route. -/
def markVisitedThrough? (r : Route α) (address : Address) : Option (Route α) :=
  (visitThrough? address r.waypoints).map fun ws => { r with waypoints := ws }

@[simp]
theorem waypoints_push (r : Route α) (w : Waypoint α) :
    (r.push w).waypoints = r.waypoints ++ [w] := rfl

@[simp]
theorem origin_push (r : Route α) (w : Waypoint α) : (r.push w).origin = r.origin := rfl

/-- Marking fails only if the system is not on the route. -/
theorem visitThrough?_eq_none_iff {address : Address} {ws : List (Waypoint α)} :
    visitThrough? address ws = none ↔ ws.any (·.hasAddress address) = false := by
  induction ws with
  | nil => simp [visitThrough?]
  | cons w ws ih => by_cases h : w.hasAddress address <;> simp_all [visitThrough?]

end Route

end Astrogation
