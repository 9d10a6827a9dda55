import Astrogation.Route.Basic

/-!
# Coming to the same system again

A route under construction may come to a system twice; `Route.distinct` keeps the
first stop of each. Systems are told apart by their addresses, those without one
by their names, whatever the case of the letters.

Asking for a route again may give a slightly different one to the same place. A
stored route stays unless a fresh one leads elsewhere or has fewer stops
(`Route.offer`).
-/

namespace Astrogation.Route

variable {α : Type}

/-! ## Distinct stops -/

/-- The waypoints which are not at one of the addresses or names seen before, and
    of several with the same address or name the first. -/
def distinctFrom (addresses : List Address) (names : List String) :
    List (Waypoint α) → List (Waypoint α)
  | [] => []
  | w :: ws =>
    match w.address with
    | some a =>
      if addresses.contains a then distinctFrom addresses names ws
      else w :: distinctFrom (a :: addresses) names ws
    | none =>
      let name := Text.lowerAscii w.systemName
      if names.contains name then distinctFrom addresses names ws
      else w :: distinctFrom addresses (name :: names) ws

/-- The route without the stops whose address, or name if they have none, occurs
    at an earlier stop. -/
def distinct (r : Route α) : Route α := { r with waypoints := distinctFrom [] [] r.waypoints }

theorem distinctFrom_sublist (addresses : List Address) (names : List String)
    (ws : List (Waypoint α)) : (distinctFrom addresses names ws).Sublist ws := by
  fun_induction distinctFrom addresses names ws with
  | case1 => exact .slnil
  | case2 => apply List.Sublist.cons; assumption
  | case3 => apply List.Sublist.cons_cons; assumption
  | case4 => apply List.Sublist.cons; assumption
  | case5 => apply List.Sublist.cons_cons; assumption

/-! ## Continuity -/

/-- The address a route leads to, if it is known. -/
def goal? (r : Route α) : Option Address := r.destination?.bind (·.address)

/-- Whether two routes are known to lead to the same system. -/
def sameGoal (r s : Route α) : Bool :=
  match r.goal?, s.goal? with
  | some a, some b => a == b
  | _, _ => false

/-- Whether a fresh route takes the place of a stored one. -/
def supersedes (fresh stored : Route α) : Bool :=
  !(stored.sameGoal fresh) || fresh.size < stored.size

/-- Whether a fresh route takes the place of what is stored. -/
def replaces (fresh : Route α) : (stored : Option (Route α)) → Bool
  | none => true
  | some stored => fresh.supersedes stored

/-- The stored route after a fresh one has been offered. -/
def offer (stored : Option (Route α)) (fresh : Route α) : Route α :=
  match stored with
  | none => fresh
  | some stored => if fresh.supersedes stored then fresh else stored

end Astrogation.Route
