import Astrogation.Resolver.Basic
import Astrogation.Tour.NearestNeighbour

/-!
# Mission circuits

The query *route* is answered by a circuit through the start and every system
which serves a mission that is active and eligible: first the origins to which
missions have to return, then the destinations, in the order of the missions. A
home system, named by the first argument, may close the circuit.

The circuit is the best nearest-neighbour tour; a system at which a mission ends
that has to return to its origin may not start it. The tour is then laid out so
that it leads with the start or, if there is a home, ends there. The start always
comes first on the route: it is put in front if the tour does not begin with it.
-/

namespace Astrogation

/-- A system that a circuit goes through. -/
structure CircuitStop where
  waypoint : Waypoint
  position : Position

/-- A waypoint as a stop of a circuit, if its coordinates are complete. -/
def CircuitStop.ofWaypoint? (w : Waypoint) : Option CircuitStop := w.position?.map (⟨w, ·⟩)

/-- How the cycle of a tour is laid out as a route. -/
inductive CircuitShape where
  /-- It leads with the start. -/
  | cycle
  /-- It ends with the stop at this place among the candidates. -/
  | anchored (place : Nat)

namespace Circuit

/-- The missions which a circuit serves. -/
def eligible (missions : List Mission) : List Mission :=
  (Mission.active missions).filter (·.routeEligible)

/-- The names of the systems which serve missions, origins first. -/
def systemNames (missions : List Mission) : List String :=
  Mission.distinctNames
    ((missions.filter (·.returnToOrigin)).map (·.origin) ++ missions.flatMap (·.destinations))

/-- The place of a system among the stops. -/
def placeOf? (stops : List CircuitStop) (w : Waypoint) : Option Nat :=
  stops.findIdx? (·.waypoint.sameSystem w)

/-- The stops with one more, unless its system is among them or its coordinates
    are not complete. -/
def insertStop (stops : List CircuitStop) (w : Waypoint) : List CircuitStop :=
  match placeOf? stops w with
  | some _ => stops
  | none => stops ++ (CircuitStop.ofWaypoint? w).toList

/-- The stops of a circuit from a start through some systems. -/
def gather (start : Waypoint) (systems : List Waypoint) : List CircuitStop :=
  systems.foldl insertStop (CircuitStop.ofWaypoint? start).toList

/-- The stops with a home system, and the shape of the circuit that it closes. A
    home in the system of the start closes nothing. -/
def withHome (start : Waypoint) (stops : List CircuitStop) :
    (home : Option Waypoint) → List CircuitStop × CircuitShape
  | none => (stops, .cycle)
  | some home =>
    if home.sameSystem start then (stops, .cycle)
    else
      let stops := insertStop stops home
      match placeOf? stops home with
      | some place => (stops, .anchored place)
      | none => (stops, .cycle)

/-- The places of the stops which may not start a tour. -/
def forbiddenStarts (missions : List Mission) (stops : List CircuitStop) : List Nat :=
  (stops.zipIdx.filter fun (stop, _) =>
    missions.any fun m => m.returnToOrigin && m.hasDestination stop.waypoint.systemName).map (·.2)

/-- The distances between stops. -/
def distances (stops : List CircuitStop) : Matrix stops.length :=
  .ofPositions ⟨(stops.map (·.position)).toArray, by simp⟩

/-- A tour laid out for a start. -/
def orient {n : Nat} (tour : Tour n) (shape : CircuitShape) (stops : List CircuitStop)
    (forbidden : List Nat) (start : Waypoint) : Tour n :=
  match shape with
  | .anchored place => tour.toBack place
  | .cycle =>
    let lead := (placeOf? stops start).filter fun place => !forbidden.contains place
    match lead.bind tour.positionOf? with
    | some position => tour.toFront position
    | none => tour

/-- A list of waypoints whose first is marked as visited. -/
def visitFirst : List Waypoint → List Waypoint
  | [] => []
  | w :: ws => w.intoVisited :: ws

/-- The waypoints of a route from a start through stops in order. -/
def layOut (start : Waypoint) (stops : List Waypoint) : List Waypoint :=
  match stops with
  | w :: _ => if w.sameSystem start then visitFirst stops else start.intoVisited :: stops
  | [] => [start.intoVisited]

/-- A waypoint with the missions which stopping there serves. -/
def assignMissions (missions : List Mission) (w : Waypoint) : Waypoint :=
  let ids := Mission.idsServedBy missions w.systemName
  { w with missionIds := ids, isMissionSystem := !ids.isEmpty }

/-- The route from a start through stops in order. -/
def route (missions : List Mission) (start : Waypoint) (stops : List Waypoint) : Route :=
  let laidOut : Route := { waypoints := layOut start stops, origin := start.position? }
  let distinct := laidOut.distinct
  ({ distinct with
      waypoints := distinct.waypoints.map (assignMissions missions) } : Route).stamped

/-- The circuit from a start through systems, which a home may close. -/
def plan? (missions : List Mission) (start : Waypoint) (systems : List Waypoint)
    (home : Option Waypoint) : Option Answer :=
  let (stops, shape) := withHome start (gather start systems) home
  let forbidden := forbiddenStarts missions stops
  (Matrix.bestTour? (distances stops) forbidden).map fun best =>
    let tour := orient best shape stops forbidden start
    let route := route missions start (tour.order.map fun i => stops[i].waypoint)
    { Answer.ofRoute .route route route.size with circuitLength := some tour.total }

end Circuit

/-- The circuit through every system which serves a mission. -/
def Resolver.circuit : Resolver where
  type := .route
  resolve query start ctx := do
    let missions := Circuit.eligible ctx.missions
    let systems ← ctx.systemsNamed (Circuit.systemNames missions)
    let home ←
      match query.first? with
      | some name => ctx.systemNamed name
      | none => pure none
    return Circuit.plan? missions start systems home

end Astrogation
