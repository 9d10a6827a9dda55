import Astrogation.Proofs.Circuit.Plan
import Astrogation.Proofs.Places.Tour

/-!
# Circuits by places

A circuit is planned as a trip through the places of its stops (`Circuit.planByPlaces?`): the
trip is the best tour on the grid of their distances, it is read from one of its places on, and
the stops are then taken from their places.

None of this goes out of range, and it makes the plan which the tours of the matrix make
(`Circuit.planByPlaces?_eq`).
-/

namespace Astrogation.Circuit

/-- A trip laid out for a start. -/
def orientTrip (trip : Trip) (shape : CircuitShape) (stops : List CircuitStop)
    (forbidden : List Nat) (start : Waypoint) : Call Trip :=
  match shape with
  | .anchored place => trip.toBack place
  | .cycle =>
    let lead := (placeOf? stops start).filter fun place => !forbidden.contains place
    match lead.bind trip.positionOf? with
    | some position => trip.toFront position
    | none => return trip

/-- The waypoint of the stop at a place. -/
def waypointAt (stops : List CircuitStop) (place : Nat) : Call Waypoint := do
  let stop ← Call.member stops place
  return stop.waypoint

/-- The circuit from a start through systems, which a home may close. -/
def planByPlaces? (missions : List Mission) (start : Waypoint) (systems : List Waypoint)
    (home : Option Waypoint) : Call (Option Answer) := do
  let (stops, shape) := withHome start (gather start systems) home
  let forbidden := forbiddenStarts missions stops
  let grid ← Grid.ofPositions (stops.map (·.position))
  match ← grid.bestTour? forbidden with
  | none => return none
  | some best =>
    let trip ← orientTrip best shape stops forbidden start
    let waypoints ← trip.order.mapM (waypointAt stops)
    let route := route missions start waypoints
    return some { Answer.ofRoute .route route route.size with circuitLength := some trip.total }

variable {n : Nat}

theorem orientTrip_ofTour (tour : Tour n) (shape : CircuitShape) (stops : List CircuitStop)
    (forbidden : List Nat) (start : Waypoint) :
    orientTrip (.ofTour tour) shape stops forbidden start =
      .reply (.ofTour (orient tour shape stops forbidden start)) := by
  cases shape with
  | anchored place => exact Trip.toBack_ofTour tour place
  | cycle =>
    have position : (Trip.ofTour tour).positionOf? = tour.positionOf? :=
      funext fun place => Trip.positionOf?_ofTour tour place
    rw [orientTrip, orient, position]
    cases ((placeOf? stops start).filter fun place => !forbidden.contains place).bind
        tour.positionOf? with
    | none => rfl
    | some position => exact Trip.toFront_ofTour tour position

theorem waypointAt_eq (stops : List CircuitStop) (i : Fin stops.length) :
    waypointAt stops i = .reply (stops.get i).waypoint := by
  rw [waypointAt, Call.member_eq_reply (List.getElem?_eq_getElem i.isLt)]
  rfl

/-- Planning a circuit never goes out of range. -/
theorem planByPlaces?_eq (missions : List Mission) (start : Waypoint) (systems : List Waypoint)
    (home : Option Waypoint) :
    planByPlaces? missions start systems home = .reply (plan? missions start systems home) := by
  rcases hstops : withHome start (gather start systems) home with ⟨stops, shape⟩
  let positions : Vector Position stops.length := ⟨(stops.map (·.position)).toArray, by simp⟩
  have grid : Grid.ofPositions (stops.map (·.position)) =
      .reply (.ofMatrix (distances stops)) := Grid.ofPositions_eq positions
  rw [plan?_eq hstops, planByPlaces?, hstops]
  dsimp only
  rw [grid, Call.reply_bind, Grid.bestTour?_ofMatrix, Call.reply_bind]
  cases (distances stops).bestTour? (forbiddenStarts missions stops) with
  | none => rfl
  | some best =>
    dsimp only [Option.map_some]
    rw [orientTrip_ofTour, Call.reply_bind, Trip.ofTour,
      Call.mapM_reply _ fun i _ => waypointAt_eq stops i, Call.reply_bind]
    rfl

end Astrogation.Circuit
