import Astrogation.Proofs.Circuit.Route
import Astrogation.Proofs.Tour.Order

/-!
# The plan of a circuit

However the best tour is laid out, the circuit comes to each of its stops, and last to
the one where it is anchored (`answer_plan?`). If nobody has visited the systems that it
goes through, its route is fresh (`fresh_of_plan?`).
-/

namespace Astrogation.Circuit

variable {missions : List Mission} {start : Waypoint} {systems : List Waypoint}
  {home : Option Waypoint} {answer : Answer} {n : Nat}

/-- A tour stays the same but for the place from which it is read. -/
theorem order_orient_perm (tour : Tour n) (shape : CircuitShape) (stops : List CircuitStop)
    (forbidden : List Nat) (start : Waypoint) :
    (orient tour shape stops forbidden start).order.Perm tour.order := by
  rw [orient.eq_def]
  split
  · exact tour.order_toBack_perm _
  · dsimp only
    split
    · exact tour.order_toFront_perm _
    · exact .refl _

theorem plan?_eq {stops : List CircuitStop} {shape : CircuitShape}
    (h : withHome start (gather start systems) home = (stops, shape)) :
    plan? missions start systems home =
      (Matrix.bestTour? (distances stops) (forbiddenStarts missions stops)).map fun best =>
        let tour := orient best shape stops (forbiddenStarts missions stops) start
        let route := route missions start (tour.order.map fun i => (stops.get i).waypoint)
        { Answer.ofRoute .route route route.size with circuitLength := some tour.total } := by
  rw [plan?, h]
  rfl

/-- A circuit comes to every place once, and last to the one where it is anchored. -/
theorem answer_plan? {stops : List CircuitStop} {shape : CircuitShape}
    (hstops : withHome start (gather start systems) home = (stops, shape))
    (h : plan? missions start systems home = some answer) :
    ∃ places : List (Fin stops.length), places.Perm (List.finRange stops.length) ∧
      answer.route = route missions start (places.map fun i => (stops.get i).waypoint) ∧
      answer.count = answer.route.size ∧
      ∀ i : Fin stops.length, shape = .anchored i → places.getLast? = some i := by
  rw [plan?_eq hstops] at h
  obtain ⟨best, hbest, rfl⟩ := Option.map_eq_some_iff.1 h
  obtain ⟨first, -, rfl⟩ := Matrix.exists_start_of_bestTour? _ hbest
  have everywhere := Matrix.order_perm_finRange (distances stops) first
  refine ⟨_, (order_orient_perm _ shape stops _ start).trans everywhere, rfl, rfl, ?_⟩
  rintro i rfl
  exact Tour.getLast?_toBack (everywhere.mem_iff.2 (List.mem_finRange i))

theorem map_waypoint_perm {stops : List CircuitStop} {places : List (Fin stops.length)}
    (h : places.Perm (List.finRange stops.length)) :
    (places.map fun i => (stops.get i).waypoint).Perm (stops.map (·.waypoint)) := by
  refine (h.map _).trans (.of_eq ?_)
  calc (List.finRange stops.length).map (fun i => (stops.get i).waypoint)
      = ((List.finRange stops.length).map stops.get).map (·.waypoint) := by rw [List.map_map]; rfl
    _ = stops.map (·.waypoint) := by rw [List.map_get_finRange]

/-- A circuit through stops which nobody has visited is a fresh route. -/
theorem fresh_of_plan? (hsystems : ∀ w ∈ systems, w.visited = false)
    (hhome : ∀ w ∈ home, w.visited = false) (h : plan? missions start systems home = some answer) :
    answer.route.Fresh := by
  rcases hstops : withHome start (gather start systems) home with ⟨stops, shape⟩
  obtain ⟨places, everywhere, hroute, -, -⟩ := answer_plan? hstops h
  have perm := map_waypoint_perm everywhere
  have gathered : Gathered start (withHome start (gather start systems) home).1 :=
    (gathered_gather hsystems).withHome hhome
  rw [hstops] at gathered
  rw [hroute]
  refine fresh_route (fun w hw => ?_) ?_
  · obtain ⟨s, hs, rfl⟩ := List.mem_map.1 (perm.mem_iff.1 hw)
    exact gathered.origin s hs
  · refine (perm.pairwise_iff fun {w v} h => ?_).2 (List.pairwise_map.2 gathered.apart)
    rwa [Waypoint.sameSystem_comm]

end Astrogation.Circuit
