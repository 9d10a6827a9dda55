import Astrogation.Proofs.Circuit.Complete
import Astrogation.Proofs.Resolver.Answers
import Astrogation.Proofs.Tour.Cycle

/-!
# The cycle of a circuit

The length of a circuit is that of the cycle of the best tour. The tour is laid out so that
it leads with the start or ends at the home, which leaves its cycle as it is; but the start
comes first on the route even if it comes elsewhere on the tour that is laid out, and then
the stops of the route do not go around the cycle (`isRotated_systemsFrom_iff`).

If they do, then in exact arithmetic the length of the circuit is that of the route and of
the leg which closes it (`circuitLength_closed`). If they do not, it may be shorter
(`circuitLength_not_closed`).
-/

namespace Astrogation

open List (IsRotated)

/-! ## Moving a member to the front -/

section Front

variable {α : Type} {x : α} {before after : List α}

/-- To move a member to the front rotates a list if and only if it stays, or comes last. -/
theorem isRotated_toFront_iff (nodup : (before ++ x :: after).Nodup) :
    (x :: (before ++ after)).IsRotated (before ++ x :: after) ↔ before = [] ∨ after = [] := by
  have swap : (before ++ x :: after).IsRotated (x :: (after ++ before)) := List.isRotated_append
  constructor
  · intro h
    have front : (x :: (before ++ after)).Nodup := h.nodup_iff.2 nodup
    have commute := eq_of_isRotated_cons front (h.trans swap)
    match before, after with
    | [], _ => exact .inl rfl
    | _, [] => exact .inr rfl
    | b :: before, a :: after =>
      -- What comes first before the member would also come first after it.
      obtain rfl : b = a := (List.cons.inj commute).1
      have twice := (List.nodup_append.1 nodup).2.2 b List.mem_cons_self b
        (List.mem_cons_of_mem x List.mem_cons_self)
      exact absurd rfl twice
  · rintro (rfl | rfl)
    · exact .refl _
    · rw [List.append_nil]
      exact List.isRotated_append (l := [x])

theorem head?_eq_some_iff_of_nodup (nodup : (before ++ x :: after).Nodup) :
    (before ++ x :: after).head? = some x ↔ before = [] := by
  cases before with
  | nil => exact iff_of_true rfl rfl
  | cons b before =>
    refine iff_of_false (fun h => ?_) (List.cons_ne_nil b before)
    obtain rfl := Option.some.inj h
    exact (List.nodup_cons.1 nodup).1 (List.mem_append_right before List.mem_cons_self)

theorem getLast?_eq_some_iff_of_nodup (nodup : (before ++ x :: after).Nodup) :
    (before ++ x :: after).getLast? = some x ↔ after = [] := by
  rw [← List.head?_reverse, List.reverse_append, List.reverse_cons, List.append_assoc,
    List.singleton_append, head?_eq_some_iff_of_nodup, List.reverse_eq_nil_iff]
  rwa [← List.singleton_append, ← List.append_assoc, ← List.reverse_cons, ← List.reverse_append,
    List.nodup_reverse]

end Front

/-! ## The length of a route that is closed -/

namespace Route

variable {α : Type} [Scalar α]

theorem legsFrom_append_closing (home w : Waypoint α) (ws : List (Waypoint α)) :
    legsFrom w ws ++ [((w :: ws).getLast (List.cons_ne_nil w ws)).leg home] =
      List.zipWith Waypoint.leg (w :: ws) (ws ++ [home]) := by
  induction ws generalizing w with
  | nil => rfl
  | cons v ws ih =>
    rw [legsFrom, List.cons_append, List.getLast_cons_cons, ih, List.cons_append,
      List.zipWith_cons_cons]

/-- In exact arithmetic, a route which is closed is as long as the legs around it. -/
theorem totalDistance_add_closingLeg (r : Route ℝ) :
    r.totalDistance + r.closingLeg = (around Waypoint.leg r.waypoints).sum := by
  rw [totalDistance_eq_sum, closingLeg]
  cases r.waypoints with
  | nil => exact add_zero _
  | cons w ws =>
    rw [List.getLast?_eq_some_getLast (List.cons_ne_nil w ws), List.head?_cons, legs, around_cons,
      ← legsFrom_append_closing, List.sum_append, List.sum_singleton]

end Route

namespace Circuit

/-- The distances between stops, in exact arithmetic. -/
noncomputable def exactDistances (f : Float → ℝ) (stops : List CircuitStop) :
    Matrix stops.length ℝ :=
  .ofPositions ⟨(stops.map fun s => s.position.map f).toArray, by simp⟩

theorem get_exactDistances (f : Float → ℝ) (stops : List CircuitStop) (i j : Fin stops.length) :
    (exactDistances f stops).get i j =
      ((stops.get i).position.map f).distanceTo ((stops.get j).position.map f) := by
  rw [exactDistances, Matrix.ofPositions, Matrix.get_ofFn]
  simp only [List.get_eq_getElem, Fin.getElem_fin, Vector.getElem_mk, List.getElem_toArray,
    List.getElem_map]
  split
  · rfl
  · split
    · exact Position.distanceTo_comm _ _
    · next notBelow notAbove =>
      obtain rfl := le_antisymm (not_lt.1 notAbove) (not_lt.1 notBelow)
      exact (Position.distanceTo_self _).symm

variable {c : Chart} {missions : List Mission} {start : StarSystem} {query : Query}
  {traveller : Traveller} {config : Config} {answer : Answer} {stops order : List StarSystem}

/-- The systems of a tour in its order. -/
def along (stops : List StarSystem)
    (order : List (Fin (stops.map StarSystem.circuitStop).length)) : List StarSystem :=
  order.map fun i => stops.get (i.cast (List.length_map _))

/-- The distance between two systems, in exact arithmetic. -/
noncomputable def exactDistance (f : Float → ℝ) (s t : StarSystem) : ℝ :=
  (s.position.map f).distanceTo (t.position.map f)

theorem cycleLength_exactDistances (f : Float → ℝ)
    {order : List (Fin (stops.map StarSystem.circuitStop).length)} (several : 1 < order.length) :
    (exactDistances f (stops.map StarSystem.circuitStop)).cycleLength order =
      (around (exactDistance f) (along stops order)).sum := by
  rw [Matrix.cycleLength_eq_foldl _ several, ← List.sum_eq_foldl, along, around_map]
  refine congrArg (fun d => (around d order).sum) (funext fun i => funext fun j => ?_)
  rw [get_exactDistances]
  simp only [List.get_eq_getElem, List.getElem_map]
  rfl

/-- A route through systems, closed, in exact arithmetic. -/
theorem closed_of_map_bare (f : Float → ℝ) {r : Route}
    (h : r.waypoints.map Waypoint.bare = order.map StarSystem.waypoint) :
    (r.map f).totalDistance + (r.map f).closingLeg = (around (exactDistance f) order).sum := by
  -- What is recorded of a stop does not matter for the legs.
  let leg (w v : Waypoint) : ℝ := (w.map f).leg (v.map f)
  have bare : around leg (r.waypoints.map Waypoint.bare) = around leg r.waypoints :=
    around_map leg Waypoint.bare r.waypoints
  rw [Route.totalDistance_add_closingLeg, Route.map, around_map]
  show (around leg r.waypoints).sum = _
  rw [← bare, h, around_map]
  rfl

/-! ## The stops of a route around the cycle -/

/-- After the start, the other systems in their order. -/
theorem systemsFrom_append {before after : List StarSystem}
    (nodup : (before ++ start :: after).Nodup)
    (onChart : ∀ s ∈ before ++ start :: after, s ∈ c.systems) :
    systemsFrom start (before ++ start :: after) = start :: (before ++ after) := by
  have moved : (start :: (before ++ after)).Nodup := List.perm_middle.nodup_iff.1 nodup
  have others : ∀ s ∈ before ++ after, (s.address != start.address) = true := by
    intro s hs
    refine bne_iff_ne.2 fun same => (List.nodup_cons.1 moved).1 ?_
    have there := List.perm_middle.mem_iff.2 (List.mem_cons_of_mem start hs)
    have start_there := List.mem_append_right before (List.mem_cons_self (a := start) (l := after))
    rwa [← Chart.eq_of_address (onChart s there) (onChart start start_there) same]
  rw [systemsFrom, List.filter_append, List.filter_cons_of_neg (by simp), ← List.filter_append,
    List.filter_eq_self.2 others]

/-- The stops of a route go around the cycle of the tour that is laid out if and only if it
    leads with the start, or ends there. -/
theorem isRotated_systemsFrom_iff (nodup : order.Nodup) (onChart : ∀ s ∈ order, s ∈ c.systems)
    (comes : start ∈ order) :
    (systemsFrom start order).IsRotated order ↔
      order.head? = some start ∨ order.getLast? = some start := by
  obtain ⟨before, after, rfl⟩ := List.append_of_mem comes
  rw [systemsFrom_append nodup onChart, isRotated_toFront_iff nodup,
    head?_eq_some_iff_of_nodup nodup, getLast?_eq_some_iff_of_nodup nodup]

/-- A cycle leads with the start if a tour may start there. -/
theorem head?_along_orient {best : Tour (stops.map StarSystem.circuitStop).length}
    (onChart : ∀ s ∈ stops, s ∈ c.systems) (hstart : start ∈ stops)
    (everywhere : ∀ i, i ∈ best.order) (may : ¬ MayNotStart missions start) :
    (along stops (orient best .cycle (stops.map StarSystem.circuitStop)
      (forbiddenStarts (eligible missions) (stops.map StarSystem.circuitStop))
      start.waypoint).order).head? = some start := by
  have onChartStart := onChart start hstart
  cases found : placeOf? (stops.map StarSystem.circuitStop) start.waypoint with
  | none => exact absurd hstart ((placeOf?_eq_none_iff onChart onChartStart).1 found)
  | some place =>
    have here := getElem?_of_placeOf? onChart onChartStart found
    obtain ⟨bound, here⟩ := List.getElem?_eq_some_iff.1 here
    have permitted : (!(forbiddenStarts (eligible missions)
        (stops.map StarSystem.circuitStop)).contains place) = true := by
      rw [Bool.not_eq_true', ← Bool.not_eq_true, List.contains_iff_mem, mem_forbiddenStarts_iff]
      rintro ⟨t, ht, barred⟩
      rw [List.getElem?_eq_getElem bound, here] at ht
      exact may (Option.some.inj ht ▸ barred)
    let i : Fin (stops.map StarSystem.circuitStop).length :=
      ⟨place, (List.length_map _).symm ▸ bound⟩
    obtain ⟨position, hposition, front⟩ := Tour.head?_toFront (everywhere i)
    rw [orient.eq_def]
    dsimp only
    rw [found, Option.filter_some, if_pos permitted, Option.bind_some, hposition]
    dsimp only
    rw [along, List.head?_map, front]
    exact congrArg some here

theorem isRotated_orient {n : Nat} (tour : Tour n) (shape : CircuitShape)
    (places : List CircuitStop) (forbidden : List Nat) (start : Waypoint) :
    (orient tour shape places forbidden start).order.IsRotated tour.order := by
  rw [orient.eq_def]
  split
  · exact tour.isRotated_toBack _
  · dsimp only
    split
    · exact tour.isRotated_toFront _
    · exact .refl _

theorem total_orient {n : Nat} (tour : Tour n) (shape : CircuitShape) (places : List CircuitStop)
    (forbidden : List Nat) (start : Waypoint) :
    (orient tour shape places forbidden start).total = tour.total := by
  rw [orient.eq_def]
  split
  · exact tour.total_toBack _
  · dsimp only
    split
    · exact tour.total_toFront _
    · rfl

/-- How a circuit has come about: the systems that it has to go through, the shape in which it
    is laid out, and the best tour through the systems. -/
structure Toured (c : Chart) (missions : List Mission) (start : StarSystem) (query : Query)
    (answer : Answer) where
  stops : List StarSystem
  shape : CircuitShape
  best : Tour (stops.map StarSystem.circuitStop).length
  gathered : withHome start.waypoint
      (gather start.waypoint
        (((systemNames (eligible missions)).filterMap c.find?).map StarSystem.waypoint))
      ((query.first?.bind c.find?).map StarSystem.waypoint) =
    (stops.map StarSystem.circuitStop, shape)
  nodup : stops.Nodup
  mem_iff : ∀ t, t ∈ stops ↔ OnCircuit c missions start query t
  isBest : Matrix.bestTour? (distances (stops.map StarSystem.circuitStop))
    (forbiddenStarts (eligible missions) (stops.map StarSystem.circuitStop)) = some best
  circuitLength : answer.circuitLength = some best.total
  route : answer.route = Circuit.route (eligible missions) start.waypoint
    ((orient best shape (stops.map StarSystem.circuitStop)
      (forbiddenStarts (eligible missions) (stops.map StarSystem.circuitStop))
      start.waypoint).order.map fun i => ((stops.map StarSystem.circuitStop).get i).waypoint)

theorem exists_toured (hstart : start ∈ c.systems)
    (h : (Resolver.circuit.resolve query start.waypoint
      ⟨c.atlas, traveller, missions, config⟩).outcome = .ok (some answer)) :
    Nonempty (Toured c missions start query answer) := by
  rw [outcome_circuit, Except.ok.injEq] at h
  obtain ⟨stops, shape, hstops, nodup, mem, -⟩ := exists_stops missions query hstart
  rw [plan?_eq hstops] at h
  obtain ⟨best, hbest, rfl⟩ := Option.map_eq_some_iff.1 h
  exact ⟨⟨stops, shape, best, hstops, nodup, mem, hbest, congrArg some (total_orient ..), rfl⟩⟩

namespace Toured

variable (t : Toured c missions start query answer)

/-- The systems in the order of the best tour. -/
def tour : List StarSystem := along t.stops t.best.order

/-- The systems in the order in which the tour is laid out. -/
def laidOut : List StarSystem :=
  along t.stops (orient t.best t.shape (t.stops.map StarSystem.circuitStop)
    (forbiddenStarts (eligible missions) (t.stops.map StarSystem.circuitStop))
    start.waypoint).order

/-- The systems of the route, in order. -/
def visited : List StarSystem := systemsFrom start t.laidOut

/-- The length of the best tour, computed in exact arithmetic. -/
noncomputable def exactLength (f : Float → ℝ) : ℝ :=
  (exactDistances f (t.stops.map StarSystem.circuitStop)).cycleLength t.best.order

/-- Without a home elsewhere, the tour is laid out as a cycle. -/
theorem shape_eq_cycle (h : ∀ home ∈ query.first?.bind c.find?, home = start) :
    t.shape = .cycle := by
  have gathered := t.gathered
  cases hhome : query.first?.bind c.find? with
  | none =>
    rw [hhome] at gathered
    exact (congrArg Prod.snd gathered).symm
  | some home =>
    obtain rfl := h home hhome
    rw [hhome, Option.map_some, withHome, if_pos home.waypoint.sameSystem_refl] at gathered
    exact (congrArg Prod.snd gathered).symm

theorem isRotated_laidOut : t.laidOut.IsRotated t.tour :=
  (isRotated_orient ..).map _

theorem order_perm :
    t.best.order.Perm (List.finRange (t.stops.map StarSystem.circuitStop).length) := by
  obtain ⟨home, -, same⟩ := Matrix.exists_start_of_bestTour? _ t.isBest
  rw [same]
  exact Matrix.order_perm_finRange _ home

theorem tour_perm : t.tour.Perm t.stops := by
  refine (t.order_perm.map _).trans (.of_eq (List.ext_getElem ?_ fun i _ _ => ?_))
  · rw [List.length_map, List.length_finRange, List.length_map]
  · rw [List.getElem_map, List.getElem_finRange]
    rfl

theorem nodup_laidOut : t.laidOut.Nodup :=
  (t.isRotated_laidOut.perm.trans t.tour_perm).nodup_iff.2 t.nodup

theorem mem_laidOut_iff {s : StarSystem} :
    s ∈ t.laidOut ↔ OnCircuit c missions start query s :=
  (t.isRotated_laidOut.perm.trans t.tour_perm).mem_iff.trans (t.mem_iff s)

theorem onChart_of_mem (hstart : start ∈ c.systems) : ∀ s ∈ t.laidOut, s ∈ c.systems :=
  fun _ hs => (t.mem_laidOut_iff.1 hs).onChart hstart

/-- The stops of the route are the systems from the start on. -/
theorem map_bare_waypoints (hstart : start ∈ c.systems) :
    answer.route.waypoints.map Waypoint.bare = t.visited.map StarSystem.waypoint := by
  have systems : (orient t.best t.shape (t.stops.map StarSystem.circuitStop)
      (forbiddenStarts (eligible missions) (t.stops.map StarSystem.circuitStop))
      start.waypoint).order.map (fun i => ((t.stops.map StarSystem.circuitStop).get i).waypoint) =
        t.laidOut.map StarSystem.waypoint := by
    rw [laidOut, along, List.map_map]
    refine List.map_congr_left fun i _ => ?_
    exact congrArg CircuitStop.waypoint (List.getElem_map _)
  rw [t.route, systems]
  exact map_bare_route _ (t.onChart_of_mem hstart) t.nodup_laidOut (t.mem_laidOut_iff.2 .start)

/-- The length of a circuit is recorded of the cycle of its tour. -/
theorem circuitLength_eq : answer.circuitLength =
    some ((distances (t.stops.map StarSystem.circuitStop)).cycleLength t.best.order) := by
  rw [t.circuitLength, Matrix.total_of_bestTour? _ t.isBest]

theorem exactLength_eq (f : Float → ℝ) :
    t.exactLength f = (around (exactDistance f) t.tour).sum := by
  refine cycleLength_exactDistances f ?_
  rw [t.order_perm.length_eq, List.length_finRange]
  exact Matrix.one_lt_of_bestTour? _ t.isBest

end Toured

/-- From a system of the chart, the length of a circuit is that of the cycle of the best tour
    through all systems that it has to go through. The tour is laid out so that it is read
    from another system on, and the route has the systems which are laid out, but the start
    comes first. Its stops go around the cycle of the tour if and only if the tour that is laid
    out leads with the start or ends there, as it does if the start may start a tour and no
    home closes the circuit. If they do, then in exact arithmetic the tour is as long as the
    route and the leg which closes it. -/
theorem circuitLength_closed (hstart : start ∈ c.systems) (traveller : Traveller)
    (missions : List Mission) (config : Config) (query : Query) (answer : Answer)
    (answered : (Resolver.circuit.resolve query start.waypoint
      ⟨c.atlas, traveller, missions, config⟩).outcome = .ok (some answer)) :
    ∃ t : Toured c missions start query answer,
      answer.circuitLength =
        some ((distances (t.stops.map StarSystem.circuitStop)).cycleLength t.best.order) ∧
      answer.route.waypoints.map Waypoint.bare = t.visited.map StarSystem.waypoint ∧
      t.laidOut.IsRotated t.tour ∧
      (t.visited.IsRotated t.tour ↔
        t.laidOut.head? = some start ∨ t.laidOut.getLast? = some start) ∧
      ((∀ home ∈ query.first?.bind c.find?, home = start) → ¬ MayNotStart missions start →
        t.laidOut.head? = some start) ∧
      ∀ f : Float → ℝ, t.visited.IsRotated t.tour →
        (answer.route.map f).totalDistance + (answer.route.map f).closingLeg = t.exactLength f := by
  obtain ⟨t⟩ := exists_toured hstart answered
  have comes : start ∈ t.laidOut := t.mem_laidOut_iff.2 .start
  have stops := t.map_bare_waypoints hstart
  refine ⟨t, t.circuitLength_eq, stops, t.isRotated_laidOut, ?_, fun cyclic may => ?_,
    fun f around => ?_⟩
  · rw [← isRotated_systemsFrom_iff t.nodup_laidOut (t.onChart_of_mem hstart) comes]
    exact ⟨fun h => h.trans t.isRotated_laidOut.symm, fun h => h.trans t.isRotated_laidOut⟩
  · rw [Toured.laidOut, t.shape_eq_cycle cyclic]
    refine head?_along_orient (fun s hs => ((t.mem_iff s).1 hs).onChart hstart)
      ((t.mem_iff start).2 .start) (fun i => ?_) may
    exact t.order_perm.mem_iff.2 (List.mem_finRange i)
  · rw [closed_of_map_bare f stops, t.exactLength_eq, (around_perm around).sum_eq]

/-- The delivery, from Sol and back, goes around a cycle. -/
theorem circuitLength_delivery :
    let query : Query := { type := .route }
    Chart.sol ∈ Chart.frontier.systems ∧
      ∃ (answer : Answer) (t : Toured Chart.frontier [delivery] Chart.sol query answer),
        (Resolver.circuit.resolve query Chart.sol.waypoint
          ⟨Chart.frontier.atlas, TravellerState.traveller {}, [delivery], {}⟩).outcome =
            .ok (some answer) ∧
        t.visited.IsRotated t.tour ∧
        ∀ f : Float → ℝ, (answer.route.map f).totalDistance + (answer.route.map f).closingLeg =
          t.exactLength f := by
  intro query
  have onChart : Chart.sol ∈ Chart.frontier.systems := List.mem_cons_self
  obtain ⟨answer, answered, -⟩ : ∃ answer, (Resolver.circuit.resolve query Chart.sol.waypoint
      ⟨Chart.frontier.atlas, TravellerState.traveller {}, [delivery], {}⟩).outcome =
        .ok (some answer) ∧ answer.circuitLength.isSome :=
    Answer.exists_of_any (by decide +kernel)
  have may : ¬ MayNotStart [delivery] Chart.sol := fun barred =>
    absurd (mayNotStart_iff.1 barred) (by decide)
  obtain ⟨t, -, -, -, rotated, leads, exact⟩ := circuitLength_closed onChart
    (TravellerState.traveller {}) [delivery] {} query answer answered
  have around := rotated.2 (.inl (leads (fun home absent => nomatch absent) may))
  exact ⟨onChart, answer, t, answered, around, fun f => exact f around⟩

/-! ## A circuit which is not closed -/

def alioth : StarSystem := { name := "Alioth", address := 2, position := ⟨3, 0, 0⟩ }

def lave : StarSystem := { name := "Lave", address := 3, position := ⟨0, 4, 0⟩ }

def wolf : StarSystem := { name := "Wolf 359", address := 4, position := ⟨3, 4, 0⟩ }

/-- Four systems at the corners of a rectangle. -/
def rectangle : Chart where
  systems := [Chart.sol, alioth, lave, wolf]
  stations := []
  apart := by
    simp only [List.pairwise_cons, List.Pairwise.nil, StarSystem.Apart]
    decide

/-- A mission to the two corners next to Sol, each of which may be chosen. -/
def choice : Mission := { id := 1, origin := "Sol", destinations := ["Alioth", "Lave"] }

/-- The best tour goes around the rectangle. As the home is in the opposite corner, it is read
    from Lave on, and Sol, which comes next, is moved to the front: the route goes along both
    diagonals, and its stops are not a rotation of the tour, nor is it as long. -/
theorem circuitLength_not_closed :
    let query : Query := { type := .route, arg0 := some "wolf 359" }
    let stops := rectangle.systems.map StarSystem.circuitStop
    Chart.sol ∈ rectangle.systems ∧
      (Matrix.bestTour? (distances stops) (forbiddenStarts [choice] stops)).map
        (fun best => best.order.map (·.val)) = some [0, 1, 3, 2] ∧
      ∃ answer : Answer,
        (Resolver.circuit.resolve query Chart.sol.waypoint
          ⟨rectangle.atlas, TravellerState.traveller {}, [choice], {}⟩).outcome =
            .ok (some answer) ∧
        answer.route.waypoints.map Waypoint.bare =
          [Chart.sol, lave, alioth, wolf].map StarSystem.waypoint ∧
        ¬ [0, 2, 1, 3].IsRotated [0, 1, 3, 2] ∧ answer.circuitLength = some 14 ∧
        ∀ f : Float → ℝ, f 0 = 0 → f 3 = 3 → f 4 = 4 →
          (answer.route.map f).totalDistance + (answer.route.map f).closingLeg = 18 := by
  intro query stops
  obtain ⟨answer, answered, computed⟩ : ∃ answer, (Resolver.circuit.resolve query
      Chart.sol.waypoint ⟨rectangle.atlas, TravellerState.traveller {}, [choice], {}⟩).outcome =
        .ok (some answer) ∧
      decide (answer.circuitLength = some 14 ∧ answer.route.waypoints.map Waypoint.bare =
        [Chart.sol, lave, alioth, wolf].map StarSystem.waypoint) = true :=
    Answer.exists_of_any (by decide +kernel)
  obtain ⟨length, route⟩ := of_decide_eq_true computed
  refine ⟨List.mem_cons_self, by decide +kernel, answer, answered, route, by decide, length,
    fun f zero three four => ?_⟩
  have sides {s t : StarSystem} {d : ℝ} (nonneg : 0 ≤ d)
      (squares : (f s.position.x - f t.position.x) ^ 2 + (f s.position.y - f t.position.y) ^ 2 +
        (f s.position.z - f t.position.z) ^ 2 = d ^ 2) : exactDistance f s t = d := by
    rw [exactDistance, Position.distanceTo_eq]
    exact (congrArg Real.sqrt squares).trans (Real.sqrt_sq nonneg)
  rw [closed_of_map_bare f route, around_cons]
  show exactDistance f Chart.sol lave + (exactDistance f lave alioth +
    (exactDistance f alioth wolf + (exactDistance f wolf Chart.sol + 0))) = 18
  rw [sides (d := 4), sides (d := 5), sides (d := 4), sides (d := 5)] <;>
    norm_num [Chart.sol, alioth, lave, wolf, zero, three, four]

end Circuit

end Astrogation
