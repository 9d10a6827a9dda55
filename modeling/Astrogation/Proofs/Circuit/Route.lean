import Astrogation.Proofs.Circuit.Stops
import Astrogation.Proofs.Route.Sound

/-!
# The route of a circuit

The route of a circuit begins with the start, and only the start is visited
(`fresh_route`): should the tour come to it later, it is dropped there. On a chart, the
other stops follow in the order of the tour (`map_bare_route`).
-/

namespace Astrogation.Circuit

/-! ## Fresh circuits -/

section Fresh

variable {start w : Waypoint} {ws order : List Waypoint} {missions : List Mission} {r : Route}

theorem addresses_map_assignMissions (missions : List Mission) (ws : List Waypoint) :
    Waypoint.addresses (ws.map (assignMissions missions)) = Waypoint.addresses ws := by
  rw [Waypoint.addresses, Waypoint.addresses, List.filterMap_map]
  rfl

/-- A route of which the first stop is visited, and no other unless it is at the same
    place, is fresh once its stops are made distinct, whatever missions they serve. -/
theorem fresh_assigned (hr : r.waypoints = w :: ws) (hw : w.visited = true)
    (hws : ∀ v ∈ ws, v.visited = false ∨ v.address = w.address ∧ v.systemName = w.systemName) :
    ({ r.distinct with
      waypoints := r.distinct.waypoints.map (assignMissions missions) } : Route).stamped.Fresh := by
  obtain ⟨rest, kept, hrest⟩ := Route.exists_distinctFrom_cons w ws
  have assigned : r.distinct.waypoints.map (assignMissions missions) =
      assignMissions missions w :: rest.map (assignMissions missions) := by
    rw [Route.distinct, hr]
    dsimp only
    rw [kept, List.map_cons]
  refine Route.fresh_stamped assigned hw (fun v hv => ?_) ?_
  · obtain ⟨u, hu, rfl⟩ := List.mem_map.1 hv
    obtain ⟨mem, fresh⟩ := hrest u hu
    rcases hws u mem with unvisited | ⟨sameAddress, sameName⟩
    · exact unvisited
    · -- A stop at the place of the first would not have been kept.
      exact absurd (Waypoint.repeats_of_place sameAddress sameName) fresh
  · dsimp only
    rw [addresses_map_assignMissions]
    exact Route.nodup_addresses_distinct r

theorem fresh_route (origin : ∀ w ∈ order, w = start ∨ w.visited = false)
    (apart : order.Pairwise fun w v => w.sameSystem v = false) :
    (route missions start order).Fresh := by
  rw [route]
  cases order with
  | nil =>
    have hr : layOut start [] = [start.intoVisited] := rfl
    exact fresh_assigned hr start.visited_intoVisited fun v hv => absurd hv List.not_mem_nil
  | cons w ws =>
    cases leads : w.sameSystem start with
    | true =>
      have hr : layOut start (w :: ws) = w.intoVisited :: ws := by
        rw [layOut, if_pos leads, visitFirst]
      refine fresh_assigned hr w.visited_intoVisited fun v hv => .inl ?_
      rcases origin v (List.mem_cons_of_mem w hv) with rfl | unvisited
      · -- The tour has come to the start already.
        exact absurd leads (Bool.eq_false_iff.1 ((List.pairwise_cons.1 apart).1 v hv))
      · exact unvisited
    | false =>
      have hr : layOut start (w :: ws) = start.intoVisited :: w :: ws := by
        rw [layOut, if_neg (Bool.eq_false_iff.1 leads)]
      refine fresh_assigned hr start.visited_intoVisited fun v hv => ?_
      rcases origin v hv with rfl | unvisited
      · exact .inr ⟨rfl, rfl⟩
      · exact .inl unvisited

end Fresh

/-! ## Circuits on a chart -/

variable {c : Chart} {start : StarSystem} {order : List StarSystem}

/-- After the start, the systems in order except the start. -/
def systemsFrom (start : StarSystem) (order : List StarSystem) : List StarSystem :=
  start :: order.filter fun s => s.address != start.address

theorem mem_systemsFrom (onChart : ∀ s ∈ order, s ∈ c.systems) (hstart : start ∈ order)
    {t : StarSystem} : t ∈ systemsFrom start order ↔ t ∈ order := by
  rw [systemsFrom, List.mem_cons, List.mem_filter, bne_iff_ne]
  constructor
  · rintro (rfl | ⟨ht, -⟩)
    · exact hstart
    · exact ht
  · intro ht
    by_cases same : t.address = start.address
    · exact .inl (Chart.eq_of_address (onChart t ht) (onChart start hstart) same)
    · exact .inr ⟨ht, same⟩

theorem nodup_systemsFrom (nodup : order.Nodup) : (systemsFrom start order).Nodup := by
  refine List.nodup_cons.2 ⟨fun again => ?_, nodup.filter _⟩
  exact bne_iff_ne.1 (List.mem_filter.1 again).2 rfl

/-- A system at the end of the order which is not the start stays at the end. -/
theorem getLast?_systemsFrom {t : StarSystem} (h : order.getLast? = some t)
    (other : t.address ≠ start.address) : (systemsFrom start order).getLast? = some t := by
  obtain ⟨before, rfl⟩ := List.getLast?_eq_some_iff.1 h
  rw [systemsFrom, List.filter_append, List.filter_singleton, bne_iff_ne.2 other,
    ← List.cons_append]
  exact List.getLast?_concat

/-- Of stops which begin with the start, those are dropped which are at the start. -/
theorem distinctFrom_start (onChart : ∀ s ∈ order, s ∈ c.systems) (nodup : order.Nodup) :
    Route.distinctFrom [] [] (start.waypoint.intoVisited :: order.map StarSystem.waypoint) =
      start.waypoint.intoVisited ::
        (order.filter fun s => s.address != start.address).map StarSystem.waypoint := by
  have known : ∀ w ∈ order.map StarSystem.waypoint, w.address.isSome := by
    intro w hw
    obtain ⟨s, -, rfl⟩ := List.mem_map.1 hw
    rfl
  have kept := Route.distinctFrom_eq_filter [start.address] [] known
    (Chart.nodup_addresses_map_waypoint onChart nodup)
  rw [List.filter_map] at kept
  refine (congrArg (start.waypoint.intoVisited :: ·) kept).trans ?_
  refine congrArg (fun ss => _ :: ss.map StarSystem.waypoint) (List.filter_congr fun s _ => ?_)
  exact congrArg Bool.not (Bool.or_false _)

/-- A tour which comes to the start is laid out from the start on. -/
theorem distinctFrom_layOut (onChart : ∀ s ∈ order, s ∈ c.systems) (nodup : order.Nodup)
    (hstart : start ∈ order) :
    Route.distinctFrom [] [] (layOut start.waypoint (order.map StarSystem.waypoint)) =
      start.waypoint.intoVisited ::
        (order.filter fun s => s.address != start.address).map StarSystem.waypoint := by
  cases order with
  | nil => exact absurd hstart List.not_mem_nil
  | cons s rest =>
    rw [List.map_cons, layOut, StarSystem.sameSystem_waypoint]
    split
    · next leads =>
      obtain rfl := Chart.eq_of_address (onChart s List.mem_cons_self) (onChart start hstart)
        (beq_iff_eq.1 leads)
      rw [visitFirst, distinctFrom_start (fun t ht => onChart t (List.mem_cons_of_mem s ht))
        (List.nodup_cons.1 nodup).2, List.filter_cons_of_neg (by simp)]
    · exact distinctFrom_start onChart nodup

/-- The route of a tour which comes to the start goes through the systems of the tour,
    from the start on. -/
theorem map_bare_route (missions : List Mission) (onChart : ∀ s ∈ order, s ∈ c.systems)
    (nodup : order.Nodup) (hstart : start ∈ order) :
    (route missions start.waypoint (order.map StarSystem.waypoint)).waypoints.map Waypoint.bare =
      (systemsFrom start order).map StarSystem.waypoint := by
  have unassigned : Waypoint.bare ∘ assignMissions missions = Waypoint.bare := rfl
  rw [route, Route.map_stamped _ fun _ _ _ => rfl]
  dsimp only
  rw [List.map_map, unassigned, Route.distinct]
  dsimp only
  rw [distinctFrom_layOut onChart nodup hstart, List.map_cons, List.map_map]
  rfl

end Astrogation.Circuit
