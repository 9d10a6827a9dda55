import Astrogation.Proofs.Resolver.Stations

/-!
# Stations which are named

A query for a route may name a station of the system it leads to. The station is taken from the
chart if it is there, and otherwise only named (`Chart.wanted`); the resolver plans the route to
it (`Chart.outcome_set`). The answer takes its station from the stop that the route points to. In
another system this is the stop at the station (`Route.toDestination_of_away`); but in the system
of the start the route has no other stop than the start, which is at no station
(`Route.toDestination_of_here`), so that the station gets lost (`Chart.set_forgets_station`).

The answers to queries for a service name their station wherever it is
(`Resolver.exists_of_facility`).
-/

namespace Astrogation

/-! ## Stations of routes -/

/-- The station that is asked for: its name and market as they are on the chart, or only what
    it is called. -/
def Chart.wanted (c : Chart) (system station : String) : String × Option MarketId :=
  match c.stationNamed? system station with
  | some s => (s.name, s.marketId)
  | none => (station, none)

/-- A stop at a station. -/
def Waypoint.IsAt (w : Waypoint) (station : String × Option MarketId) : Prop :=
  w.stationName = some station.1 ∧ w.marketId = station.2

/-- An answer which names a station. -/
def Answer.Names (a : Answer) (station : String × Option MarketId) : Prop :=
  a.station = some station.1 ∧ a.marketId = station.2

namespace Route

variable {r : Route} {w start destination : Waypoint} {station : String × Option MarketId}

/-- The answer with a route names the station of the stop that the route points to. -/
theorem names_ofRoute_iff {type : QueryType} {count : Nat} (points : r.target? = some w) :
    (Answer.ofRoute type r count).Names station ↔ w.IsAt station := by
  simp [Answer.Names, Answer.ofRoute, Waypoint.IsAt, points]

/-- If all other stops have been visited, a route points to its last one. -/
theorem target?_of_ahead {behind : List Waypoint} (split : r.waypoints = behind ++ [w])
    (visited : ∀ v ∈ behind, v.visited = true) : r.target? = some w := by
  have passed : behind.find? (!·.visited) = none :=
    List.find?_eq_none.2 fun v hv => by simp [visited v hv]
  rw [target?, nextUnvisited?, destination?, split, List.find?_append, passed, Option.none_or,
    List.getLast?_concat]
  cases h : w.visited <;> simp [h]

/-- The route to another system has two stops, and points to the second. -/
theorem toDestination_of_away (away : start.sameSystem destination = false) :
    ∃ w, (toDestination start destination).target? = some w ∧
      (toDestination start destination).destination? = some w ∧
      (toDestination start destination).size = 2 ∧ w.bare = destination.bare := by
  have stops : ∃ v w, (toDestination start destination).waypoints = [v] ++ [w] ∧
      v.visited = true ∧ w.bare = destination.bare := by
    rw [toDestination, away]
    exact ⟨_, _, rfl, rfl, rfl⟩
  obtain ⟨v, w, split, visited, same⟩ := stops
  refine ⟨w, target?_of_ahead split fun v' hv => ?_, ?_, ?_, same⟩
  · exact List.mem_singleton.1 hv ▸ visited
  · rw [destination?, split, List.getLast?_concat]
  · rw [size, split]
    rfl

/-- The route to the system of the start has no other stop, and points to it. -/
theorem toDestination_of_here (here : start.sameSystem destination = true) :
    ∃ w, (toDestination start destination).target? = some w ∧ w.bare = start.bare := by
  have stops : ∃ w, (toDestination start destination).waypoints = [] ++ [w] ∧
      w.bare = start.bare := by
    rw [toDestination, here]
    exact ⟨_, rfl, rfl⟩
  obtain ⟨w, split, same⟩ := stops
  exact ⟨w, target?_of_ahead split (by simp), same⟩

end Route

/-! ## Stations which offer a service -/

namespace Resolver

variable {c : Chart} {start : StarSystem} {type : QueryType} {service : Service} {query : Query}
  {traveller : Traveller} {missions : List Mission} {config : Config} {answer : Answer}

/-- Whatever answers a query for a service names a station of the chart, be it in the system of
    the start. -/
theorem exists_of_facility
    (answered : ((facility type service).resolve query start.waypoint
      ⟨c.atlas, traveller, missions, config⟩).outcome = .ok (some answer)) :
    ∃ s ∈ c.stations, ∃ t, c.find? s.systemName = some t ∧ answer.Names (s.name, s.marketId) := by
  rcases hship : traveller.ship with ship | _
  · rw [outcome_facility c type start hship] at answered
    obtain ⟨found, selected, rfl⟩ := Option.map_eq_some_iff.1 (Except.ok.inj answered)
    obtain ⟨s, hs, suitable⟩ := List.mem_filterMap.1 (mem_of_champion? selected)
    rw [suitable?, Option.ite_none_right_eq_some] at suitable
    obtain ⟨t, there, rfl⟩ := Option.map_eq_some_iff.1 suitable.2
    have names := namesStation_answerAt type start
      ⟨s, t, start.position.distanceTo t.position⟩
    exact ⟨s, hs, t, there, names.station, names.marketId⟩
  · simp [facility, Context.ship, hship, Consultation.ofCall, Consultation.crash,
      Except.bind] at answered

end Resolver

/-! ## Stations which are asked for -/

namespace Chart

variable {c : Chart} {start target : StarSystem} {query : Query} {system station : String}

/-- A query for a station is answered by the route to it. -/
theorem outcome_set (first : query.first? = some system) (second : query.second? = some station)
    (found : c.find? system = some target) (traveller : Traveller) (missions : List Mission)
    (config : Config) :
    (Resolver.set.resolve query start.waypoint ⟨c.atlas, traveller, missions, config⟩).outcome =
      .ok (some (.ofJumps .set (.toDestination start.waypoint
        (target.waypoint.atStation (c.wanted system station).1 (c.wanted system station).2)))) := by
  have known : c.atlas.systemNamed system = .reply (some target.waypoint) :=
    congrArg (fun t? => Call.reply (Option.map StarSystem.waypoint t?)) found
  have replied : c.atlas.stationNamed system station = .reply (c.stationNamed? system station) :=
    rfl
  rw [Resolver.set]
  simp only [first, second, Context.systemNamed, Context.stationNamed, known, replied,
    Consultation.outcome_bind, Consultation.outcome_ofCall_reply, Except.bind, wanted]
  cases c.stationNamed? system station with
  | none => rfl
  | some s => rfl

theorem sameSystem_atStation (onChart : start ∈ c.systems) (onChart' : target ∈ c.systems)
    (away : target ≠ start) (name : String) (market : Option MarketId) :
    start.waypoint.sameSystem (target.waypoint.atStation name market) = false := by
  have other : start.address ≠ target.address := fun same =>
    away (eq_of_address onChart' onChart same.symm)
  exact beq_eq_false_iff_ne.2 other

/-- A query for a station of a system that is not on the chart has no answer. -/
theorem outcome_set_of_unknown (first : query.first? = some system)
    (unknown : c.find? system = none) (traveller : Traveller) (missions : List Mission)
    (config : Config) :
    (Resolver.set.resolve query start.waypoint ⟨c.atlas, traveller, missions, config⟩).outcome =
      .ok none := by
  have known : c.atlas.systemNamed system = .reply none :=
    congrArg (fun t? => Call.reply (Option.map StarSystem.waypoint t?)) unknown
  rw [Resolver.set]
  simp only [first, Context.systemNamed, known, Consultation.outcome_bind,
    Consultation.outcome_ofCall_reply, Except.bind, Consultation.outcome_pure]

/-- A query for a station is answered exactly if its system is on the chart. The answer names the
    station exactly if that system is not the one of the start; otherwise it names none. Whatever
    answers a query for a service from there names its station. -/
theorem set_names_station_iff (onChart : start ∈ c.systems) (first : query.first? = some system)
    (second : query.second? = some station) (traveller : Traveller) (missions : List Mission)
    (config : Config) :
    let ctx : Context := ⟨c.atlas, traveller, missions, config⟩
    (c.find? system = none →
      (Resolver.set.resolve query start.waypoint ctx).outcome = .ok none) ∧
    (∀ target, c.find? system = some target → ∃ answer,
      (Resolver.set.resolve query start.waypoint ctx).outcome = .ok (some answer) ∧
        (answer.Names (c.wanted system station) ↔ target ≠ start) ∧
        (target = start → answer.station = none ∧ answer.marketId = none)) ∧
    ∀ type service query answer,
      ((Resolver.facility type service).resolve query start.waypoint ctx).outcome =
        .ok (some answer) →
      ∃ s ∈ c.stations, ∃ t, c.find? s.systemName = some t ∧ answer.Names (s.name, s.marketId) := by
  intro ctx
  refine ⟨fun unknown => outcome_set_of_unknown first unknown .., fun target found => ?_,
    fun type service query answer => Resolver.exists_of_facility⟩
  refine ⟨_, outcome_set first second found .., ?_⟩
  by_cases here : target = start
  · -- The station is on the stop that is left out, and the start is at none.
    subst here
    have same : target.waypoint.sameSystem (target.waypoint.atStation
        (c.wanted system station).1 (c.wanted system station).2) = true := beq_self_eq_true _
    obtain ⟨w, points, same⟩ := Route.toDestination_of_here same
    have nowhere : w.stationName = none := congrArg Waypoint.stationName same
    have noMarket : w.marketId = none := congrArg Waypoint.marketId same
    rw [Answer.ofJumps, Route.names_ofRoute_iff points]
    simp [Waypoint.IsAt, Answer.ofRoute, points, nowhere, noMarket]
  · obtain ⟨w, points, -, -, same⟩ := Route.toDestination_of_away
      (sameSystem_atStation onChart (find?_eq_some_iff.1 found).1 here (c.wanted system station).1
        (c.wanted system station).2)
    have there : w.IsAt (c.wanted system station) :=
      ⟨congrArg Waypoint.stationName same, congrArg Waypoint.marketId same⟩
    rw [Answer.ofJumps, Route.names_ofRoute_iff points]
    simp [there, here]

/-- The answer at Sol names a station of Colonia. -/
theorem set_names_hub :
    let query : Query := { type := .set, arg0 := some "Colonia", arg1 := some " Hub " }
    ∃ answer, (Resolver.set.resolve query sol.waypoint
        ⟨frontier.atlas, TravellerState.traveller {}, [], {}⟩).outcome = .ok (some answer) ∧
      answer.Names ("Hub", none) := by
  intro query
  have first : query.first? = some "Colonia" := by decide +kernel
  have second : query.second? = some "Hub" := by decide +kernel
  have found : frontier.find? "Colonia" = some colonia :=
    find?_eq_some_iff.2 ⟨by simp [frontier], by decide +kernel⟩
  have wanted : frontier.wanted "Colonia" "Hub" = ("Hub", none) := by decide +kernel
  have away : colonia ≠ sol := fun same => absurd (congrArg StarSystem.address same) (by decide)
  have here : sol ∈ frontier.systems := List.mem_cons_self
  obtain ⟨answer, answered, names, -⟩ := (set_names_station_iff here first second
    (TravellerState.traveller {}) [] {}).2.1 colonia found
  rw [wanted] at names
  exact ⟨answer, answered, names.2 away⟩

/-- The answer at Sol does not name a station of Sol. -/
theorem set_forgets_station :
    let query : Query := { type := .set, arg0 := some "Sol", arg1 := some "Hub" }
    ∃ answer, (Resolver.set.resolve query sol.waypoint
        ⟨frontier.atlas, TravellerState.traveller {}, [], {}⟩).outcome = .ok (some answer) ∧
      ¬answer.Names (frontier.wanted "Sol" "Hub") := by
  intro query
  have second : query.second? = some "Hub" := by decide +kernel
  have found : frontier.find? "Sol" = some sol :=
    find?_eq_some_iff.2 ⟨List.mem_cons_self, by decide +kernel⟩
  refine ⟨_, outcome_set (by decide +kernel) second found .., fun names => ?_⟩
  exact absurd names.1 (by decide +kernel)

end Chart

end Astrogation
