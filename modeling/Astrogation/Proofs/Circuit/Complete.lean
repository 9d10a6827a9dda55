import Astrogation.Proofs.Circuit.Plan
import Astrogation.Proofs.Text.Lookup
import Mathlib.Data.Set.Subsingleton

/-!
# Mission circuits on a chart

On a chart, a circuit goes through the systems that serve a mission, the start and the
home (`OnCircuit`), each of them once, from the start to the home if there is one. There
is no circuit if and only if there is no other system than the start, or none of them
may start a tour (`circuit_correct`).
-/

namespace Astrogation

/-! ## Names of systems -/

namespace Mission

theorem distinctNames_concat (names : List String) (last : String) :
    distinctNames (names ++ [last]) = insertName (distinctNames names) last := by
  rw [distinctNames, distinctNames, List.foldl_append]
  rfl

/-- Of names which differ in case only one is kept, and nothing else is. -/
theorem distinctNames_spec (names : List String) :
    (∀ name ∈ distinctNames names, name ∈ names) ∧
      ∀ name ∈ names, ∃ kept ∈ distinctNames names, Text.sameIgnoringCase kept name = true := by
  -- The names are gone through from the left, so the induction is on the last of them.
  induction names using List.reverseRecOn with
  | nil => exact ⟨fun _ h => h, fun _ h => absurd h List.not_mem_nil⟩
  | append_singleton names last ih =>
    obtain ⟨known, covered⟩ := ih
    rw [distinctNames_concat, insertName]
    split
    · next there =>
      refine ⟨fun name h => List.mem_append_left [last] (known name h), fun name h => ?_⟩
      rcases List.mem_append.1 h with h | h
      · exact covered name h
      · obtain rfl := List.mem_singleton.1 h
        exact List.any_eq_true.1 there
    · refine ⟨fun name h => ?_, fun name h => ?_⟩
      · rcases List.mem_append.1 h with h | h
        · exact List.mem_append_left [last] (known name h)
        · exact List.mem_append_right names h
      · rcases List.mem_append.1 h with h | h
        · obtain ⟨kept, hkept, same⟩ := covered name h
          exact ⟨kept, List.mem_append_left [last] hkept, same⟩
        · exact ⟨name, List.mem_append_right _ h, Text.sameIgnoringCase_refl name⟩

/-- The names stand in the order in which they came: whatever came before one that is kept
    differs in case only from one that is kept before it. -/
theorem exists_split_of_distinctNames {names before after : List String} {name : String}
    (h : distinctNames names = before ++ name :: after) :
    ∃ front back, names = front ++ name :: back ∧
      ∀ other ∈ front, ∃ kept ∈ before, Text.sameIgnoringCase kept other = true := by
  induction names using List.reverseRecOn generalizing after with
  | nil => simp [distinctNames] at h
  | append_singleton names last ih =>
    rw [distinctNames_concat, insertName] at h
    split at h
    · obtain ⟨front, back, rfl, covered⟩ := ih h
      exact ⟨front, back ++ [last], by simp, covered⟩
    · rcases after.eq_nil_or_concat' with rfl | ⟨rest, z, rfl⟩
      · obtain ⟨rfl, last_eq⟩ := List.append_inj' h rfl
        obtain rfl := List.singleton_inj.1 last_eq
        exact ⟨names, [], rfl, (distinctNames_spec names).2⟩
      · rw [← List.cons_append, ← List.append_assoc] at h
        obtain ⟨front, back, rfl, covered⟩ := ih (List.append_inj' h rfl).1
        exact ⟨front, back ++ [last], by simp, covered⟩

end Mission

/-- The systems which are found under some names are those which are found under the
    names that are kept. -/
theorem Chart.mem_filterMap_distinctNames {c : Chart} {names : List String} {t : StarSystem} :
    t ∈ (Mission.distinctNames names).filterMap c.find? ↔
      ∃ name ∈ names, c.find? name = some t := by
  obtain ⟨known, covered⟩ := Mission.distinctNames_spec names
  rw [List.mem_filterMap]
  constructor
  · rintro ⟨name, h, found⟩
    exact ⟨name, known name h, found⟩
  · rintro ⟨name, h, found⟩
    obtain ⟨kept, hkept, same⟩ := covered name h
    refine ⟨kept, hkept, ?_⟩
    rw [Chart.find?_eq_some_iff] at found ⊢
    rwa [StarSystem.lookupKey_congr same]

namespace Circuit

/-! ## The systems of a circuit -/

variable {c : Chart} {missions : List Mission} {start t : StarSystem} {query : Query}
  {systems : List StarSystem} {m : Mission}

/-- The systems that a circuit has to go through: the start, the systems that serve
    active and eligible missions, and the home which the first argument names. -/
inductive OnCircuit (c : Chart) (missions : List Mission) (start : StarSystem) (query : Query) :
    StarSystem → Prop
  | start : OnCircuit c missions start query start
  | origin {m : Mission} {t : StarSystem} : m ∈ missions → m.isActive = true →
      m.routeEligible = true → m.returnToOrigin = true → c.find? m.origin = some t →
        OnCircuit c missions start query t
  | destination {m : Mission} {name : String} {t : StarSystem} : m ∈ missions →
      m.isActive = true → m.routeEligible = true → name ∈ m.destinations →
        c.find? name = some t → OnCircuit c missions start query t
  | home {name : String} {t : StarSystem} : query.first? = some name → c.find? name = some t →
      OnCircuit c missions start query t

/-- A system at which an active and eligible mission ends that has to return to its
    origin. -/
def MayNotStart (missions : List Mission) (t : StarSystem) : Prop :=
  ∃ m ∈ missions, m.isActive = true ∧ m.routeEligible = true ∧ m.returnToOrigin = true ∧
    ∃ name ∈ m.destinations, Text.sameIgnoringCase name t.name = true

theorem mem_eligible :
    m ∈ eligible missions ↔ m ∈ missions ∧ m.isActive = true ∧ m.routeEligible = true := by
  rw [eligible, Mission.active, List.mem_filter, List.mem_filter, and_assoc]

/-- The systems that serve the missions are looked up. -/
theorem onCircuit_iff : OnCircuit c missions start query t ↔
    (t = start ∨ t ∈ (systemNames (eligible missions)).filterMap c.find?) ∨
      query.first?.bind c.find? = some t := by
  rw [systemNames, Chart.mem_filterMap_distinctNames, Option.bind_eq_some_iff]
  constructor
  · rintro (_ | ⟨hm, active, eligible, returns, found⟩ | ⟨hm, active, eligible, hname, found⟩ |
      ⟨hname, found⟩)
    · exact .inl (.inl rfl)
    · refine .inl (.inr ⟨_, List.mem_append_left _ (List.mem_map_of_mem ?_), found⟩)
      exact List.mem_filter.2 ⟨mem_eligible.2 ⟨hm, active, eligible⟩, returns⟩
    · refine .inl (.inr ⟨_, List.mem_append_right _ (List.mem_flatMap.2 ⟨_, ?_, hname⟩), found⟩)
      exact mem_eligible.2 ⟨hm, active, eligible⟩
    · exact .inr ⟨_, hname, found⟩
  · rintro ((rfl | ⟨name, hname, found⟩) | ⟨name, hname, found⟩)
    · exact .start
    · rcases List.mem_append.1 hname with hname | hname
      · obtain ⟨m, hm, rfl⟩ := List.mem_map.1 hname
        obtain ⟨hm, returns⟩ := List.mem_filter.1 hm
        obtain ⟨hm, active, eligible⟩ := mem_eligible.1 hm
        exact .origin hm active eligible returns found
      · obtain ⟨m, hm, hname⟩ := List.mem_flatMap.1 hname
        obtain ⟨hm, active, eligible⟩ := mem_eligible.1 hm
        exact .destination hm active eligible hname found
    · exact .home hname found

theorem mayNotStart_iff : MayNotStart missions t ↔
    ((eligible missions).any fun m => m.returnToOrigin && m.hasDestination t.name) = true := by
  rw [List.any_eq_true]
  constructor
  · rintro ⟨m, hm, active, eligible, returns, ends⟩
    refine ⟨m, mem_eligible.2 ⟨hm, active, eligible⟩, ?_⟩
    exact Bool.and_eq_true_iff.2 ⟨returns, List.any_eq_true.2 ends⟩
  · rintro ⟨m, hm, h⟩
    obtain ⟨hm, active, eligible⟩ := mem_eligible.1 hm
    obtain ⟨returns, ends⟩ := Bool.and_eq_true_iff.1 h
    exact ⟨m, hm, active, eligible, returns, List.any_eq_true.1 ends⟩

/-- A place is forbidden if the system there may not start a tour. -/
theorem mem_forbiddenStarts_iff {place : Nat} :
    place ∈ forbiddenStarts (eligible missions) (systems.map StarSystem.circuitStop) ↔
      ∃ t, systems[place]? = some t ∧ MayNotStart missions t := by
  rw [forbiddenStarts, List.mem_map]
  constructor
  · rintro ⟨⟨stop, place⟩, h, rfl⟩
    obtain ⟨here, h⟩ := List.mem_filter.1 h
    rw [List.mem_zipIdx_iff_getElem?, List.getElem?_map, Option.map_eq_some_iff] at here
    obtain ⟨t, ht, rfl⟩ := here
    exact ⟨t, ht, mayNotStart_iff.2 h⟩
  · rintro ⟨t, ht, h⟩
    refine ⟨(t.circuitStop, place), List.mem_filter.2 ⟨?_, mayNotStart_iff.1 h⟩, rfl⟩
    rw [List.mem_zipIdx_iff_getElem?, List.getElem?_map, ht]
    rfl

theorem OnCircuit.onChart (h : OnCircuit c missions start query t) (hstart : start ∈ c.systems) :
    t ∈ c.systems := by
  cases h with
  | start => exact hstart
  | origin _ _ _ _ found => exact (Chart.find?_eq_some_iff.1 found).1
  | destination _ _ _ _ found => exact (Chart.find?_eq_some_iff.1 found).1
  | home _ found => exact (Chart.find?_eq_some_iff.1 found).1

/-- The systems of a chart under some names. -/
theorem systemsNamed_atlas (names : List String) :
    c.atlas.systemsNamed names = .reply ((names.filterMap c.find?).map StarSystem.waypoint) := by
  show Call.gather (fun name => .reply ((c.find? name).map StarSystem.waypoint)) names = _
  rw [Call.gather_reply, List.map_filterMap]

/-- On a chart nothing breaks down. -/
theorem outcome_circuit (c : Chart) (traveller : Traveller) (missions : List Mission)
    (config : Config) (query : Query) (start : Waypoint) :
    (Resolver.circuit.resolve query start ⟨c.atlas, traveller, missions, config⟩).outcome =
      .ok (plan? (eligible missions) start
        (((systemNames (eligible missions)).filterMap c.find?).map StarSystem.waypoint)
        ((query.first?.bind c.find?).map StarSystem.waypoint)) := by
  rw [Resolver.circuit, Consultation.outcome_bind, Context.systemsNamed, systemsNamed_atlas,
    Consultation.outcome_inquire_reply]
  cases query.first? with
  | none => rfl
  | some name => rfl

/-- The stops of a circuit are the systems that it has to go through, each once. It is
    anchored at the home unless that is the start. -/
theorem exists_stops (missions : List Mission) (query : Query) (hstart : start ∈ c.systems) :
    ∃ (stops : List StarSystem) (shape : CircuitShape),
      withHome start.waypoint
          (gather start.waypoint
            (((systemNames (eligible missions)).filterMap c.find?).map StarSystem.waypoint))
          ((query.first?.bind c.find?).map StarSystem.waypoint) =
        (stops.map StarSystem.circuitStop, shape) ∧
      stops.Nodup ∧ (∀ t, t ∈ stops ↔ OnCircuit c missions start query t) ∧
      ((shape = .cycle ∧ ∀ h ∈ query.first?.bind c.find?, h = start) ∨
        ∃ h place, query.first?.bind c.find? = some h ∧ stops[place]? = some h ∧
          shape = .anchored place) := by
  have known : ∀ t ∈ (systemNames (eligible missions)).filterMap c.find?, t ∈ c.systems := by
    intro t ht
    obtain ⟨name, -, found⟩ := List.mem_filterMap.1 ht
    exact (Chart.find?_eq_some_iff.1 found).1
  have home : ∀ h ∈ query.first?.bind c.find?, h ∈ c.systems := by
    intro h hh
    obtain ⟨name, -, found⟩ := Option.bind_eq_some_iff.1 hh
    exact (Chart.find?_eq_some_iff.1 found).1
  obtain ⟨gathered, hgathered, nodup, mem⟩ := exists_gather hstart known
  have gatheredOnChart : ∀ t ∈ gathered, t ∈ c.systems := by
    intro t ht
    rcases (mem t).1 ht with rfl | ht
    · exact hstart
    · exact known t ht
  obtain ⟨stops, shape, hstops, nodup, mem', laidOut⟩ :=
    exists_withHome ((mem start).2 (.inl rfl)) gatheredOnChart nodup home
  refine ⟨stops, shape, ?_, nodup, fun t => ?_, laidOut⟩
  · rw [hgathered, hstops]
  · rw [mem', mem, onCircuit_iff]

/-- There is no circuit if there are fewer than two systems to go through, or none of
    them may start a tour. -/
theorem plan?_eq_none_iff {stops : List StarSystem} {shape : CircuitShape} {ws : List Waypoint}
    {home : Option Waypoint}
    (hstops : withHome start.waypoint (gather start.waypoint ws) home =
      (stops.map StarSystem.circuitStop, shape)) :
    plan? (eligible missions) start.waypoint ws home = none ↔
      stops.length < 2 ∨ ∀ t ∈ stops, MayNotStart missions t := by
  rw [plan?_eq hstops, Option.map_eq_none_iff, Matrix.bestTour?_eq_none_iff, List.length_map]
  refine or_congr_right ⟨fun all t ht => ?_, fun all i => ?_⟩
  · obtain ⟨place, bound, rfl⟩ := List.mem_iff_getElem.1 ht
    obtain ⟨t, here, barred⟩ := mem_forbiddenStarts_iff.1 (all ⟨place, bound⟩)
    rw [List.getElem?_eq_getElem bound] at here
    exact Option.some.inj here ▸ barred
  · exact mem_forbiddenStarts_iff.2
      ⟨stops[i.val], List.getElem?_eq_getElem i.isLt, all _ (List.getElem_mem i.isLt)⟩

/-- A circuit through systems of a chart goes through all of them, in an order which ends
    where it is anchored. -/
theorem exists_order_of_plan? {stops : List StarSystem} {shape : CircuitShape}
    {ws : List Waypoint} {home : Option Waypoint} {answer : Answer}
    (hstops : withHome start.waypoint (gather start.waypoint ws) home =
      (stops.map StarSystem.circuitStop, shape))
    (h : plan? missions start.waypoint ws home = some answer) :
    ∃ order : List StarSystem, order.Perm stops ∧
      answer.route = route missions start.waypoint (order.map StarSystem.waypoint) ∧
      answer.count = answer.route.size ∧
      ∀ place t, shape = .anchored place → stops[place]? = some t → order.getLast? = some t := by
  obtain ⟨places, everywhere, hroute, count, anchored⟩ := answer_plan? hstops h
  have size : (stops.map StarSystem.circuitStop).length = stops.length := List.length_map _
  let system (i : Fin (stops.map StarSystem.circuitStop).length) : StarSystem :=
    stops.get ⟨i.val, size ▸ i.isLt⟩
  refine ⟨places.map system, ?_, ?_, count, fun place t hshape here => ?_⟩
  · refine (everywhere.map system).trans (.of_eq (List.ext_getElem ?_ fun i _ _ => ?_))
    · rw [List.length_map, List.length_finRange, size]
    · rw [List.getElem_map, List.getElem_finRange]
      rfl
  · rw [hroute, List.map_map]
    refine congrArg (route missions start.waypoint) (List.map_congr_left fun i _ => ?_)
    exact congrArg CircuitStop.waypoint (List.getElem_map _)
  · obtain ⟨bound, rfl⟩ := List.getElem?_eq_some_iff.1 here
    rw [List.getLast?_map, anchored ⟨place, size ▸ bound⟩ hshape]
    rfl

/-- The route of a circuit is that of a tour which comes to every system that it has to go
    through, each once. -/
theorem exists_order_of_circuit {traveller : Traveller} {config : Config} {answer : Answer}
    (hstart : start ∈ c.systems)
    (h : (Resolver.circuit.resolve query start.waypoint
      ⟨c.atlas, traveller, missions, config⟩).outcome = .ok (some answer)) :
    ∃ order : List StarSystem, order.Nodup ∧
      (∀ t, t ∈ order ↔ OnCircuit c missions start query t) ∧
      answer.route = route (eligible missions) start.waypoint (order.map StarSystem.waypoint) := by
  rw [outcome_circuit, Except.ok.injEq] at h
  obtain ⟨stops, shape, hstops, nodup, mem, -⟩ := exists_stops missions query hstart
  obtain ⟨order, perm, hroute, -, -⟩ := exists_order_of_plan? hstops h
  exact ⟨order, perm.nodup_iff.2 nodup, fun t => perm.mem_iff.trans (mem t), hroute⟩

/-- Fewer than two systems without repetition are at most one. -/
theorem length_lt_two_iff {stops : List StarSystem} (nodup : stops.Nodup) :
    stops.length < 2 ↔ {t | t ∈ stops}.Subsingleton := by
  match stops, nodup with
  | [], _ => exact ⟨fun _ s hs => absurd hs List.not_mem_nil, fun _ => Nat.zero_lt_two⟩
  | [s], _ =>
    refine ⟨fun _ t ht u hu => ?_, fun _ => Nat.one_lt_two⟩
    exact (List.mem_singleton.1 ht).trans (List.mem_singleton.1 hu).symm
  | s :: t :: rest, nodup =>
    refine ⟨fun few => absurd few (by simp), fun same => ?_⟩
    have again : s = t := same List.mem_cons_self (List.mem_cons_of_mem s List.mem_cons_self)
    exact absurd (again ▸ List.mem_cons_self) (List.nodup_cons.1 nodup).1

/-- From a system of a chart, there is no circuit if and only if it would go through
    fewer than two systems, or none of them may start a tour. Otherwise it goes through
    all of them, each once, and nowhere else. It begins with the start, which alone is
    visited, and ends at the home if that is known and not the start. -/
theorem circuit_correct (hstart : start ∈ c.systems) (traveller : Traveller)
    (missions : List Mission) (config : Config) (query : Query) :
    ∃ answer?, (Resolver.circuit.resolve query start.waypoint
        ⟨c.atlas, traveller, missions, config⟩).outcome = .ok answer? ∧
      (answer? = none ↔ {t | OnCircuit c missions start query t}.Subsingleton ∨
        ∀ t, OnCircuit c missions start query t → MayNotStart missions t) ∧
      ∀ answer, answer? = some answer → ∃ order : List StarSystem,
        answer.route.waypoints.map Waypoint.bare = order.map StarSystem.waypoint ∧
        order.Nodup ∧ (∀ t, t ∈ order ↔ OnCircuit c missions start query t) ∧
        order.head? = some start ∧
        (∃ w ws, answer.route.waypoints = w :: ws ∧ w.visited = true ∧
          ∀ v ∈ ws, v.visited = false) ∧
        (∀ name home, query.first? = some name → c.find? name = some home → home ≠ start →
          order.getLast? = some home) ∧
        answer.count = order.length := by
  obtain ⟨stops, shape, hstops, nodup, mem, laidOut⟩ := exists_stops missions query hstart
  have onChart : ∀ t ∈ stops, t ∈ c.systems := fun t ht => ((mem t).1 ht).onChart hstart
  refine ⟨_, outcome_circuit c traveller missions config query start.waypoint, ?_, ?_⟩
  · have same : {t | t ∈ stops} = {t | OnCircuit c missions start query t} := Set.ext mem
    rw [plan?_eq_none_iff hstops, length_lt_two_iff nodup, same]
    exact or_congr_right (forall_congr' fun t => imp_congr_left (mem t))
  · intro answer planned
    -- The tour comes to all stops; the route has them in its order, from the start on.
    obtain ⟨order, perm, hroute, count, anchored⟩ := exists_order_of_plan? hstops planned
    have orderOnChart : ∀ t ∈ order, t ∈ c.systems := fun t ht => onChart t (perm.mem_iff.1 ht)
    have comes : start ∈ order := perm.mem_iff.2 ((mem start).2 .start)
    have orderNodup : order.Nodup := perm.nodup_iff.2 nodup
    have stopsOfRoute := map_bare_route (eligible missions) orderOnChart orderNodup comes
    rw [← hroute] at stopsOfRoute
    refine ⟨systemsFrom start order, stopsOfRoute, nodup_systemsFrom orderNodup, fun t => ?_, rfl,
      ?_, ?_, ?_⟩
    · rw [mem_systemsFrom orderOnChart comes, perm.mem_iff, mem]
    · refine (fresh_of_plan? (fun w hw => ?_) (fun w hw => ?_) planned).begun
      · obtain ⟨t, -, rfl⟩ := List.mem_map.1 hw
        exact t.visited_waypoint
      · obtain ⟨t, -, rfl⟩ := Option.map_eq_some_iff.1 hw
        exact t.visited_waypoint
    · intro name home hname found other
      have known : query.first?.bind c.find? = some home := by rw [hname, Option.bind_some, found]
      rcases laidOut with ⟨-, here⟩ | ⟨h, place, hhome, hplace, hshape⟩
      · exact absurd (here home known) other
      · obtain rfl := Option.some.inj (hhome.symm.trans known)
        refine getLast?_systemsFrom (anchored place h hshape hplace) fun same => ?_
        exact other (Chart.eq_of_address (Chart.find?_eq_some_iff.1 found).1 hstart same)
    · rw [count, Route.size, ← List.length_map Waypoint.bare, stopsOfRoute, List.length_map]

/-- A delivery from Jackson to Colonia and back. -/
def delivery : Mission :=
  { id := 1, origin := "Jackson", returnToOrigin := true, destinations := ["COLONIA"] }

theorem onCircuit_delivery {query : Query} (home : query.first? = some "jackson") :
    OnCircuit Chart.frontier [delivery] Chart.sol query t ↔
      t = Chart.sol ∨ t = Chart.jackson ∨ t = Chart.colonia := by
  have served : (systemNames (eligible [delivery])).filterMap Chart.frontier.find? =
      [Chart.jackson, Chart.colonia] := rfl
  have found : query.first?.bind Chart.frontier.find? = some Chart.jackson := by
    rw [home]
    rfl
  rw [onCircuit_iff, served, found, List.mem_cons, List.mem_singleton, Option.some.injEq]
  constructor
  · rintro (h | rfl)
    · exact h
    · exact .inr (.inl rfl)
  · exact .inl

/-- The delivery is carried out from Sol, and ends at Jackson if that is home. -/
theorem circuit_sol_jackson :
    let query : Query := { type := .route, arg0 := some "jackson" }
    Chart.sol ∈ Chart.frontier.systems ∧
      ∃ (answer : Answer) (order : List StarSystem),
        (Resolver.circuit.resolve query Chart.sol.waypoint
          ⟨Chart.frontier.atlas, TravellerState.traveller {}, [delivery], {}⟩).outcome =
            .ok (some answer) ∧
        answer.route.waypoints.map Waypoint.bare = order.map StarSystem.waypoint ∧
        order.Nodup ∧ (∀ t, t ∈ order ↔ t = Chart.sol ∨ t = Chart.jackson ∨ t = Chart.colonia) ∧
        order.head? = some Chart.sol ∧ order.getLast? = some Chart.jackson ∧
        answer.count = order.length := by
  intro query
  have onChart : Chart.sol ∈ Chart.frontier.systems := List.mem_cons_self
  have home : query.first? = some "jackson" := rfl
  have found : Chart.frontier.find? "jackson" = some Chart.jackson := rfl
  have other : Chart.jackson ≠ Chart.sol := fun same =>
    absurd (congrArg StarSystem.address same) (by decide)
  obtain ⟨answer?, answered, unanswered, whole⟩ := circuit_correct onChart
    (TravellerState.traveller {}) [delivery] {} query
  cases answer? with
  | none =>
    rcases unanswered.1 rfl with few | barred
    · exact absurd (few (.home home found) .start) other
    · exact absurd (mayNotStart_iff.1 (barred Chart.sol .start)) (by decide)
  | some answer =>
    obtain ⟨order, stops, nodup, mem, first, -, last, count⟩ := whole answer rfl
    exact ⟨onChart, answer, order, answered, stops, nodup,
      fun t => (mem t).trans (onCircuit_delivery home), first,
      last "jackson" Chart.jackson home found other, count⟩

end Circuit

end Astrogation
