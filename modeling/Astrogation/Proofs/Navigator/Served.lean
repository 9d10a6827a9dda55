import Astrogation.Proofs.Navigator.Remembered
import Astrogation.Proofs.Resolver.Recognised

/-!
# Missions which are served

A route *serves* missions (`Route.Serves`) if it comes to every system of the chart that is
found under a destination of an active and eligible mission, or under the origin of one that
has to return there. Every circuit that is planned serves the missions for which it is
planned. But the answer to a query may be the route that is stored, if it is a circuit to
the same system which has no more stops; it serves the missions if the stored circuit does
(`Chart.circuit_serves`), and it need not if it was planned for others
(`Chart.circuit_unserved`).

Hence circuits serve the missions all along a run on which no mission is added
(`Chart.serves_run`).
-/

namespace Astrogation

/-- A system which an active and eligible mission has to come to. -/
def Chart.Needs (c : Chart) (missions : List Mission) (t : StarSystem) : Prop :=
  ∃ m ∈ missions, m.isActive = true ∧ m.routeEligible = true ∧
    ∃ name ∈ m.stops, c.find? name = some t

/-- A route which comes to every system that missions need. -/
def Route.Serves (c : Chart) (missions : List Mission) (r : Route) : Prop :=
  ∀ t, c.Needs missions t → r.contains t.address = true

/-- A configuration in which a circuit, if it is stored, serves missions. -/
def Config.Serves (c : Chart) (missions : List Mission) (config : Config) : Prop :=
  config.plottedQuery = some .route → ∀ r, config.plottedRoute = some r → r.Serves c missions

variable {σ : Type} {c : Chart} {missions : List Mission} {start t : StarSystem} {query : Query}
  {traveller : Traveller} {config : Config} {answer : Answer} {r s : Route}

/-! ## Fresh circuits -/

namespace Route

theorem contains_iff {address : Address} :
    r.contains address = true ↔ some address ∈ r.waypoints.map (·.address) := by
  rw [contains, List.any_eq_true, List.mem_map]
  simp only [Waypoint.hasAddress, beq_iff_eq]

theorem contains_congr (h : r.waypoints.map (·.address) = s.waypoints.map (·.address))
    (address : Address) : r.contains address = s.contains address := by
  rw [Bool.eq_iff_iff, contains_iff, contains_iff, h]

/-- A route along which more stops have been visited serves the same missions. -/
theorem Serves.markVisitedThrough {address : Address} (h : r.Serves c missions)
    (marked : r.markVisitedThrough? address = some s) : s.Serves c missions := by
  obtain ⟨vs, hvs, rfl⟩ := Option.map_eq_some_iff.1 marked
  obtain ⟨behind, ahead, split, -, rfl⟩ := visitThrough?_eq_append hvs
  intro t needed
  rw [← contains_congr (r := r) ?_ t.address]
  · exact h t needed
  · rw [split, List.map_append, List.map_append, List.map_map]
    rfl

end Route

namespace Circuit

theorem onCircuit_of_needs (h : c.Needs missions t) : OnCircuit c missions start query t := by
  obtain ⟨m, hm, active, eligible, name, hname, found⟩ := h
  rcases List.mem_append.1 hname with hname | hname
  · exact .destination hm active eligible hname found
  · rw [Mission.returns] at hname
    split at hname
    · next returns => exact .origin hm active eligible returns (List.mem_singleton.1 hname ▸ found)
    · exact absurd hname List.not_mem_nil

/-- A circuit serves the missions for which it is planned. -/
theorem serves_of_circuit (hstart : start ∈ c.systems)
    (h : (Resolver.circuit.resolve query start.waypoint
      ⟨c.atlas, traveller, missions, config⟩).outcome = .ok (some answer)) :
    answer.route.Serves c missions := by
  obtain ⟨order, nodup, mem, hroute⟩ := exists_order_of_circuit hstart h
  have onChart : ∀ t ∈ order, t ∈ c.systems := fun t ht => ((mem t).1 ht).onChart hstart
  have comes : start ∈ order := (mem start).2 .start
  have stops := map_bare_route (eligible missions) onChart nodup comes
  intro t needed
  have ht : t ∈ systemsFrom start order :=
    (mem_systemsFrom onChart comes).2 ((mem t).2 (onCircuit_of_needs needed))
  have stop : t.waypoint ∈ answer.route.waypoints.map Waypoint.bare := by
    rw [hroute, stops]
    exact List.mem_map_of_mem ht
  obtain ⟨w, hw, same⟩ := List.mem_map.1 stop
  rw [Route.contains_iff]
  exact List.mem_map.2 ⟨w, hw, congrArg Waypoint.address same⟩

end Circuit

/-! ## Stored circuits -/

namespace Config

/-- Only circuits are continuous with circuits. -/
theorem plottedQuery_of_storedRoute?_route (h : config.storedRoute? .route = some r) :
    config.plottedQuery = some .route := by
  have continuous : ∀ q, QueryType.isContinuousWith .route q = true → q = .route := by
    intro q
    cases q <;> decide
  rw [storedRoute?, if_pos (by decide), if_neg (by decide)] at h
  split at h
  · next related =>
    obtain ⟨q, plotted, related⟩ := (Option.any_eq_true _ _).1 related
    rw [plotted, continuous q related]
  · cases h

/-- A fresh circuit is given as it is, or it gives way to the one that is stored, which
    leads to the same system and has no more stops. -/
theorem settle_route_cases (config : Config) (fresh : Answer) :
    config.settle .route fresh = fresh ∨
      ∃ stored, config.plottedQuery = some .route ∧ config.plottedRoute = some stored ∧
        config.settle .route fresh = fresh.withRoute stored ∧
        stored.sameGoal fresh.route = true ∧ stored.size ≤ fresh.route.size := by
  rcases config.settle_cases .route fresh with same | ⟨stored, here, kept⟩
  · exact .inl same
  · exact .inr ⟨stored, plottedQuery_of_storedRoute?_route here,
      plottedRoute_of_storedRoute? (by decide) here, kept⟩

theorem Serves.settle {fresh : Answer} (h : config.Serves c missions)
    (hfresh : fresh.route.Serves c missions) :
    (config.settle .route fresh).route.Serves c missions := by
  rcases config.settle_route_cases fresh with same | ⟨stored, plotted, hstored, same, -⟩
  · rw [same]
    exact hfresh
  · rw [same]
    exact h plotted stored hstored

theorem serves_default : ({} : Config).Serves c missions := fun _ _ none => nomatch none

/-- Of the queries only those for a circuit, and those which manage the stored route, are of
    any account. -/
theorem Serves.remember {route : Route} (h : config.Serves c missions)
    (circuit : query.type = .route → route.Serves c missions)
    (update : query.type = .update → config.plottedQuery = some .route →
      route.Serves c missions) :
    (config.remember query route).Serves c missions := by
  have kept : (config.rememberQuery query).plottedQuery = config.plottedQuery ∧
      (config.rememberQuery query).plottedRoute = config.plottedRoute := by
    rw [rememberQuery]
    split <;> exact ⟨rfl, rfl⟩
  rw [Config.remember, rememberRoute.eq_def]
  split
  · exact fun plotted r hr => h (kept.1 ▸ plotted) r (kept.2 ▸ hr)
  · intro plotted r none
    cases none
  · next type =>
    intro plotted r hr
    exact Option.some.inj hr ▸ update type (kept.1 ▸ plotted)
  · intro plotted r hr
    exact Option.some.inj hr ▸ circuit (Option.some.inj plotted)

end Config

/-! ## Answers and runs -/

section Answers

/-- An answer to a query for a circuit is the circuit that is planned, compared with the one
    that is stored. -/
theorem Chart.exists_circuit_of_consult {o : Occasion σ} (asks : o.query.type = .route)
    (consulted : ((c.navigator o).consult o.query config).outcome = .ok (some answer)) :
    ∃ start missions fresh, o.traveller.system = .reply (some start) ∧
      o.traveller.missions = .reply missions ∧
      (Resolver.circuit.resolve o.query start ⟨c.atlas, o.traveller, missions, config⟩).outcome =
        .ok (some fresh) ∧
      answer = config.settle .route fresh := by
  obtain ⟨start, resolver, missions, fresh, hstart, registered, hmissions, planned, rfl⟩ :=
    Navigator.exists_of_consult consulted
  rw [asks] at hstart registered
  have standard : Registry.standard.get? .route = some Resolver.circuit := rfl
  obtain rfl := Option.some.inj (standard.symm.trans registered)
  exact ⟨start, missions, fresh, hstart, hmissions, planned, by rw [asks]⟩

end Answers

section Runs

/-- An occasion on which at least these missions are to be carried out, and the traveller,
    if they are anywhere, is at a system of the chart. -/
structure Occasion.Lists (c : Chart) (missions : List Mission) (o : Occasion σ) : Prop where
  onChart : ∀ w, o.traveller.system = .reply (some w) → ∃ start ∈ c.systems, w = start.waypoint
  needs : ∀ listed, o.traveller.missions = .reply listed →
    ∀ t, c.Needs missions t → c.Needs listed t

/-- A query asked on such an occasion leaves a stored circuit which serves the missions. -/
theorem Config.Serves.evolves {o : Occasion σ} {config' : Config} (h : config.Serves c missions)
    (lists : o.Lists c missions)
    (evolves : (c.navigator o).Evolves o.query config config') : config'.Serves c missions := by
  rcases evolves with rfl | ⟨answer, consulted, rfl⟩
  · exact h
  refine h.remember (fun asks => ?_) fun asks plotted => ?_
  · -- A circuit is planned from a system of the chart, for these missions and others.
    obtain ⟨start, listed, fresh, hstart, hlisted, planned, rfl⟩ :=
      Chart.exists_circuit_of_consult asks consulted
    obtain ⟨start, onChart, rfl⟩ := lists.onChart start hstart
    exact h.settle fun t needed =>
      Circuit.serves_of_circuit onChart planned t (lists.needs listed hlisted t needed)
  · -- The stored circuit is updated, and is not compared with itself.
    obtain ⟨start, resolver, listed, fresh, -, registered, -, answered, rfl⟩ :=
      Navigator.exists_of_consult consulted
    rw [asks] at registered
    have standard : Registry.standard.get? .update = some Resolver.update := rfl
    obtain rfl := Option.some.inj (standard.symm.trans registered)
    obtain ⟨r, address, updated, hr, -, visited, rfl⟩ := Resolver.answer_update answered
    rw [asks]
    exact (h plotted r hr).markVisitedThrough visited

theorem Chart.serves_run {occasions : List (Occasion σ)} {s : Session σ}
    (h : s.published.config.Serves c missions) (lists : ∀ o ∈ occasions, o.Lists c missions) :
    (c.run occasions s).published.config.Serves c missions := by
  induction occasions generalizing s with
  | nil => exact h
  | cons o rest ih =>
    refine ih ?_ fun o' ho' => lists o' (List.mem_cons_of_mem o ho')
    exact h.evolves (lists o List.mem_cons_self) ((c.navigator o).evolves_resolve o.query s)

/-- Whatever is stored: from a system of the chart, if a query for a circuit is answered,
    then a circuit has been planned which serves the missions. The answer is this circuit,
    unless a circuit is stored which leads to the same system and has no more stops. Then
    the answer has the stored route, which serves the missions if the stored circuit does;
    and it does at the end of a run on which at least these missions were to be carried out,
    if it did at the beginning. -/
theorem Chart.circuit_serves (c : Chart) (missions : List Mission) :
    (∀ (o : Occasion σ) (s : Session σ) (start : StarSystem) (answer : Answer),
      start ∈ c.systems → o.traveller.system = .reply (some start.waypoint) →
      o.traveller.missions = .reply missions → o.query.type = .route →
      ((c.navigator o).resolve o.query s).outcome = .ok (some answer) →
      ∃ fresh, (Resolver.circuit.resolve o.query start.waypoint
          ⟨c.atlas, o.traveller, missions, s.published.config⟩).outcome = .ok (some fresh) ∧
        fresh.route.Serves c missions ∧
        (answer = fresh ∨ ∃ stored, s.published.config.plottedQuery = some .route ∧
          s.published.config.plottedRoute = some stored ∧ answer = fresh.withRoute stored ∧
          stored.sameGoal fresh.route = true ∧ stored.size ≤ fresh.route.size) ∧
        (s.published.config.Serves c missions → answer.route.Serves c missions)) ∧
    ∀ (occasions : List (Occasion σ)) (s : Session σ), s.published.config.Serves c missions →
      (∀ o ∈ occasions, o.Lists c missions) →
      (c.run occasions s).published.config.Serves c missions := by
  refine ⟨fun o s start answer onChart here listed asks answered => ?_,
    fun occasions s h lists => serves_run h lists⟩
  obtain ⟨start', missions', fresh, here', listed', planned, rfl⟩ :=
    exists_circuit_of_consult asks (Navigator.consulted_of_answered answered)
  obtain rfl := Option.some.inj (Call.reply.inj (here'.symm.trans here))
  obtain rfl := Call.reply.inj (listed'.symm.trans listed)
  have serves := Circuit.serves_of_circuit onChart planned
  refine ⟨fresh, planned, serves, ?_, fun h => h.settle serves⟩
  exact s.published.config.settle_route_cases fresh

/-- At Sol, a query for a circuit which ends at Colonia, with some missions. -/
def Chart.homeward (missions : List Mission) : Occasion Unit where
  query := { type := .route, arg0 := some "colonia" }
  traveller := TravellerState.traveller { system := some sol.waypoint, missions }
  store := { load := fun _ => .ok {}, save := fun _ _ => (.reply (.ok ()), ()) }
  observers := []

/-- A delivery from Sol to Jackson. -/
def Chart.errand : Mission := { id := 1, origin := "Sol", destinations := ["Jackson"] }

/-- The session after such a query, with the missions that there were before. -/
def Chart.planned (before : List Mission) : Session Unit :=
  frontier.run [homeward before] { published := {}, vault := () }

/-- The answer to such a query, asked again. -/
def Chart.replanned (before now : List Mission) : Turn Unit (Option Answer) :=
  (frontier.navigator (homeward now)).resolve (homeward now).query (planned before)

/-- If the errand is known from the beginning, a circuit which is asked for again comes to
    Jackson. -/
theorem Chart.serves_errand :
    (planned [errand]).published.config.Serves frontier [errand] ∧
      ∃ answer, (replanned [errand] [errand]).outcome = .ok (some answer) ∧
        answer.route.contains jackson.address = true := by
  obtain ⟨step, run⟩ := @Chart.circuit_serves Unit frontier [errand]
  have lists : (homeward [errand]).Lists frontier [errand] :=
    ⟨fun w hw => ⟨sol, List.mem_cons_self, (Option.some.inj (Call.reply.inj hw)).symm⟩,
      fun listed hlisted t needed => Call.reply.inj hlisted ▸ needed⟩
  have stored : (planned [errand]).published.config.Serves frontier [errand] := by
    rw [planned]
    exact run [homeward [errand]] { published := {}, vault := () } Config.serves_default
      fun o ho => List.mem_singleton.1 ho ▸ lists
  obtain ⟨answer, answered, -⟩ : ∃ answer,
      (replanned [errand] [errand]).outcome = .ok (some answer) ∧ answer.type == .route :=
    Answer.exists_of_any (by decide +kernel)
  obtain ⟨fresh, -, -, -, serves⟩ :=
    step (homeward [errand]) (planned [errand]) sol answer List.mem_cons_self rfl rfl rfl answered
  refine ⟨stored, answer, answered, serves stored jackson ?_⟩
  exact ⟨errand, List.mem_cons_self, rfl, rfl, "Jackson", List.mem_cons_self, rfl⟩

/-- A circuit which was planned before there was the errand is kept, and does not come to
    Jackson. -/
theorem Chart.circuit_unserved :
    ∃ answer, (replanned [] [errand]).outcome = .ok (some answer) ∧
      frontier.Needs [errand] jackson ∧ answer.route.contains jackson.address = false := by
  obtain ⟨answer, answered, passes⟩ : ∃ answer,
      (replanned [] [errand]).outcome = .ok (some answer) ∧
        (!answer.route.contains jackson.address) = true :=
    Answer.exists_of_any (by decide +kernel)
  refine ⟨answer, answered, ?_, Bool.not_eq_true' _ ▸ passes⟩
  exact ⟨errand, List.mem_cons_self, rfl, rfl, "Jackson", List.mem_cons_self, rfl⟩

end Runs

end Astrogation
