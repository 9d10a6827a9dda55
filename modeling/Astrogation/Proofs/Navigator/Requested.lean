import Astrogation.Proofs.Navigator.Beginning
import Astrogation.Proofs.Resolver.Named
import Astrogation.Proofs.Route.Offered

/-!
# Stations which are asked for

A query may ask for a route to a station of another system. The resolver plans a route of two
stops, of which the second is at the station (`Chart.exists_planned`); but the route that is
stored stays if it leads to the same system and has no more than two stops (`Config.Keeps`), be
it to another station. Then the answer describes the stored route, and is for the station if that
route leads there (`Chart.set_answers_station`); and otherwise it is not
(`Chart.set_answers_other_station`).
-/

namespace Astrogation

/-! ## Stations of answers -/

/-- An answer which names a station, and so does the last stop of its route. -/
structure Answer.IsFor (a : Answer) (station : String × Option MarketId) : Prop where
  name : a.station = some station.1
  market : a.marketId = station.2
  stop : ∃ w, a.route.destination? = some w ∧ w.IsAt station

/-- A route is stored which stays if a route of two stops to this address is plotted. -/
structure Config.Keeps (config : Config) (address : Address) (stored : Route) : Prop where
  plotted : config.storedRoute? .set = some stored
  goal : stored.goal? = some address
  size : stored.size ≤ 2

namespace Config

variable {config : Config} {address : Address} {stored : Route} {fresh : Answer}

theorem settle_of_keeps (h : config.Keeps address stored) (goal : fresh.route.goal? = some address)
    (size : fresh.route.size = 2) : config.settle .set fresh = fresh.withRoute stored := by
  have stays : fresh.route.supersedes stored = false :=
    Route.supersedes_eq_false_iff.2 ⟨address, h.goal, goal, h.size.trans size.ge⟩
  rw [settle, h.plotted]
  exact if_neg (by simp [stays])

theorem settle_of_forall_not_keeps (h : ∀ stored, ¬config.Keeps address stored)
    (goal : fresh.route.goal? = some address) (size : fresh.route.size = 2) :
    config.settle .set fresh = fresh := by
  rw [settle]
  split
  · next stored plotted =>
    split
    · rfl
    · next stays =>
      obtain ⟨address', hstored, hfresh, shorter⟩ :=
        Route.supersedes_eq_false_iff.1 (Bool.not_eq_true _ ▸ stays)
      obtain rfl := Option.some.inj (hfresh.symm.trans goal)
      exact absurd ⟨plotted, hstored, shorter.trans size.le⟩ (h stored)
  · rfl

end Config

namespace Route

variable {r : Route} {w : Waypoint} {station : String × Option MarketId}

/-- The answer with a route is for a station if the stop that the route points to is there, and
    the last stop as well. -/
theorem isFor_ofRoute_iff {type : QueryType} {count : Nat} :
    (Answer.ofRoute type r count).IsFor station ↔
      (∃ w, r.target? = some w ∧ w.IsAt station) ∧
        ∃ w, r.destination? = some w ∧ w.IsAt station := by
  constructor
  · rintro ⟨name, market, stop⟩
    obtain ⟨w, target, name⟩ := Option.bind_eq_some_iff.1 name
    rw [Answer.ofRoute, target] at market
    exact ⟨⟨w, target, name, market⟩, stop⟩
  · rintro ⟨⟨w, target, name, market⟩, stop⟩
    refine ⟨?_, ?_, stop⟩
    · rw [Answer.ofRoute, target]
      exact name
    · rw [Answer.ofRoute, target]
      exact market

end Route

/-! ## Queries for a station -/

namespace Chart

variable {σ : Type} {c : Chart} {start target : StarSystem} {query : Query} {config : Config}
  {system station : String}

/-- The route that is planned to a station of another system has two stops, of which the second
    is at the station. -/
theorem exists_planned (onChart : start ∈ c.systems) (found : c.find? system = some target)
    (away : target ≠ start) (first : query.first? = some system)
    (second : query.second? = some station) (traveller : Traveller) (missions : List Mission)
    (config : Config) :
    ∃ route w,
      (Resolver.set.resolve query start.waypoint ⟨c.atlas, traveller, missions, config⟩).outcome =
        .ok (some (.ofJumps .set route)) ∧
      route.target? = some w ∧ route.destination? = some w ∧ w.IsAt (c.wanted system station) ∧
      route.goal? = some target.address ∧ route.size = 2 := by
  obtain ⟨w, points, ends, size, same⟩ := Route.toDestination_of_away
    (sameSystem_atStation onChart (find?_eq_some_iff.1 found).1 away (c.wanted system station).1
      (c.wanted system station).2)
  refine ⟨_, w, outcome_set first second found .., points, ends, ?_, ?_, size⟩
  · exact ⟨congrArg Waypoint.stationName same, congrArg Waypoint.marketId same⟩
  · rw [Route.goal?, ends]
    exact congrArg Waypoint.address same

/-- A query for a station of another system is answered for this station, whatever is stored,
    unless that is a route of no more than two stops to the same system. Then the answer
    describes the stored route, and is for the station just if the stop which that route points
    to and its last stop are there. -/
theorem set_answers_station {r : Request σ} {s : Session σ} {answer : Answer}
    (standard : r.navigator.registry = .standard) (atlas : r.navigator.atlas = c.atlas)
    (here : r.navigator.traveller.system = .reply (some start.waypoint))
    (onChart : start ∈ c.systems) (type : r.query.type = .set)
    (first : r.query.first? = some system) (second : r.query.second? = some station)
    (found : c.find? system = some target) (away : target ≠ start)
    (answered : (r.navigator.resolve r.query s).outcome = .ok (some answer)) :
    ((∀ stored, ¬s.published.config.Keeps target.address stored) →
      answer.IsFor (c.wanted system station)) ∧
    ∀ stored, s.published.config.Keeps target.address stored →
      answer = .ofRoute .set stored stored.jumps ∧
      (answer.IsFor (c.wanted system station) ↔
        (∃ w, stored.target? = some w ∧ w.IsAt (c.wanted system station)) ∧
          ∃ w, stored.destination? = some w ∧ w.IsAt (c.wanted system station)) := by
  obtain ⟨start', resolver, missions, fresh, hstart, registered, -, planned, rfl⟩ :=
    Navigator.exists_of_consult (Navigator.consulted_of_answered answered)
  rw [type] at hstart registered ⊢
  rw [standard] at registered
  obtain rfl : resolver = Resolver.set := (Option.some.inj registered).symm
  obtain rfl : start.waypoint = start' := Option.some.inj (Call.reply.inj (here.symm.trans hstart))
  obtain ⟨route, w, outcome, points, ends, there, goal, size⟩ :=
    exists_planned onChart found away first second r.navigator.traveller missions
      s.published.config
  rw [atlas, outcome] at planned
  obtain rfl := Option.some.inj (Except.ok.inj planned)
  -- What is planned is for the station; it only matters which route is kept.
  constructor
  · intro fresh
    rw [Config.settle_of_forall_not_keeps fresh goal size, Answer.ofJumps]
    exact Route.isFor_ofRoute_iff.2 ⟨⟨w, points, there⟩, w, ends, there⟩
  · intro stored keeps
    rw [Config.settle_of_keeps keeps goal size]
    exact ⟨rfl, Route.isFor_ofRoute_iff⟩

/-- A route to a station in Colonia is planned at Sol, and kept when it is asked for again. -/
theorem set_answers_hub :
    let asked := askedAt sol { type := .set, arg0 := some "Colonia", arg1 := some " Hub " }
    let s : Session Unit := { published := {}, vault := () }
    (∃ answer, (asked.navigator.resolve asked.query s).outcome = .ok (some answer) ∧
      answer.IsFor ("Hub", none)) ∧
    ∃ answer, (asked.navigator.resolve asked.query (s.after [asked])).outcome =
      .ok (some answer) ∧ answer.IsFor ("Hub", none) := by
  intro asked s
  have here : sol ∈ frontier.systems := List.mem_cons_self
  have first : asked.query.first? = some "Colonia" := by decide +kernel
  have second : asked.query.second? = some "Hub" := by decide +kernel
  have found : frontier.find? "Colonia" = some colonia :=
    find?_eq_some_iff.2 ⟨by simp [frontier], by decide +kernel⟩
  have wanted : frontier.wanted "Colonia" "Hub" = ("Hub", none) := by decide +kernel
  have away : colonia ≠ sol := fun same => absurd (congrArg StarSystem.address same) (by decide)
  obtain ⟨answer, answered, -⟩ : ∃ answer,
      (asked.navigator.resolve asked.query s).outcome = .ok (some answer) ∧
        answer.type == .set :=
    Answer.exists_of_any (by decide +kernel)
  obtain ⟨again, answered', -⟩ : ∃ answer,
      (asked.navigator.resolve asked.query (s.after [asked])).outcome = .ok (some answer) ∧
        answer.type == .set :=
    Answer.exists_of_any (by decide +kernel)
  have fresh := set_answers_station rfl rfl rfl here rfl first second found away answered
  have kept := set_answers_station rfl rfl rfl here rfl first second found away answered'
  rw [wanted] at fresh kept
  have stored : ((s.after [asked]).published.config.storedRoute? .set).any (fun r =>
      r.goal? == some 3 && r.size == 2 && r.target?.any (fun w => w.stationName == some "Hub" &&
        w.marketId == none) && r.destination?.any (fun w => w.stationName == some "Hub" &&
        w.marketId == none)) = true := by decide +kernel
  obtain ⟨r, plotted, keeps⟩ := (Option.any_eq_true _ _).1 stored
  simp only [Bool.and_eq_true, beq_iff_eq, Option.any_eq_true] at keeps
  obtain ⟨⟨⟨goal, size⟩, points⟩, ends⟩ := keeps
  refine ⟨⟨answer, answered, fresh.1 fun r stores => ?_⟩, again, answered', ?_⟩
  · cases stores.plotted
  · exact (kept.2 r ⟨plotted, goal, size.le⟩).2.2 ⟨points, ends⟩

/-- A route to a station in Colonia is kept when another one is asked for, and remembered as if
    it led there. -/
theorem set_answers_other_station :
    let asked (station : String) :=
      askedAt sol { type := .set, arg0 := some "Colonia", arg1 := some station }
    let s := Session.after { published := {}, vault := () } [asked "Hub"]
    ∃ answer, ((asked "Port").navigator.resolve (asked "Port").query s).outcome =
        .ok (some answer) ∧
      answer.station = some "Hub" ∧ ¬answer.IsFor (frontier.wanted "Colonia" "Port") ∧
      (s.after [asked "Port"]).published.config.lastArg1 = some "Port" := by
  intro asked s
  obtain ⟨answer, answered, names⟩ : ∃ answer,
      ((asked "Port").navigator.resolve (asked "Port").query s).outcome = .ok (some answer) ∧
        (answer.station == some "Hub") = true :=
    Answer.exists_of_any (by decide +kernel)
  have names : answer.station = some "Hub" := beq_iff_eq.1 names
  have wanted : frontier.wanted "Colonia" "Port" = ("Port", none) := by decide +kernel
  refine ⟨answer, answered, names, fun h => ?_, by decide +kernel⟩
  rw [wanted] at h
  exact absurd (Option.some.inj (names.symm.trans h.name)) (by decide)

end Chart

end Astrogation
