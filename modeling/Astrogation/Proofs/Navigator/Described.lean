import Astrogation.Proofs.Navigator.Beginning
import Astrogation.Proofs.Navigator.Recalled
import Astrogation.Proofs.Route.Offered

/-!
# How answers are described

The answer with a plotted route or a circuit *describes* its route (`Answer.Describes`): it has
the number of its stops or legs, and says of the stop that the route points to
(`Route.PointsTo`) where it is and which missions it serves. Each of the resolvers counts the
stops or legs of the route that it has planned, and the navigator counts those of the route that
was stored; both come to the same description (`Session.described_alike`). Only the length of a
circuit is known if the circuit has just been planned, and not if it was stored.
-/

namespace Astrogation

/-! ## The stop that a route points to -/

/-- The first stop of a route that has not been visited, or the last one if all have been. -/
def Route.PointsTo (r : Route) (w : Waypoint) : Prop :=
  ∃ behind ahead, r.waypoints = behind ++ w :: ahead ∧ (∀ v ∈ behind, v.visited = true) ∧
    (w.visited = false ∨ ahead = [])

namespace Route

variable {r : Route} {w : Waypoint}

theorem pointsTo_of_target? (h : r.target? = some w) : r.PointsTo w := by
  rw [target?, Option.or_eq_some_iff] at h
  rcases h with next | ⟨passed, last⟩
  · obtain ⟨ahead, behind, after, split, visited⟩ := List.find?_eq_some_iff_append.1 next
    refine ⟨behind, after, split, fun v hv => ?_, .inl (Bool.not_eq_true' _ ▸ ahead)⟩
    exact Bool.not_eq_false' _ ▸ Bool.not_eq_true' _ ▸ visited v hv
  · obtain ⟨behind, split⟩ := List.getLast?_eq_some_iff.1 last
    refine ⟨behind, [], split, fun v hv => ?_, .inr rfl⟩
    have here : v ∈ r.waypoints := split ▸ List.mem_append_left [w] hv
    simpa using List.find?_eq_none.1 passed v here

/-- A route with any stops points to one of them. -/
theorem exists_target? (h : r.waypoints ≠ []) : ∃ w, r.target? = some w := by
  obtain ⟨last, ends⟩ := Option.isSome_iff_exists.1 (List.getLast?_isSome.2 h)
  rw [target?, destination?, ends]
  cases r.nextUnvisited? with
  | none => exact ⟨last, rfl⟩
  | some w => exact ⟨w, rfl⟩

theorem Begins.ne_nil {place : Waypoint → Prop} (h : r.Begins place) : r.waypoints ≠ [] := by
  obtain ⟨w, ws, hr, -⟩ := h
  exact hr ▸ List.cons_ne_nil w ws

theorem ne_nil_of_goal? {goal : Address} (h : r.goal? = some goal) : r.waypoints ≠ [] := by
  rintro none
  rw [goal?, destination?, none] at h
  cases h

end Route

/-! ## Descriptions -/

/-- An answer to a query of a type which describes its route: there are as many stops or legs as
    it says, and its target is the stop that the route points to. -/
structure Answer.Describes (type : QueryType) (a : Answer) : Prop where
  /-- The answer is what there is to say of its route, but for the length of a circuit. -/
  whole : a = { Answer.ofRoute type a.route (if type = .route then a.route.size else a.route.jumps)
    with circuitLength := a.circuitLength }
  target : ∃ w, a.route.PointsTo w ∧ a.system = some w.systemName ∧ a.station = w.stationName ∧
    a.address = w.address ∧ a.marketId = w.marketId ∧ a.missionIds = w.missionIds

namespace Answer

variable {type : QueryType} {a : Answer} {r : Route}

theorem Describes.of_eq (travels : r.waypoints ≠ []) (length : Option Float)
    (same : a = { ofRoute type r (if type = .route then r.size else r.jumps) with
      circuitLength := length }) : a.Describes type := by
  subst same
  obtain ⟨w, points⟩ := Route.exists_target? travels
  refine ⟨rfl, w, Route.pointsTo_of_target? points, ?_⟩
  simp only [ofRoute, points, Option.map_some, Option.bind_some, Option.getD_some, and_self]

theorem describes_ofJumps (jumping : type ≠ .route) (travels : r.waypoints ≠ []) :
    (ofJumps type r).Describes type := by
  refine .of_eq travels none ?_
  rw [if_neg jumping]
  rfl

/-- A stored route which takes the place of a fresh one is described anew. -/
theorem Describes.withRoute (h : a.Describes type) (travels : r.waypoints ≠ []) :
    (a.withRoute r).Describes type := by
  have same : a.type = type := congrArg Answer.type h.whole
  refine .of_eq travels none ?_
  rw [Answer.withRoute, same, measure]
  simp only [beq_iff_eq]
  rfl

end Answer

namespace Circuit

variable {missions : List Mission} {start : Waypoint} {systems : List Waypoint}
  {home : Option Waypoint} {answer : Answer}

/-- A circuit is described with its length. -/
theorem describes_of_plan? (h : plan? missions start systems home = some answer) :
    answer.Describes .route ∧ answer.circuitLength.isSome = true := by
  have travels := (begins_of_plan? h).ne_nil
  rcases hstops : withHome start (gather start systems) home with ⟨stops, shape⟩
  rw [plan?_eq hstops] at h
  obtain ⟨best, -, rfl⟩ := Option.map_eq_some_iff.1 h
  exact ⟨.of_eq travels _ rfl, rfl⟩

end Circuit

namespace Resolver

open Consultation

variable {query : Query} {start : Waypoint} {ctx : Context} {answer : Answer} {type : QueryType}

theorem exists_plan_of_circuit (h : (circuit.resolve query start ctx).outcome = .ok (some answer)) :
    ∃ systems home,
      Circuit.plan? (Circuit.eligible ctx.missions) start systems home = some answer := by
  obtain ⟨systems, -, h⟩ := outcome_bind_eq_ok_iff.1 h
  dsimp only at h
  split at h
  · obtain ⟨home, -, h⟩ := outcome_bind_eq_ok_iff.1 h
    exact ⟨systems, home, outcome_pure_eq_ok_iff.1 h⟩
  · obtain ⟨home, -, h⟩ := outcome_bind_eq_ok_iff.1 h
    exact ⟨systems, home, outcome_pure_eq_ok_iff.1 h⟩

/-- Whatever it is told, a resolver of plotted routes or circuits describes the route which it
    has planned. -/
theorem describes_of_standard {resolver : Resolver}
    (registered : Registry.standard.get? type = some resolver)
    (plotted : type ∈ [.scoop, .neutron, .set, .route, .carrier])
    (h : (resolver.resolve query start ctx).outcome = .ok (some answer)) :
    answer.Describes type ∧ (answer.circuitLength.isSome = true ↔ type = .route) := by
  have jumps {type : QueryType} {route : Route} (jumping : type ≠ .route)
      (travels : route.waypoints ≠ []) : (Answer.ofJumps type route).Describes type ∧
        ((Answer.ofJumps type route).circuitLength.isSome = true ↔ type = .route) :=
    ⟨Answer.describes_ofJumps jumping travels, iff_of_false Bool.false_ne_true jumping⟩
  simp only [List.mem_cons, List.not_mem_nil, or_false] at plotted
  rcases plotted with rfl | rfl | rfl | rfl | rfl
  · obtain rfl : scoop = resolver := Option.some.inj registered
    obtain ⟨filter, found, -, rfl⟩ := answer_scoop h
    exact jumps (by decide) (Route.begins_toDestination _ _).ne_nil
  · obtain rfl : neutron = resolver := Option.some.inj registered
    obtain ⟨destination, range, plot, -, -, -, rfl⟩ := answer_neutron h
    exact jumps (by decide) (Route.begins_alongPlot _ _).ne_nil
  · obtain rfl : set = resolver := Option.some.inj registered
    obtain ⟨system, found, destination, -, -, rfl⟩ := answer_set h
    exact jumps (by decide) (Route.begins_toDestination _ _).ne_nil
  · obtain rfl : circuit = resolver := Option.some.inj registered
    obtain ⟨systems, home, planned⟩ := exists_plan_of_circuit h
    obtain ⟨described, measured⟩ := Circuit.describes_of_plan? planned
    exact ⟨described, iff_of_true measured rfl⟩
  · obtain rfl : carrier = resolver := Option.some.inj registered
    obtain ⟨destination, capacity, plot, -, -, rfl⟩ := answer_carrier h
    exact jumps (by decide) (Route.begins_alongPlot _ _).ne_nil

end Resolver

/-! ## Answers -/

namespace Config

variable {config : Config} {type : QueryType} {fresh : Answer} {query : Query} {route : Route}

/-- What is stored, if anything, gives way to a fresh route for a query of a type. -/
def GivesWay (config : Config) (type : QueryType) (fresh : Route) : Prop :=
  ∀ stored, config.storedRoute? type = some stored → fresh.supersedes stored = true

theorem settle_of_givesWay (h : config.GivesWay type fresh.route) :
    config.settle type fresh = fresh := by
  rw [settle]
  split
  · next stored here => exact if_pos (h stored here)
  · rfl

theorem exists_stored_of_not_givesWay (h : ¬config.GivesWay type fresh.route) :
    ∃ stored, config.storedRoute? type = some stored ∧
      config.settle type fresh = fresh.withRoute stored ∧ stored.waypoints ≠ [] := by
  rw [GivesWay, not_forall] at h
  obtain ⟨stored, h⟩ := h
  obtain ⟨here, stays⟩ := Classical.not_imp.1 h
  obtain ⟨goal, leads, -⟩ := Route.supersedes_eq_false_iff.1 (Bool.not_eq_true _ ▸ stays)
  refine ⟨stored, here, ?_, Route.ne_nil_of_goal? leads⟩
  rw [settle, here]
  exact if_neg stays

/-- The route of an answer, but to cancel, is remembered among the routes of its kind. -/
theorem route_remember (routed : query.type ≠ .cancel) :
    (if query.type = .carrier then (config.remember query route).carrierRoute
      else (config.remember query route).plottedRoute) = some route := by
  by_cases carrier : query.type = .carrier
  · rw [if_pos carrier, remember, rememberRoute.eq_def, carrier]
  · rw [if_neg carrier, remember, rememberRoute.eq_def]
    split
    · next same => exact absurd same carrier
    · next cancel => exact absurd cancel routed
    · rfl
    · rfl

end Config

section Answers

variable {σ : Type}

/-- A fresh answer to a query, to which the resolver of its type comes. -/
def Navigator.Plans (n : Navigator σ) (query : Query) (config : Config) (fresh : Answer) : Prop :=
  ∃ start resolver missions, n.startOf query.type = .reply (some start) ∧
    n.registry.get? query.type = some resolver ∧ n.traveller.missions = .reply missions ∧
    (resolver.resolve query start ⟨n.atlas, n.traveller, missions, config⟩).outcome =
      .ok (some fresh)

/-- Whatever is stored and whatever the others reply, an answer with a plotted route or a circuit
    describes its route, and this is the route which is published. It is the fresh one if what is
    stored gives way to that, and otherwise the stored one. The length of a circuit is known just
    if a fresh circuit is given. -/
theorem Session.described_alike {r : Request σ} {s : Session σ} {answer : Answer}
    (standard : r.navigator.registry = .standard)
    (plotted : r.query.type ∈ [.scoop, .neutron, .set, .route, .carrier])
    (answered : (r.navigator.resolve r.query s).outcome = .ok (some answer)) :
    let before := s.published.config
    let after := (r.navigator.resolve r.query s).session.published.config
    answer.Describes r.query.type ∧
    (if r.query.type = .carrier then after.carrierRoute else after.plottedRoute) =
      some answer.route ∧
    ∃ fresh, r.navigator.Plans r.query before fresh ∧
      (before.GivesWay r.query.type fresh.route → answer.route = fresh.route) ∧
      (¬before.GivesWay r.query.type fresh.route →
        before.storedRoute? r.query.type = some answer.route) ∧
      (answer.circuitLength.isSome = true ↔
        r.query.type = .route ∧ before.GivesWay r.query.type fresh.route) := by
  intro before after
  have routed : r.query.type ≠ .cancel := by
    intro cancel
    rw [cancel] at plotted
    exact absurd plotted (by decide)
  have published : after = before.remember r.query answer.route :=
    r.navigator.config_of_resolve_ok answered
  obtain ⟨start, resolver, missions, fresh, hstart, registered, hmissions, planned, rfl⟩ :=
    Navigator.exists_of_consult (Navigator.consulted_of_answered answered)
  obtain ⟨described, measured⟩ := Resolver.describes_of_standard (standard ▸ registered) plotted
    planned
  have plans : r.navigator.Plans r.query before fresh :=
    ⟨start, resolver, missions, hstart, registered, hmissions, planned⟩
  refine ⟨?_, published ▸ Config.route_remember routed, fresh, plans, ?_⟩
  · by_cases way : before.GivesWay r.query.type fresh.route
    · rw [Config.settle_of_givesWay way]
      exact described
    · obtain ⟨stored, -, same, travels⟩ := Config.exists_stored_of_not_givesWay way
      rw [same]
      exact described.withRoute travels
  · by_cases way : before.GivesWay r.query.type fresh.route
    · rw [Config.settle_of_givesWay way]
      exact ⟨fun _ => rfl, fun stays => absurd way stays, measured.trans (and_iff_left way).symm⟩
    · obtain ⟨stored, here, same, -⟩ := Config.exists_stored_of_not_givesWay way
      rw [same]
      exact ⟨fun gives => absurd gives way, fun _ => here,
        iff_of_false Bool.false_ne_true fun h => way h.2⟩

/-- A route by way of Jackson is plotted at Sol and updated at Jackson. When it is asked for
    again at Sol, the stored route stays, and is described by the stop that is still ahead. A
    circuit which closes at Colonia is a fresh one. -/
theorem Chart.described_alike_at_sol :
    let s : Session Unit := { published := {}, vault := () }
    let plot := askedAt sol { type := .neutron, arg0 := some "Colonia", numeric := some 6 }
    let update := askedAt jackson { type := .update }
    let circuit := askedAt sol { type := .route, arg0 := some "Colonia" }
    (∃ answer, (plot.navigator.resolve plot.query (s.after [plot, update])).outcome =
        .ok (some answer) ∧
      answer.Describes .neutron ∧ answer.system = some "Colonia" ∧
      (plot.navigator.resolve plot.query
        (s.after [plot, update])).session.published.config.plottedRoute = some answer.route) ∧
    ∃ answer, (circuit.navigator.resolve circuit.query s).outcome = .ok (some answer) ∧
      answer.Describes .route ∧ answer.circuitLength.isSome = true := by
  intro s plot update circuit
  obtain ⟨kept, keeps, ahead⟩ : ∃ answer,
      (plot.navigator.resolve plot.query (s.after [plot, update])).outcome = .ok (some answer) ∧
        (answer.system == some "Colonia") = true :=
    Answer.exists_of_any (by decide +kernel)
  obtain ⟨fresh, plans, -⟩ : ∃ answer,
      (circuit.navigator.resolve circuit.query s).outcome = .ok (some answer) ∧
        answer.type == .route :=
    Answer.exists_of_any (by decide +kernel)
  obtain ⟨described, published, -⟩ := Session.described_alike (r := plot) rfl (by decide) keeps
  obtain ⟨described', -, route, -, -, -, measured⟩ :=
    Session.described_alike (r := circuit) rfl (by decide) plans
  have ahead : kept.system = some "Colonia" := beq_iff_eq.1 ahead
  rw [if_neg (by decide)] at published
  refine ⟨⟨kept, keeps, described, ahead, published⟩, fresh, plans, described', ?_⟩
  exact measured.2 ⟨rfl, fun stored here => nomatch here⟩

end Answers

end Astrogation
