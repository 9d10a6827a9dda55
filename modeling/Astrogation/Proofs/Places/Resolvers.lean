import Astrogation.Proofs.Places.Circuit
import Astrogation.Proofs.Places.Plot
import Astrogation.Proofs.Resolver.Fresh

/-!
# Resolvers which never break down

If all that it may consult replies, a built-in resolver comes to a result, be it an answer or
none (`Resolver.succeeds_of_builtIn`).

There are two more ways to break down. A resolver for services breaks down if its type names no
service (`Resolver.facilityOrFault`), and places may be out of range, of the stops of a circuit
(`Resolver.circuitByPlaces`) or in the gazetteer of a chart. With these resolvers the registry is
still the standard one, as neither ever happens; so no built-in resolver breaks down on any chart
that can be made, whoever asks for whatever (`Registry.never_breaks_down`).
-/

namespace Astrogation

/-! ## Coming to a result -/

namespace Consultation

variable {α β : Type} {c : Consultation α}

/-- A consultation comes to a result. -/
def Succeeds (c : Consultation α) : Prop := ∃ value, c.outcome = .ok value

theorem succeeds_pure (value : α) : (pure value : Consultation α).Succeeds := ⟨value, rfl⟩

/-- A consultation of two parts comes to a result if both do. -/
theorem Succeeds.bind {next : α → Consultation β} (h : c.Succeeds)
    (hnext : ∀ value, (next value).Succeeds) : (c >>= next).Succeeds := by
  obtain ⟨value, reached⟩ := h
  obtain ⟨result, came⟩ := hnext value
  refine ⟨result, ?_⟩
  rw [outcome_bind, reached]
  exact came

theorem succeeds_ofCall {call : Call α} (h : call.Replies) : (ofCall call).Succeeds := by
  obtain ⟨value, rfl⟩ := h
  exact ⟨value, rfl⟩

theorem succeeds_inquire {call : Call α} (h : call.Replies) (inquiry : Inquiry) :
    (inquire inquiry call).Succeeds :=
  succeeds_ofCall h

end Consultation

open Consultation

/-- All that a resolver may consult replies. -/
structure Context.Replies (ctx : Context) : Prop where
  systemNamed : ∀ name, (ctx.atlas.systemNamed name).Replies
  systemsNamed : ∀ names, (ctx.atlas.systemsNamed names).Replies
  stationNamed : ∀ system station, (ctx.atlas.stationNamed system station).Replies
  nearest : ∀ start filter, (ctx.atlas.nearest start filter).Replies
  plot : ∀ request, (ctx.atlas.plot request).Replies
  ship : ctx.traveller.ship.Replies
  carrier : ctx.traveller.carrier.Replies

/-- A chart always replies, and so does the state of a traveller. -/
theorem Context.replies_chart (c : Chart) (state : TravellerState) (missions : List Mission)
    (config : Config) : Context.Replies ⟨c.atlas, state.traveller, missions, config⟩ where
  systemNamed _ := ⟨_, rfl⟩
  systemsNamed names := ⟨_, Call.gather_reply _ names⟩
  stationNamed _ _ := ⟨_, rfl⟩
  nearest _ _ := ⟨_, rfl⟩
  plot _ := ⟨_, rfl⟩
  ship := ⟨_, rfl⟩
  carrier := ⟨_, rfl⟩

namespace Resolver

variable {ctx : Context} (h : ctx.Replies) (query : Query) (start : Waypoint)
include h

theorem succeeds_jumpRange : (ctx.jumpRange query).Succeeds := by
  rw [Context.jumpRange]
  cases query.numeric with
  | some range => exact succeeds_pure _
  | none => exact (succeeds_ofCall h.ship).bind fun _ => succeeds_pure _

theorem succeeds_usedCapacity : (usedCapacity query ctx).Succeeds := by
  have known := (succeeds_ofCall h.carrier).bind fun carrier =>
    succeeds_pure ((carrier.map (·.usedCapacity)).getD 0)
  rw [usedCapacity]
  cases query.numeric with
  | none => exact known
  | some value =>
    dsimp only
    split
    · exact succeeds_pure _
    · exact known

/-- Looking up the systems of some names, if there are any, and choosing one of them. -/
theorem succeeds_choice (names : List String) (choose : List Waypoint → Option Answer) :
    (if names.isEmpty then pure none else do
      let candidates ← ctx.systemsNamed names
      return choose candidates : Consultation (Option Answer)).Succeeds := by
  split
  · exact succeeds_pure none
  · exact (succeeds_inquire (h.systemsNamed names) _).bind fun _ => succeeds_pure _

/-- Missions are tried one after the other, and each look-up replies. -/
theorem succeeds_firstReachable (missions : List Mission) :
    (firstReachable start ctx missions).Succeeds := by
  induction missions with
  | nil => exact succeeds_pure none
  | cons m rest ih =>
    refine (succeeds_inquire (h.systemsNamed m.destinations) _).bind fun candidates => ?_
    split
    · exact succeeds_pure _
    · exact ih

theorem succeeds_scoop : (scoop.resolve query start ctx).Succeeds :=
  (succeeds_jumpRange h query).bind fun _ =>
    (succeeds_inquire (h.nearest start _) _).bind fun _ => succeeds_pure _

theorem succeeds_neutron : (neutron.resolve query start ctx).Succeeds := by
  rw [neutron]
  dsimp only
  cases query.first? with
  | none => exact succeeds_pure none
  | some destination =>
    refine (succeeds_jumpRange h query).bind fun range? => ?_
    cases range? with
    | none => exact succeeds_pure none
    | some range => exact (succeeds_inquire (h.plot _) _).bind fun _ => succeeds_pure _

theorem succeeds_set : (set.resolve query start ctx).Succeeds := by
  rw [set]
  dsimp only
  cases query.first? with
  | none => exact succeeds_pure none
  | some system =>
    refine (succeeds_ofCall (h.systemNamed system)).bind fun found? => ?_
    cases found? with
    | none => exact succeeds_pure none
    | some found =>
      dsimp only
      split
      · exact (succeeds_pure found).bind fun _ => succeeds_pure _
      · next name _ =>
        refine (succeeds_ofCall (h.stationNamed system name)).bind fun station? => ?_
        cases station? with
        | none => exact (succeeds_pure _).bind fun _ => succeeds_pure _
        | some station => exact (succeeds_pure _).bind fun _ => succeeds_pure _

theorem succeeds_carrier : (carrier.resolve query start ctx).Succeeds := by
  rw [carrier]
  dsimp only
  cases query.first?.or ctx.config.lastCarrierDestination with
  | none => exact succeeds_pure none
  | some destination =>
    exact (succeeds_usedCapacity h query).bind fun _ =>
      (succeeds_inquire (h.plot _) _).bind fun _ => succeeds_pure _

/-- A circuit needs the systems of the missions and the home of the query, if it names one. -/
theorem succeeds_circuit : (circuit.resolve query start ctx).Succeeds := by
  refine (succeeds_inquire (h.systemsNamed _) _).bind fun systems => ?_
  cases query.first? with
  | none => exact (succeeds_pure none).bind fun _ => succeeds_pure _
  | some name => exact (succeeds_ofCall (h.systemNamed name)).bind fun _ => succeeds_pure _

theorem succeeds_facility (type : QueryType) (service : Service) :
    ((facility type service).resolve query start ctx).Succeeds :=
  (succeeds_ofCall h.ship).bind fun _ =>
    (succeeds_inquire (h.nearest start _) _).bind fun _ => succeeds_pure _

/-- A built-in resolver comes to a result if all that it consults replies. -/
theorem succeeds_of_builtIn {resolver : Resolver} (builtIn : resolver ∈ Registry.builtIn) :
    (resolver.resolve query start ctx).Succeeds := by
  rcases List.mem_append.1 builtIn with single | service
  · simp only [List.mem_cons, List.not_mem_nil, or_false] at single
    rcases single with rfl | rfl | rfl | rfl | rfl | rfl | rfl | rfl | rfl | rfl | rfl | rfl
    · exact succeeds_scoop h query start
    · exact succeeds_neutron h query start
    · exact succeeds_set h query start
    · exact (succeeds_firstReachable h start _).bind fun _ => succeeds_pure _
    · exact succeeds_choice h _ _
    · exact succeeds_choice h _ _
    · exact succeeds_choice h _ _
    · exact succeeds_circuit h query start
    · exact succeeds_choice h _ _
    · exact succeeds_carrier h query start
    · exact succeeds_pure _
    · exact succeeds_pure _
  · obtain ⟨type, -, named⟩ := List.mem_filterMap.1 service
    obtain ⟨offered, -, rfl⟩ := Option.map_eq_some_iff.1 named
    exact succeeds_facility h query start type offered

/-! ## Resolvers which might break down -/

omit h

/-- The circuit through every system which serves a mission, by the places of its stops. -/
def circuitByPlaces : Resolver where
  type := .route
  resolve query start ctx := do
    let missions := Circuit.eligible ctx.missions
    let systems ← ctx.systemsNamed (Circuit.systemNames missions)
    let home ←
      match query.first? with
      | some name => ctx.systemNamed name
      | none => pure none
    .ofCall (Circuit.planByPlaces? missions start systems home)

/-- The nearest station with the service of a type; a fault if the type names none. -/
def facilityOrFault (type : QueryType) : Resolver where
  type
  resolve query start ctx :=
    match type.service? with
    | some service => (facility type service).resolve query start ctx
    | none => .fail (.resolver type "query type does not name a station service")

/-- The resolver for a type of query that looks for a service. -/
def facilityOrFault? (type : QueryType) : Option Resolver :=
  type.service?.map fun _ => facilityOrFault type

theorem circuitByPlaces_eq : circuitByPlaces = circuit := by
  refine congrArg (mk .route) (funext fun query => funext fun start => funext fun ctx => ?_)
  simp only [Circuit.planByPlaces?_eq]
  rfl

/-- A resolver for a service is only made for types which name one. -/
theorem facilityOrFault?_eq : facilityOrFault? = facility? := by
  funext type
  rw [facilityOrFault?, facility?]
  cases named : type.service? with
  | none => rfl
  | some service =>
    have resolves : (facilityOrFault type).resolve = (facility type service).resolve := by
      funext query start ctx
      rw [facilityOrFault, named]
    exact congrArg (fun resolve => some (mk type resolve)) resolves

end Resolver

namespace Registry

/-- The built-in resolvers, those included which might break down. -/
def fallible : List Resolver :=
  [.scoop, .neutron, .set, .expiring, .farthest, .most, .nearest, .circuitByPlaces, .source,
    .carrier, .cancel, .update] ++ QueryType.all.filterMap Resolver.facilityOrFault?

/-- The resolvers which might break down are the built-in ones. -/
theorem fallible_eq : fallible = builtIn := by
  rw [fallible, Resolver.circuitByPlaces_eq, Resolver.facilityOrFault?_eq]
  rfl

theorem exists_standard (type : QueryType) : ∃ resolver, standard.get? type = some resolver := by
  cases type <;> exact ⟨_, rfl⟩

/-- On every chart that can be made, and for every type, there is a resolver, and it comes to an
    answer or to none, whoever asks for whatever. This holds although it might break down: if
    places are out of range, of the stops of a circuit or in the gazetteer of the chart, and if
    the type of a resolver for services names none. Neither happens, and so it is the resolver
    of the standard registry, and the gazetteer answers like the chart. -/
theorem never_breaks_down {systems : List StarSystem} {stations : List Station} {c : Chart}
    (made : Chart.build? systems stations = some c) (type : QueryType) :
    ∃ g resolver, Gazetteer.make systems stations = .reply g ∧ g.atlas = c.atlas ∧
      (ofResolvers fallible).get? type = some resolver ∧
      standard.get? type = some resolver ∧ resolver.type = type ∧
      ∀ (query : Query) (start : Waypoint) (state : TravellerState) (missions : List Mission)
        (config : Config), ∃ answer?,
          (resolver.resolve query start ⟨g.atlas, state.traveller, missions, config⟩).outcome =
            .ok answer? := by
  obtain ⟨g, gathered, describes⟩ := Gazetteer.describes_make made
  obtain ⟨resolver, registered⟩ := exists_standard type
  have builtIn : resolver ∈ builtIn := mem_of_ofResolvers registered
  refine ⟨g, resolver, gathered, describes.atlas_eq, fallible_eq ▸ registered, registered,
    standard.type_eq _ _ registered, fun query start state missions config => ?_⟩
  rw [describes.atlas_eq]
  exact Resolver.succeeds_of_builtIn (Context.replies_chart c state missions config) query start
    builtIn

/-- On a chart of Sol, Jackson and Colonia, which leaves out another system at the address of
    Jackson, a mission from Jackson to Colonia and back takes a circuit from Sol to both. -/
theorem circuit_of_three :
    let systems := [Chart.sol, Chart.jackson, { Chart.jackson with name := "Gateway" },
      Chart.colonia]
    let mission : Mission :=
      { id := 1, origin := "Jackson", returnToOrigin := true, destinations := ["Colonia"] }
    Chart.build? systems [] = some Chart.frontier ∧
      ∃ g answer, Gazetteer.make systems [] = .reply g ∧
        (Resolver.circuit.resolve { type := .route } Chart.sol.waypoint
          ⟨g.atlas, TravellerState.traveller {}, [mission], {}⟩).outcome = .ok (some answer) ∧
        answer.route.waypoints.map (·.systemName) = ["Sol", "Jackson", "Colonia"] := by
  intro systems mission
  have made : Chart.build? systems [] = some Chart.frontier := by
    rw [Chart.build?, if_neg (by decide +kernel)]
    rfl
  obtain ⟨g, resolver, gathered, same, -, registered, -, reaches⟩ := never_breaks_down made .route
  obtain rfl : Resolver.circuit = resolver := Option.some.inj registered
  obtain ⟨answer?, reached⟩ := reaches { type := .route } Chart.sol.waypoint {} [mission] {}
  have names : ((Resolver.circuit.resolve { type := .route } Chart.sol.waypoint
      ⟨Chart.frontier.atlas, TravellerState.traveller {}, [mission], {}⟩).outcome.toOption.join.map
        (·.route.waypoints.map (·.systemName))) = some ["Sol", "Jackson", "Colonia"] := by
    decide +kernel
  rw [← same, reached] at names
  obtain ⟨answer, answered, visits⟩ := Option.map_eq_some_iff.1 names
  obtain rfl : answer? = some answer := answered
  exact ⟨made, g, answer, gathered, reached, visits⟩

end Registry

end Astrogation
