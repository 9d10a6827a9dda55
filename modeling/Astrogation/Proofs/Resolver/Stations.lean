import Astrogation.Proofs.Decimal.Natural
import Astrogation.Proofs.Resolver.Selected

/-!
# Stations with a service

A station is *suitable* if it offers the service, has a pad for the ship and is near enough to
its star of arrival, and the chart knows its system (`Resolver.suitable?`). Of two suitable
stations the one in the nearer system is preferred; of those as near, one in orbit if this is
asked for, and then the one nearer to its star (`StationCandidate.Preferred`).

On a chart, the resolvers for services select a suitable station to which no other is
preferred, the first of them in the order of the chart, even if it is in the system of the
start (`Resolver.station_selected`).
-/

namespace Astrogation

open Floating Decimal

/-! ## The preferred station -/

theorem compares_then {α β : Type} [LinearOrder α] [LinearOrder β] {o p : Ordering} {a b : α}
    {c d : β} (ho : o.Compares a b) (hp : p.Compares c d) :
    (o.then p).Compares (toLex (a, c)) (toLex (b, d)) := by
  cases o with
  | lt => exact Prod.Lex.toLex_lt_toLex.2 (.inl ho)
  | gt => exact Prod.Lex.toLex_lt_toLex.2 (.inl ho)
  | eq =>
    obtain rfl : a = b := ho
    cases p with
    | lt => exact Prod.Lex.toLex_lt_toLex.2 (.inr ⟨rfl, hp⟩)
    | gt => exact Prod.Lex.toLex_lt_toLex.2 (.inr ⟨rfl, hp⟩)
    | eq => exact congrArg (fun c => toLex (a, c)) hp

namespace StationCandidate

variable {orbital : Bool} {a b : StationCandidate}

/-- Whether a station is preferred to another. -/
def Preferred (orbital : Bool) (a b : StationCandidate) : Prop :=
  a.distance < b.distance ∨ a.distance == b.distance ∧
    ((orbital && b.station.planetary && !a.station.planetary) = true ∨
      (orbital = true → a.station.planetary = b.station.planetary) ∧
        a.station.arrivalDistance < b.station.arrivalDistance)

/-- Both distances of a candidate are numbers. -/
def IsComparable (a : StationCandidate) : Prop :=
  a.distance.isNaN = false ∧ a.station.arrivalDistance.isNaN = false

/-- The place of a candidate in the order of preference. -/
noncomputable def key (orbital : Bool) (a : StationCandidate) : EReal ×ₗ Bool ×ₗ EReal :=
  toLex (place a.distance,
    toLex (orbital && a.station.planetary, place a.station.arrivalDistance))

theorem compares_key (ha : a.IsComparable) (hb : b.IsComparable) :
    (Chart.compareStations orbital a b).Compares (a.key orbital) (b.key orbital) := by
  refine compares_then (compareDistance_compares (isNaN_eq_false_iff.1 ha.1)
    (isNaN_eq_false_iff.1 hb.1)) (compares_then ?_ (compareDistance_compares
      (isNaN_eq_false_iff.1 ha.2) (isNaN_eq_false_iff.1 hb.2)))
  generalize a.station.planetary = p, b.station.planetary = q
  cases orbital with
  | false => exact rfl
  | true => cases p <;> cases q <;> exact rfl

theorem preferred_iff (ha : a.IsComparable) (hb : b.IsComparable) :
    Preferred orbital a b ↔ a.key orbital < b.key orbital := by
  rw [Preferred, key, key, Prod.Lex.toLex_lt_toLex, Prod.Lex.toLex_lt_toLex,
    lt_iff_place ha.1 hb.1, beq_iff_place ha.1 hb.1, lt_iff_place ha.2 hb.2]
  -- If stations in orbit are not preferred, both count as such.
  have orbit : ∀ orbital p q : Bool, (orbital && q && !p) = true ↔
      (orbital && p) < (orbital && q) := by decide
  have alike : ∀ orbital p q : Bool, (orbital = true → p = q) ↔
      (orbital && p) = (orbital && q) := by decide
  exact or_congr_right (and_congr_right fun _ =>
    or_congr (orbit _ _ _) (and_congr_left fun _ => alike _ _ _))

/-- The champion by the order of preference is the first of those to which no other is
    preferred. -/
theorem firstBest_of_compareStations {ι : Type} {value : ι → Option StationCandidate}
    {items : List ι} {x : StationCandidate}
    (numbers : ∀ i ∈ items, ∀ y, value i = some y → y.IsComparable)
    (hx : champion? (fun best s => Chart.compareStations orbital best s == .gt)
      (items.filterMap value) = some x) :
    FirstBest value (Preferred orbital) (fun y z => ¬Preferred orbital z y) x items := by
  have comparable : ∀ y ∈ items.filterMap value, y.IsComparable := fun y hy => by
    obtain ⟨i, hi, hy⟩ := List.mem_filterMap.1 hy
    exact numbers i hi y hy
  have h : YieldsBy (fun best s => Chart.compareStations orbital best s == .gt) (key orbital)
      (items.filterMap value) := fun y hy z hz =>
    beq_iff_eq.trans (compares_key (comparable y hy) (comparable z hz)).eq_gt
  have number := comparable x (mem_of_champion? hx)
  refine (firstBest_of_champion? h hx).imp (fun i hi y hy => ?_) fun i hi y hy noWorse => ?_
  · exact (preferred_iff number (numbers i hi y hy)).2
  · rw [preferred_iff (numbers i hi y hy) number]
    exact noWorse.not_gt

end StationCandidate

namespace Resolver

variable {c : Chart} {start : StarSystem} {service : Service} {pad : Option Pad} {limit : Float}
  {query : Query} {config : Config}

/-! ## Suitable stations -/

/-- A station which offers a service and has a pad, no farther from its star than a limit, with
    its system on the chart and the distance of that from a start. -/
def suitable? (c : Chart) (start : StarSystem) (service : Service) (pad : Option Pad)
    (limit : Float) (s : Station) : Option StationCandidate :=
  if s.offers service && s.fits pad && s.arrivalDistance ≤ limit then
    (c.find? s.systemName).map fun t => ⟨s, t, start.position.distanceTo t.position⟩
  else none

/-- The limit is the numeric argument if that is a positive number, and otherwise what is
    configured. -/
theorem maxArrivalDistance_eq (query : Query) (config : Config) :
    maxArrivalDistance query config =
      (query.numeric.filter fun limit => limit.isFinite && 0 < limit).getD
        config.maxStationDistance := by
  rw [maxArrivalDistance]
  cases query.numeric with
  | none => rfl
  | some limit =>
    dsimp only
    rw [Option.filter_some]
    split_ifs <;> rfl

theorem stationCandidates_eq (c : Chart) (start : StarSystem) (service : Service) (query : Query)
    (config : Config) (pad : Option Pad) :
    c.stationCandidates start.position (facilityFilter service query config pad) =
      c.stations.filterMap (suitable? c start service pad (maxArrivalDistance query config)) := by
  rw [Chart.stationCandidates, List.filterMap_filter]
  exact List.filter_eq_self.2 fun _ _ => rfl

theorem isComparable_of_suitable? {s : Station} {found : StationCandidate}
    (number : ∀ t, c.find? s.systemName = some t →
      (start.position.distanceTo t.position).isNaN = false)
    (h : suitable? c start service pad limit s = some found) : found.IsComparable := by
  rw [suitable?, Option.ite_none_right_eq_some, Bool.and_eq_true, decide_eq_true_eq] at h
  obtain ⟨⟨-, near⟩, found⟩ := h
  obtain ⟨t, there, rfl⟩ := Option.map_eq_some_iff.1 found
  exact ⟨number t there, isNaN_eq_false_iff.2 (double_le_iff.1 near).1.1⟩

/-! ## The station that is selected -/

/-- An answer names a station by its name and its market, says where its system is, and counts
    its distance from the star in whole light-seconds. -/
structure NamesStation (found : StationCandidate) (answer : Answer) : Prop where
  address : answer.address = some found.system.address
  station : answer.station = some found.station.name
  marketId : answer.marketId = found.station.marketId
  count : IsNearestNatural (UInt64.size - 1) found.station.arrivalDistance answer.count

/-- The answer that leads to a suitable station. -/
def answerAt (type : QueryType) (start : StarSystem) (found : StationCandidate) : Answer :=
  .ofStation type start.waypoint
    ⟨found.system.waypoint.atStation found.station.name found.station.marketId,
      some found.station.arrivalDistance⟩

theorem outcome_facility (c : Chart) (type : QueryType) (start : StarSystem) {traveller : Traveller}
    {ship : Option Ship} (hship : traveller.ship = .reply ship) (missions : List Mission) :
    ((facility type service).resolve query start.waypoint
        ⟨c.atlas, traveller, missions, config⟩).outcome =
      .ok ((champion? (fun best s =>
          Chart.compareStations (query.flag.getD config.prioritizeOrbital) best s == .gt)
        (c.stations.filterMap (suitable? c start service (ship.map (·.pad))
          (maxArrivalDistance query config)))).map (answerAt type start)) := by
  let filter := facilityFilter service query config (ship.map (·.pad))
  have reply : c.atlas.nearest start.waypoint filter =
      .reply ((c.nearestStation? start.position filter).map fun found =>
        ⟨found.system.waypoint.atStation found.station.name found.station.marketId,
          some found.station.arrivalDistance⟩) := rfl
  rw [facility, Consultation.outcome_bind, Context.ship, hship, Consultation.outcome_ofCall_reply]
  show ((Consultation.inquire _ (c.atlas.nearest start.waypoint filter)) >>= _).outcome = _
  rw [Consultation.outcome_bind, reply, Consultation.outcome_inquire_reply,
    Chart.nearestStation?, stationCandidates_eq]
  show Except.ok (Option.map _ (Option.map _ _)) = _
  rw [Option.map_map]
  rfl

/-- The answer names the station also if that is in the system of the start. -/
theorem namesStation_answerAt (type : QueryType) (start : StarSystem) (found : StationCandidate) :
    NamesStation found (answerAt type start found) where
  address := Route.address_target?_toDestination (fun same => congrArg some (beq_iff_eq.1 same)) rfl
  station := rfl
  marketId := rfl
  count := toNatural_isNearest _ _

/-- A suitable station is selected to which no other is preferred, the first of them, and the
    answer names it. The arguments of the query go before what is configured. -/
theorem station_selected {type : QueryType} {traveller : Traveller} {ship : Option Ship}
    (hservice : type.service? = some service) (hship : traveller.ship = .reply ship)
    (numbers : ∀ s ∈ c.stations, ∀ t, c.find? s.systemName = some t →
      (start.position.distanceTo t.position).isNaN = false) (missions : List Mission)
    (config : Config) (query : Query) :
    let limit := (query.numeric.filter fun limit => limit.isFinite && 0 < limit).getD
      config.maxStationDistance
    let orbital := query.flag.getD config.prioritizeOrbital
    ∃ resolver, facility? type = some resolver ∧
      (resolver.resolve query start.waypoint ⟨c.atlas, traveller, missions, config⟩).Selects
        (suitable? c start service (ship.map (·.pad)) limit)
        (StationCandidate.Preferred orbital)
        (fun a b => ¬StationCandidate.Preferred orbital b a) c.stations NamesStation := by
  intro limit orbital
  have hlimit : limit = maxArrivalDistance query config := (maxArrivalDistance_eq query config).symm
  refine ⟨facility type service, congrArg (Option.map (facility type)) hservice, ?_⟩
  rw [hlimit]
  exact .of_champion? (outcome_facility c type start hship missions)
    (fun _ => StationCandidate.firstBest_of_compareStations fun s hs _ =>
      isComparable_of_suitable? (numbers s hs)) (namesStation_answerAt type start)

/-- A station for raw materials with a large pad. -/
def trader (name system : String) (arrivalDistance : Float) (planetary : Bool) : Station :=
  { name, systemName := system, arrivalDistance, maxPad := .large, planetary,
    services := [.rawMaterialTrader] }

/-- The chart of the frontier, with a trader in Jackson, and in Sol one too far out, one on a
    planet, one in orbit around it and another as far from the star. -/
def market : Chart :=
  { Chart.frontier with
    stations := [trader "Depot" "Jackson" 5 false, trader "Outpost" "Sol" 2000 false,
      trader "Mine" "Sol" 100 true, trader "Orbis" "Sol" 500.5 false,
      trader "Relay" "Sol" 500.5 false] }

/-- In the system of the start, the first of the stations in orbit is selected although the one
    on the planet is nearer to the star. -/
theorem station_orbis :
    let ship : Ship := { jumpRange := 30, pad := .medium }
    let suitable? := suitable? market Chart.sol .rawMaterialTrader (some .medium) 1000
    ∃ (resolver : Resolver) (found : StationCandidate) (answer : Answer),
      facility? .raw = some resolver ∧
      FirstBest suitable? (StationCandidate.Preferred true)
        (fun a b => ¬StationCandidate.Preferred true b a) found market.stations ∧
      (resolver.resolve { type := .raw, numeric := some 1000, flag := some true }
        Chart.sol.waypoint
        ⟨market.atlas, TravellerState.traveller { ship := some ship }, [], {}⟩).outcome =
          .ok (some answer) ∧
      answer.station = some "Orbis" ∧ answer.count = 501 := by
  intro ship suitable?
  have number : ∀ t ∈ market.systems,
      (Chart.sol.position.distanceTo t.position).isNaN = false := by decide +kernel
  let query : Query := { type := .raw, numeric := some 1000, flag := some true }
  obtain ⟨resolver, registered, selected⟩ := @station_selected market Chart.sol
    .rawMaterialTrader .raw (TravellerState.traveller { ship := some ship }) (some ship) rfl rfl
    (fun s _ t found => number t (Chart.find?_eq_some_iff.1 found).1) [] {} query
  obtain rfl : facility .raw .rawMaterialTrader = resolver := Option.some.inj registered
  obtain ⟨found, answer, first, answered, -, passes⟩ := selected.exists_of_any
    (p := fun answer => answer.station == some "Orbis" && answer.count == 501) (by decide +kernel)
  obtain ⟨station, count⟩ := Bool.and_eq_true_iff.1 passes
  exact ⟨_, found, answer, registered, first, answered, beq_iff_eq.1 station, beq_iff_eq.1 count⟩

end Resolver

end Astrogation
