import Astrogation.Proofs.Circuit.Complete
import Astrogation.Proofs.Resolver.Fresh
import Astrogation.Proofs.Text.Trimmed

/-!
# Missions which are recognised

A chart finds a system under the names that missions give, without regard to blanks around
them and to the case of any letters; the missions of the system are those which give its
own name, but for the case of `A` to `Z`. A system is *recognised* (`Chart.Recognises`) if
each mission under whose names it is found is among these.

The answers to queries after a destination or an origin of missions never carry a number
too many, and carry all of them if and only if their system is recognised; nor do the stops
of a circuit miss any then (`Resolver.missionIds_recognised`). Names in ASCII without blanks
around them are recognised (`Chart.recognises_of_plain`); a blank is enough to miss a
mission (`Resolver.missionIds_unrecognised`).
-/

namespace Astrogation

namespace Mission

/-- The name of the system to which a mission has to return, if it has to. -/
def returns (m : Mission) : List String := if m.returnToOrigin then [m.origin] else []

/-- The names of the systems which serve a mission. -/
def stops (m : Mission) : List String := m.destinations ++ m.returns

/-- The numbers of the missions one of whose names is that of a system, but for the case of
    `A` to `Z`. -/
def idsNaming (names : Mission → List String) (missions : List Mission) (system : String) :
    List MissionId :=
  idsWhere missions fun m => (names m).any (Text.sameIgnoringCase · system)

theorem returnsTo_eq_any (m : Mission) (system : String) :
    m.returnsTo system = m.returns.any (Text.sameIgnoringCase · system) := by
  rw [returnsTo, returns, hasOrigin]
  cases m.returnToOrigin with
  | true => exact (Bool.or_false _).symm
  | false => rfl

theorem idsReturningTo_eq (missions : List Mission) (system : String) :
    idsReturningTo missions system = idsNaming returns (active missions) system :=
  congrArg (idsWhere (active missions)) (funext fun m => m.returnsTo_eq_any system)

theorem idsServedBy_eq (missions : List Mission) (system : String) :
    idsServedBy missions system = idsNaming stops (active missions) system := by
  refine congrArg (idsWhere (active missions)) (funext fun m => ?_)
  rw [isServedBy, hasDestination, returnsTo_eq_any, stops, List.any_append]

theorem active_active (missions : List Mission) : active (active missions) = active missions := by
  rw [active, active, List.filter_filter, funext fun m : Mission => Bool.and_self m.isActive]

end Mission

namespace Chart

variable {c : Chart} {names : Mission → List String} {missions : List Mission} {t : StarSystem}
  {ids : List MissionId}

/-! ## Recognised systems -/

/-- Whether a system is found under a name. -/
def finds (c : Chart) (t : StarSystem) (name : String) : Bool :=
  (c.find? name).any (·.address == t.address)

/-- The numbers of the missions under one of whose names a system is found. -/
def idsFinding (c : Chart) (names : Mission → List String) (missions : List Mission)
    (t : StarSystem) : List MissionId :=
  Mission.idsWhere missions fun m => (names m).any (c.finds t)

/-- A system is recognised if each mission under whose names it is found gives its own name,
    but for the case of `A` to `Z`. -/
def Recognises (c : Chart) (names : Mission → List String) (missions : List Mission)
    (t : StarSystem) : Prop :=
  ∀ m ∈ missions, ∀ name ∈ names m, c.find? name = some t →
    ∃ own ∈ names m, Text.sameIgnoringCase own t.name = true

/-- Numbers of missions under whose names a system is found; all of them if and only if it
    is recognised. -/
structure Credits (c : Chart) (names : Mission → List String) (missions : List Mission)
    (t : StarSystem) (ids : List MissionId) : Prop where
  sublist : ids.Sublist (c.idsFinding names missions t)
  all_iff : ids = c.idsFinding names missions t ↔ c.Recognises names missions t

theorem finds_iff (ht : t ∈ c.systems) {name : String} :
    c.finds t name = true ↔ c.find? name = some t := by
  rw [finds, Option.any_eq_true]
  constructor
  · rintro ⟨s, hs, same⟩
    rw [hs, eq_of_address (find?_eq_some_iff.1 hs).1 ht (beq_iff_eq.1 same)]
  · exact fun found => ⟨t, found, beq_self_eq_true _⟩

/-- A system which is found at all is found under each name that is its own but for the case
    of `A` to `Z`. -/
theorem find?_of_sameIgnoringCase {name own : String} (found : c.find? name = some t)
    (h : Text.sameIgnoringCase own t.name = true) : c.find? own = some t := by
  obtain ⟨ht, entered⟩ := find?_eq_some_iff.1 found
  exact find?_eq_some_iff.2 ⟨ht, StarSystem.lookupKey_of_sameIgnoringCase entered h⟩

/-- Of missions which are chosen with care, fewer are chosen, and as many only if they are
    the same. -/
theorem idsWhere_eq_iff {missions : List Mission} {holds loosely : Mission → Bool}
    (h : ∀ m, holds m = true → loosely m = true) :
    Mission.idsWhere missions holds = Mission.idsWhere missions loosely ↔
      ∀ m ∈ missions, loosely m = true → holds m = true := by
  constructor
  · intro same m hm held
    have sizes := congrArg List.length same
    rw [Mission.idsWhere, Mission.idsWhere, List.length_map, List.length_map] at sizes
    have filtered := (List.monotone_filter_right missions h).eq_of_length sizes
    have kept : m ∈ missions.filter loosely := List.mem_filter.2 ⟨hm, held⟩
    exact (List.mem_filter.1 (filtered ▸ kept)).2
  · intro all
    refine congrArg (List.map _) (List.filter_congr fun m hm => ?_)
    exact Bool.eq_iff_iff.2 ⟨h m, all m hm⟩

/-- The missions which give the name of a system that is found under some name. -/
theorem credits_idsNaming {name : String} (found : c.find? name = some t) :
    c.Credits names missions t (Mission.idsNaming names missions t.name) := by
  have ht := (find?_eq_some_iff.1 found).1
  have careful (m : Mission) (h : (names m).any (Text.sameIgnoringCase · t.name) = true) :
      (names m).any (c.finds t) = true := by
    obtain ⟨own, hown, same⟩ := List.any_eq_true.1 h
    exact List.any_eq_true.2 ⟨own, hown, (finds_iff ht).2 (find?_of_sameIgnoringCase found same)⟩
  refine ⟨(List.monotone_filter_right missions careful).map _, (idsWhere_eq_iff careful).trans ?_⟩
  refine forall₂_congr fun m _ => ?_
  simp only [List.any_eq_true, finds_iff ht, forall_exists_index, and_imp]

/-- Names in ASCII without blanks around them are recognised. -/
theorem recognises_of_plain (ascii : Text.IsAscii t.name)
    (plain : ∀ m ∈ missions, ∀ name ∈ names m, StarSystem.IsPlain name) :
    c.Recognises names missions t := by
  intro m hm name hname found
  exact ⟨name, hname, StarSystem.sameIgnoringCase_of_lookupKey ascii (plain m hm name hname)
    (find?_eq_some_iff.1 found).2⟩

theorem idsFinding_ne_nil {m : Mission} {name : String} (hm : m ∈ missions) (hname : name ∈ names m)
    (found : c.find? name = some t) : c.idsFinding names missions t ≠ [] := by
  have finds := (finds_iff (find?_eq_some_iff.1 found).1).2 found
  exact List.ne_nil_of_mem (List.mem_map_of_mem
    (List.mem_filter.2 ⟨hm, List.any_eq_true.2 ⟨name, hname, finds⟩⟩))

theorem exists_found_of_idsFinding (ht : t ∈ c.systems) (h : c.idsFinding names missions t ≠ []) :
    ∃ name, c.find? name = some t := by
  obtain ⟨id, hid⟩ := List.exists_mem_of_ne_nil _ h
  obtain ⟨m, hm, -⟩ := List.mem_map.1 hid
  obtain ⟨name, -, finds⟩ := List.any_eq_true.1 (List.mem_filter.1 hm).2
  exact ⟨name, (finds_iff ht).1 finds⟩

/-- What a chart finds under one of some names. -/
theorem exists_found_of_systemsNamed {search : List String} {candidates : List Waypoint}
    {w : Waypoint} (h : c.atlas.systemsNamed search = .reply candidates) (hw : w ∈ candidates) :
    ∃ name ∈ search, ∃ t, c.find? name = some t ∧ w = t.waypoint := by
  rw [Circuit.systemsNamed_atlas] at h
  rw [← Call.reply.inj h] at hw
  obtain ⟨t, ht, rfl⟩ := List.mem_map.1 hw
  obtain ⟨name, hname, found⟩ := List.mem_filterMap.1 ht
  exact ⟨name, hname, t, found, rfl⟩

end Chart

/-! ## Answers -/

/-- A route to a destination which has not been visited points there, even if it is where
    the route starts. -/
theorem Route.address_target?_toDestination {start destination : Waypoint}
    (here : start.sameSystem destination = true → start.address = destination.address)
    (unvisited : destination.visited = false) :
    (toDestination start destination).target?.bind (·.address) = destination.address := by
  rw [toDestination]
  split
  · next same => exact here same
  · rw [target?, nextUnvisited?, stamped]
    simp [stampFrom, stamp, Waypoint.intoVisited, unvisited]

/-- An answer which leads to a system of missions is at its address. -/
theorem Answer.address_ofMissions (type : QueryType) (start t : StarSystem)
    (ids : List MissionId) :
    (Answer.ofMissions type start.waypoint t.waypoint ids).address = some t.address :=
  Route.address_target?_toDestination (fun same => congrArg some (beq_iff_eq.1 same)) rfl

namespace Resolver

open Chart

variable {c : Chart} {start : StarSystem} {missions : List Mission} {query : Query}
  {traveller : Traveller} {config : Config} {answer : Answer} {type : QueryType}

/-- An answer which leads to a system of the chart, and carries and counts numbers of the
    missions under whose names it is found. -/
structure LeadsTo (c : Chart) (names : Mission → List String) (missions : List Mission)
    (answer : Answer) (t : StarSystem) : Prop where
  onChart : t ∈ c.systems
  address : answer.address = some t.address
  wanted : c.idsFinding names missions t ≠ []
  credits : c.Credits names missions t answer.missionIds
  count : answer.count = answer.missionIds.length

theorem leadsTo_ofMissions {names : Mission → List String} {name : String} {t : StarSystem}
    {m : Mission} (hm : m ∈ missions) (hname : name ∈ names m) (found : c.find? name = some t) :
    LeadsTo c names missions (.ofMissions type start.waypoint t.waypoint
      (Mission.idsNaming names missions t.name)) t where
  onChart := (find?_eq_some_iff.1 found).1
  address := Answer.address_ofMissions type start t _
  wanted := idsFinding_ne_nil hm hname found
  credits := credits_idsNaming found
  count := rfl

/-- A system under one of the names of destinations that are searched. -/
theorem exists_leadsTo_destination {search : List String} {candidates : List Waypoint}
    {found : Waypoint}
    (known : ∀ name ∈ search, ∃ m ∈ Mission.active missions, name ∈ m.destinations)
    (hcandidates : c.atlas.systemsNamed search = .reply candidates) (mem : found ∈ candidates) :
    ∃ t, LeadsTo c Mission.destinations (Mission.active missions)
      (.ofMissions type start.waypoint found (Mission.idsBoundFor missions found.systemName)) t := by
  obtain ⟨name, hname, t, ht, rfl⟩ := exists_found_of_systemsNamed hcandidates mem
  obtain ⟨m, hm, hname⟩ := known name hname
  exact ⟨t, leadsTo_ofMissions hm hname ht⟩

theorem exists_mem_destinations {name : String} (h : name ∈ Mission.destinationNames missions) :
    ∃ m ∈ Mission.active missions, name ∈ m.destinations :=
  List.mem_flatMap.1 ((Mission.distinctNames_spec _).1 name h)

theorem mem_active_of_mem_byExpiry {m : Mission} (h : m ∈ Mission.byExpiry missions) :
    m ∈ Mission.active missions := by
  obtain ⟨⟨t, m'⟩, ranked, rfl⟩ := List.mem_map.1 h
  obtain ⟨m, hm, expires⟩ := List.mem_filterMap.1 ((ranked_perm _ _).mem_iff.1 ranked)
  split at expires
  · cases expires
  · obtain ⟨t', -, same⟩ := Option.map_eq_some_iff.1 expires
    cases same
    exact hm

/-- The resolvers which choose a destination lead to a system which missions name. -/
theorem leadsTo_destination {resolver : Resolver}
    (h : resolver ∈ [nearest, farthest, most, expiring])
    (answered : (resolver.resolve query start.waypoint
      ⟨c.atlas, traveller, missions, config⟩).outcome = .ok (some answer)) :
    ∃ t, LeadsTo c Mission.destinations (Mission.active missions) answer t := by
  simp only [List.mem_cons, List.not_mem_nil, or_false] at h
  rcases h with rfl | rfl | rfl | rfl
  · obtain ⟨candidates, found, hcandidates, mem, rfl⟩ := exists_found_of_choice answered
    exact exists_leadsTo_destination (fun _ => exists_mem_destinations) hcandidates mem
  · obtain ⟨candidates, found, hcandidates, mem, rfl⟩ := exists_found_of_choice answered
    exact exists_leadsTo_destination (fun _ => exists_mem_destinations) hcandidates mem
  · obtain ⟨candidates, found, hcandidates, mem, rfl⟩ := exists_found_of_choice answered
    refine exists_leadsTo_destination (fun name hname => ?_) hcandidates mem
    exact exists_mem_destinations (List.mem_filter.1 hname).1
  · obtain ⟨m, hm, candidates, found, hcandidates, mem, rfl⟩ := exists_found_of_expiring answered
    exact exists_leadsTo_destination
      (fun name hname => ⟨m, mem_active_of_mem_byExpiry hm, hname⟩) hcandidates mem

/-- The resolver which chooses an origin leads to a system to which missions return. -/
theorem leadsTo_source (answered : (source.resolve query start.waypoint
      ⟨c.atlas, traveller, missions, config⟩).outcome = .ok (some answer)) :
    ∃ t, LeadsTo c Mission.returns (Mission.active missions) answer t := by
  obtain ⟨candidates, found, hcandidates, mem, rfl⟩ := exists_found_of_choice answered
  obtain ⟨name, hname, t, ht, rfl⟩ := exists_found_of_systemsNamed hcandidates mem
  obtain ⟨m, hm, rfl⟩ := List.mem_map.1 ((Mission.distinctNames_spec _).1 name hname)
  obtain ⟨hm, returning⟩ := List.mem_filter.1 hm
  have origin : m.origin ∈ m.returns := by
    rw [Mission.returns, if_pos returning]
    exact List.mem_cons_self
  refine ⟨t, ?_⟩
  rw [StarSystem.systemName_waypoint, Mission.idsReturningTo_eq]
  exact leadsTo_ofMissions hm origin ht

/-! ## Stops of circuits -/

theorem active_eligible (missions : List Mission) :
    Mission.active (Circuit.eligible missions) = Circuit.eligible missions := by
  show ((Mission.active missions).filter _).filter _ = (Mission.active missions).filter _
  rw [List.filter_comm]
  exact congrArg _ (Mission.active_active missions)

/-- Each stop of a route carries the numbers of the missions which name its system. -/
theorem missionIds_route {start : Waypoint} {stops : List Waypoint} {w : Waypoint}
    (hw : w ∈ (Circuit.route missions start stops).waypoints) :
    w.missionIds = Mission.idsServedBy missions w.systemName := by
  have carried := List.mem_map_of_mem (f := fun w => (w.missionIds, w.systemName)) hw
  rw [Circuit.route, Route.map_stamped _ fun _ _ _ => rfl, List.map_map] at carried
  obtain ⟨v, -, same⟩ := List.mem_map.1 carried
  obtain ⟨ids, name⟩ := Prod.mk.inj same
  rw [← ids, ← name]
  rfl

/-- Each stop of a circuit is a system of the chart, with the numbers of the missions which
    name it. -/
theorem exists_stop_of_circuit (hstart : start ∈ c.systems)
    (answered : (circuit.resolve query start.waypoint
      ⟨c.atlas, traveller, missions, config⟩).outcome = .ok (some answer))
    {w : Waypoint} (hw : w ∈ answer.route.waypoints) :
    ∃ t ∈ c.systems, w.bare = t.waypoint ∧
      w.missionIds = Mission.idsNaming Mission.stops (Circuit.eligible missions) t.name := by
  obtain ⟨order, nodup, mem, hroute⟩ := Circuit.exists_order_of_circuit hstart answered
  have onChart : ∀ t ∈ order, t ∈ c.systems := fun t ht => ((mem t).1 ht).onChart hstart
  have comes : start ∈ order := (mem start).2 .start
  have stops := Circuit.map_bare_route (Circuit.eligible missions) onChart nodup comes
  rw [hroute] at hw
  have hbare := List.mem_map_of_mem (f := Waypoint.bare) hw
  rw [stops] at hbare
  obtain ⟨t, ht, same⟩ := List.mem_map.1 hbare
  refine ⟨t, onChart t ((Circuit.mem_systemsFrom onChart comes).1 ht), same.symm, ?_⟩
  have name : w.systemName = t.name := (congrArg Waypoint.systemName same).symm
  rw [missionIds_route hw, name, Mission.idsServedBy_eq, active_eligible]

/-- The answers to queries after a destination or an origin of missions lead to a system of
    the chart. There is a mission under one of whose names it is found, and the answer
    carries and counts numbers of such missions: all of them if and only if the system is
    recognised. Nor does a stop of a circuit miss any if it is recognised, and if it is
    found under any name it carries no others. -/
theorem missionIds_recognised (hstart : start ∈ c.systems) (traveller : Traveller)
    (missions : List Mission) (config : Config) (query : Query) :
    let answers (resolver : Resolver) (answer : Answer) : Prop :=
      (resolver.resolve query start.waypoint ⟨c.atlas, traveller, missions, config⟩).outcome =
        .ok (some answer)
    (∀ resolver ∈ [nearest, farthest, most, expiring], ∀ answer, answers resolver answer →
      ∃ t, LeadsTo c Mission.destinations (Mission.active missions) answer t) ∧
    (∀ answer, answers source answer →
      ∃ t, LeadsTo c Mission.returns (Mission.active missions) answer t) ∧
    ∀ answer, answers circuit answer → ∀ w ∈ answer.route.waypoints,
      ∃ t ∈ c.systems, w.bare = t.waypoint ∧
        (c.Recognises Mission.stops (Circuit.eligible missions) t →
          (c.idsFinding Mission.stops (Circuit.eligible missions) t).Sublist w.missionIds) ∧
        ∀ name, c.find? name = some t →
          c.Credits Mission.stops (Circuit.eligible missions) t w.missionIds := by
  intro answers
  refine ⟨fun resolver h answer answered => leadsTo_destination h answered,
    fun answer answered => leadsTo_source answered, fun answer answered w hw => ?_⟩
  obtain ⟨t, ht, same, ids⟩ := exists_stop_of_circuit hstart answered hw
  have credits (name : String) (found : c.find? name = some t) :
      c.Credits Mission.stops (Circuit.eligible missions) t w.missionIds :=
    ids ▸ credits_idsNaming found
  refine ⟨t, ht, same, fun recognised => ?_, credits⟩
  by_cases wanted : c.idsFinding Mission.stops (Circuit.eligible missions) t = []
  · rw [wanted]
    exact List.nil_sublist _
  · obtain ⟨name, found⟩ := exists_found_of_idsFinding ht wanted
    rw [(credits name found).all_iff.2 recognised]

/-- The delivery to Colonia is recognised there. -/
theorem nearest_colonia :
    let query : Query := { type := .nearest }
    Chart.sol ∈ Chart.frontier.systems ∧
      ∃ (answer : Answer) (t : StarSystem),
        (nearest.resolve query Chart.sol.waypoint
          ⟨Chart.frontier.atlas, TravellerState.traveller {}, [Circuit.delivery], {}⟩).outcome =
            .ok (some answer) ∧
        answer.address = some t.address ∧ t ∈ Chart.frontier.systems ∧ answer.missionIds ≠ [] ∧
        answer.missionIds =
          Chart.frontier.idsFinding Mission.destinations [Circuit.delivery] t := by
  intro query
  have onChart : Chart.sol ∈ Chart.frontier.systems := List.mem_cons_self
  obtain ⟨answer, answered⟩ : ∃ answer, (nearest.resolve query Chart.sol.waypoint
      ⟨Chart.frontier.atlas, TravellerState.traveller {}, [Circuit.delivery], {}⟩).outcome =
        .ok (some answer) := ⟨_, rfl⟩
  obtain ⟨t, leads⟩ := (missionIds_recognised onChart (TravellerState.traveller {})
    [Circuit.delivery] {} query).1 nearest List.mem_cons_self answer answered
  have ascii : ∀ t ∈ Chart.frontier.systems, Text.IsAscii t.name := by decide
  have plain : ∀ m ∈ Mission.active [Circuit.delivery], ∀ name ∈ m.destinations,
      StarSystem.IsPlain name := by decide
  have all := leads.credits.all_iff.2 (recognises_of_plain (ascii t leads.onChart) plain)
  exact ⟨onChart, answer, t, answered, leads.address, leads.onChart, all ▸ leads.wanted, all⟩

/-- A parcel for Colonia, the name of which is given with a blank. -/
def parcel : Mission := { id := 1, origin := "Sol", destinations := ["Colonia "] }

/-- The parcel leads to Colonia, but it is not recognised there. -/
theorem missionIds_unrecognised :
    let query : Query := { type := .nearest }
    ∃ answer : Answer,
      (nearest.resolve query Chart.sol.waypoint
        ⟨Chart.frontier.atlas, TravellerState.traveller {}, [parcel], {}⟩).outcome =
          .ok (some answer) ∧
      answer.address = some Chart.colonia.address ∧
      Chart.frontier.idsFinding Mission.destinations (Mission.active [parcel]) Chart.colonia = [1] ∧
      answer.missionIds = [] ∧ answer.count = 0 :=
  ⟨_, rfl, rfl, by decide, by decide, by decide⟩

end Resolver

end Astrogation
