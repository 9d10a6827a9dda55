import Astrogation.Proofs.Chart.Systems
import Astrogation.Proofs.Places.Basic
import Astrogation.Proofs.Ranking

/-!
# Charts by places

A `Directory` lists systems, and says at which place the system of a name or of an address is. A
`Gazetteer` has besides the index with the places of the systems at its points, and the stations.
Whatever is looked up or searched for is a place first, and then the system there.

A gazetteer describes a chart (`Gazetteer.Describes`) if its places are those of the systems on
the chart. Whenever a chart can be made, so can a gazetteer which describes it
(`Gazetteer.describes_make`). All that it finds is at a place of the chart (`Chart.IsAt`), and so
looking it up and searching for it never go out of range, and come to what the chart says
(`Gazetteer.Describes.find?_eq`, `Gazetteer.Describes.nearestMatch?_eq`).
-/

namespace Astrogation

/-! ## Directories -/

/-- Systems, and the places of names and addresses among them. -/
structure Directory where
  systems : List StarSystem
  names : List (String × Nat)
  addresses : List (Address × Nat)

namespace Directory

/-- The directory with one more system, unless it has one of its name or address. -/
def enter (d : Directory) (s : StarSystem) : Directory :=
  if (d.names.lookup s.key).isSome || (d.addresses.lookup s.address).isSome then d
  else
    { systems := d.systems ++ [s]
      names := (s.key, d.systems.length) :: d.names
      addresses := (s.address, d.systems.length) :: d.addresses }

/-- The directory of some systems. -/
def ofSystems (systems : List StarSystem) : Directory := systems.foldl enter ⟨[], [], []⟩

/-- The system at a place. -/
def system (d : Directory) (place : Nat) : Call StarSystem := Call.member d.systems place

/-- The place of the system of a name, whatever its case and the blanks around it. -/
def placeOf? (d : Directory) (name : String) : Option Nat :=
  d.names.lookup (StarSystem.lookupKey name)

/-- A station with the address of its system, if that is known. -/
def withAddress (d : Directory) (s : Station) : Call Station :=
  match s.address with
  | some _ => return s
  | none => do
    let system? ← (d.names.lookup (Text.lower s.systemName)).mapM d.system
    return { s with address := system?.map (·.address) }

/-- The places of a directory are where its systems are. -/
structure Sound (d : Directory) : Prop where
  names : ∀ key, d.names.lookup key = d.systems.findIdx? (·.key == key)
  addresses : ∀ address, d.addresses.lookup address = d.systems.findIdx? (·.address == address)

variable {d : Directory}

/-- One more entry under a key that there was none under. -/
theorem lookup_cons_eq_findIdx? {κ : Type} [BEq κ] [LawfulBEq κ] {key : StarSystem → κ}
    {entries : List (κ × Nat)} {systems : List StarSystem} {s : StarSystem}
    (sound : ∀ k, entries.lookup k = systems.findIdx? (key · == k))
    (new : entries.lookup (key s) = none) (k : κ) :
    ((key s, systems.length) :: entries).lookup k = (systems ++ [s]).findIdx? (key · == k) := by
  rw [List.lookup_cons, List.findIdx?_append, ← sound]
  by_cases same : k = key s
  · subst same
    simp [new]
  · have other : (k == key s) = false := beq_eq_false_iff_ne.2 same
    have other' : (key s == k) = false := beq_eq_false_iff_ne.2 (Ne.symm same)
    simp [other, other']

theorem Sound.enter (h : d.Sound) (s : StarSystem) : (d.enter s).Sound := by
  rw [Directory.enter]
  split
  · exact h
  · next new =>
    simp only [Bool.or_eq_true, not_or, Option.not_isSome_iff_eq_none] at new
    exact ⟨lookup_cons_eq_findIdx? h.names new.1, lookup_cons_eq_findIdx? h.addresses new.2⟩

theorem lookup_isSome_eq_contains {κ : Type} [BEq κ] [LawfulBEq κ] (entries : List (κ × Nat))
    (k : κ) : (entries.lookup k).isSome = (entries.map (·.1)).contains k := by
  induction entries with
  | nil => rfl
  | cons entry entries ih =>
    rw [List.lookup_cons, List.map_cons, List.contains_cons, ← ih]
    cases k == entry.1 <;> rfl

theorem systems_foldl_enter (systems : List StarSystem) (d : Directory) :
    (systems.foldl enter d).systems =
      d.systems ++ distinctSystems (d.names.map (·.1)) (d.addresses.map (·.1)) systems := by
  induction systems generalizing d with
  | nil => exact (List.append_nil _).symm
  | cons s systems ih =>
    rw [List.foldl_cons, ih, distinctSystems, ← lookup_isSome_eq_contains,
      ← lookup_isSome_eq_contains, enter]
    split
    · rfl
    · exact List.append_assoc ..

/-- A directory keeps the systems which are distinct. -/
theorem systems_ofSystems (systems : List StarSystem) :
    (ofSystems systems).systems = distinctSystems [] [] systems :=
  systems_foldl_enter systems ⟨[], [], []⟩

theorem sound_ofSystems (systems : List StarSystem) : (ofSystems systems).Sound := by
  have start : Sound ⟨[], [], []⟩ := ⟨fun _ => rfl, fun _ => rfl⟩
  rw [ofSystems]
  generalize (⟨[], [], []⟩ : Directory) = d at start
  induction systems generalizing d with
  | nil => exact start
  | cons s systems ih => exact ih (d.enter s) (start.enter s)

theorem Sound.withAddress_eq (h : d.Sound) (s : Station) :
    d.withAddress s = .reply (Chart.withAddress d.systems s) := by
  rw [withAddress, Chart.withAddress]
  cases s.address with
  | some _ => rfl
  | none =>
    dsimp only
    rw [h.names]
    exact congrArg (· >>= _) (Call.mapM_member (Call.rel_findIdx? d.systems _))

end Directory

/-! ## Gazetteers -/

/-- A directory with an index of its systems, and the stations in them. -/
structure Gazetteer extends Directory where
  index : List (SinglePoint × Nat)
  stations : List Station

namespace Gazetteer

open Chart (widenedSquare yieldsTo compareStations)

/-- The gazetteer of systems and stations. -/
def make (systems : List StarSystem) (stations : List Station) : Call Gazetteer := do
  let d := Directory.ofSystems systems
  let stations ← stations.mapM d.withAddress
  return { d with
    index := d.systems.zipIdx.map fun (s, i) => (.ofPosition s.position, i)
    stations }

variable (g : Gazetteer)

/-- The system of a name, whatever its case and the blanks around it. -/
def find? (name : String) : Call (Option StarSystem) := (g.placeOf? name).mapM g.system

/-- The system of an address. -/
def systemAt? (address : Address) : Call (Option StarSystem) :=
  (g.addresses.lookup address).mapM g.system

/-- A place with a distance of the system there. -/
def measure (distance : StarSystem → Float) (place : Nat) : Call (Nat × Float) := do
  let s ← g.system place
  return (place, distance s)

/-- The places which the index finds within a radius of a point. -/
def candidates (point : Position) (radius : Float) : List Nat :=
  let center := SinglePoint.ofPosition point
  let bound := widenedSquare radius
  (g.index.filter fun (p, _) => center.squaredDistance p ≤ bound).map (·.2)

/-- The places of the systems within a radius of a point with their distances, the nearest
    first. -/
def withinRadius (point : Position) (radius : Float) : Call (List (Nat × Float)) :=
  if radius < 0 || g.systems.isEmpty then return []
  else do
    let measured ← (g.candidates point radius).mapM (g.measure (point.distanceTo ·.position))
    return ranked (fun a b => a.2 ≤ b.2) (measured.filter (·.2 ≤ radius))

/-- Whether fuel can be scooped from the star at a place. -/
def scoopableAt (found : Nat × Float) : Call Bool := do
  let s ← g.system found.1
  return s.scoopable

/-- The place of the nearest system whose star fuel can be scooped from. -/
def nearestScoopable? (point : Position) : (radius : Option Float) → Call (Option Nat)
  | some radius => do
    let around ← g.withinRadius point radius
    let found? ← around.findM? g.scoopableAt
    return found?.map (·.1)
  | none =>
    let measured := (g.systems.zipIdx.filter (·.1.scoopable)).map fun (s, i) =>
      (i, point.distanceTo s.position)
    return (champion? (fun best s => yieldsTo best.2 s.2) measured).map (·.1)

/-- A station with the place of its system, if that is known. -/
def stationCandidate? (point : Position) (station : Station) :
    Call (Option (Nat × StationCandidate)) :=
  (g.placeOf? station.systemName).mapM fun place => do
    let system ← g.system place
    return (place, ⟨station, system, point.distanceTo system.position⟩)

/-- The best station that a search accepts, with the place of its system. -/
def nearestStation? (point : Position) (filter : SearchFilter) :
    Call (Option (Nat × StationCandidate)) := do
  let found ← Call.gather (g.stationCandidate? point) (g.stations.filter filter.accepts)
  return champion? (fun best s => compareStations filter.preferOrbital best.2 s.2 == .gt)
    (found.filter fun s => withinBound s.2.distance filter.maxRadius)

/-- The match for a search from a system whose coordinates are complete. -/
def nearestMatch? (start : Waypoint) (filter : SearchFilter) : Call (Option SearchMatch) :=
  match start.position?, filter.category with
  | none, _ => return none
  | some point, .scoopableStar => do
    let place? ← g.nearestScoopable? point filter.maxRadius
    let found? ← place?.mapM g.system
    return found?.map fun s => ⟨s.waypoint, none⟩
  | some point, .facility _ => do
    let found? ← g.nearestStation? point filter
    found?.mapM fun (place, found) => do
      let s ← g.system place
      return ⟨s.waypoint.atStation found.station.name found.station.marketId,
        some found.station.arrivalDistance⟩

end Gazetteer

/-! ## Places on a chart -/

namespace Chart

variable {c : Chart} {i j : Nat} {s t : StarSystem}

/-- The system at a place of a chart. -/
def IsAt (c : Chart) (i : Nat) (s : StarSystem) : Prop := c.systems[i]? = some s

theorem IsAt.mem (h : c.IsAt i s) : s ∈ c.systems := List.mem_of_getElem? h

/-- Two places of a chart are the same if the addresses there are. -/
theorem IsAt.address_inj (hs : c.IsAt i s) (ht : c.IsAt j t) :
    s.address = t.address ↔ i = j := by
  obtain ⟨hi, rfl⟩ := List.getElem?_eq_some_iff.1 hs
  obtain ⟨hj, rfl⟩ := List.getElem?_eq_some_iff.1 ht
  constructor
  · intro same
    have apart := List.pairwise_iff_getElem.1 c.apart
    rcases Nat.lt_trichotomy i j with before | same' | after
    · exact absurd same (apart i j hi hj before).1
    · exact same'
    · exact absurd same.symm (apart j i hj hi after).1
  · rintro rfl
    rfl

theorem IsAt.some_eq_iff (hs : c.IsAt i s) (ht : c.IsAt j t) :
    some i = some j ↔ (s.address == t.address) = true := by
  rw [Option.some_inj, beq_iff_eq, hs.address_inj ht]

theorem isAt_of_mem_candidates {point : Position} {radius : Float}
    (h : (s, i) ∈ c.candidates point radius) : c.IsAt i s :=
  List.mem_zipIdx_iff_getElem?.1 (List.mem_filter.1 h).1

/-- What is in the surroundings of a point is at its place. -/
theorem isAt_of_mem_withinRadius {point : Position} {radius : Float} {found : Neighbour}
    (h : found ∈ c.withinRadius point radius) : c.IsAt found.index found.system := by
  rw [withinRadius] at h
  split at h
  · exact absurd h List.not_mem_nil
  · obtain ⟨measured, -⟩ := List.mem_filter.1 ((ranked_perm _ _).mem_iff.1 h)
    obtain ⟨⟨s, i⟩, hs, rfl⟩ := List.mem_map.1 measured
    exact isAt_of_mem_candidates hs

/-- The place and the system of something that has been found. -/
theorem rel_isAt_map {α : Type} {found? : Option α} {place : α → Nat} {system : α → StarSystem}
    (located : ∀ found ∈ found?, c.IsAt (place found) (system found)) :
    Option.Rel c.IsAt (found?.map place) (found?.map system) := by
  cases found? with
  | none => exact .none
  | some found => exact .some (located found rfl)

end Chart

namespace Gazetteer

open Chart (IsAt widenedSquare yieldsTo compareStations)

/-- A gazetteer whose places are those of the systems on a chart. -/
structure Describes (g : Gazetteer) (c : Chart) : Prop where
  systems : g.systems = c.systems
  sound : g.toDirectory.Sound
  index : g.index = c.systems.zipIdx.map fun (s, i) => (.ofPosition s.position, i)
  stations : g.stations = c.stations

/-- If a chart can be made, then so can a gazetteer of the same systems and stations. -/
theorem describes_make {systems : List StarSystem} {stations : List Station} {c : Chart}
    (made : Chart.build? systems stations = some c) :
    ∃ g, make systems stations = .reply g ∧ g.Describes c := by
  obtain ⟨kept, linked⟩ := Chart.of_build? made
  have sound := Directory.sound_ofSystems systems
  have same : (Directory.ofSystems systems).systems = c.systems :=
    (Directory.systems_ofSystems systems).trans kept.symm
  have all : stations.mapM (Directory.ofSystems systems).withAddress = .reply c.stations := by
    rw [linked, ← same]
    refine (congrArg (List.mapM _) (List.map_id stations)).symm.trans ?_
    exact Call.mapM_reply id fun s _ => sound.withAddress_eq s
  refine ⟨{ Directory.ofSystems systems with
    index := (Directory.ofSystems systems).systems.zipIdx.map fun (s, i) =>
      (.ofPosition s.position, i)
    stations := c.stations }, ?_, same, sound, ?_, rfl⟩
  · rw [make, all]
    rfl
  · dsimp only
    rw [same]

namespace Describes

variable {g : Gazetteer} {c : Chart} (h : g.Describes c)
include h

theorem system_eq {i : Nat} {s : StarSystem} (hs : c.IsAt i s) : g.system i = .reply s :=
  Call.member_eq_reply (h.systems ▸ hs)

/-- What comes of a place of the chart that may not be known. -/
theorem mapM_system {place? : Option Nat} {s? : Option StarSystem}
    (located : Option.Rel c.IsAt place? s?) : place?.mapM g.system = .reply s? := by
  have read : g.system = Call.member c.systems :=
    funext fun i => congrArg (Call.member · i) h.systems
  rw [read]
  exact Call.mapM_member located

theorem placeOf?_rel (name : String) : Option.Rel c.IsAt (g.placeOf? name) (c.find? name) := by
  rw [Directory.placeOf?, h.sound.names, h.systems]
  exact Call.rel_findIdx? c.systems _

theorem address_rel (address : Address) :
    Option.Rel c.IsAt (g.addresses.lookup address) (c.systemAt? address) := by
  rw [h.sound.addresses, h.systems]
  exact Call.rel_findIdx? c.systems _

/-- Looking up a name never goes out of range. -/
theorem find?_eq (name : String) : g.find? name = .reply (c.find? name) :=
  h.mapM_system (h.placeOf?_rel name)

/-- Looking up an address never goes out of range. -/
theorem systemAt?_eq (address : Address) : g.systemAt? address = .reply (c.systemAt? address) :=
  h.mapM_system (h.address_rel address)

/-! ## Searches -/

theorem measure_eq (distance : StarSystem → Float) {i : Nat} {s : StarSystem} (hs : c.IsAt i s) :
    g.measure distance i = .reply (i, distance s) := by
  rw [measure, h.system_eq hs]
  rfl

theorem candidates_eq (point : Position) (radius : Float) :
    g.candidates point radius = (c.candidates point radius).map (·.2) := by
  rw [candidates, h.index, List.filter_map, List.map_map]
  rfl

/-- Searching within a radius never goes out of range, and lists the places of what is there. -/
theorem withinRadius_eq (point : Position) (radius : Float) :
    g.withinRadius point radius =
      .reply ((c.withinRadius point radius).map fun found => (found.index, found.distance)) := by
  by_cases negative : radius < 0
  · rw [withinRadius, Chart.withinRadius, if_pos negative, decide_eq_true negative]
    rfl
  by_cases empty : c.systems.isEmpty
  · have nothing : c.candidates point radius = [] := by
      rw [Chart.candidates, List.isEmpty_iff.1 empty]
      rfl
    rw [withinRadius, h.systems, empty, Bool.or_true, if_pos rfl, Chart.withinRadius, nothing,
      if_neg negative]
    rfl
  have measured : (g.candidates point radius).mapM (g.measure (point.distanceTo ·.position)) =
      .reply (((c.candidates point radius).map fun (s, i) =>
        Neighbour.mk i s (point.distanceTo s.position)).map fun found =>
          (found.index, found.distance)) := by
    rw [h.candidates_eq, List.map_map]
    exact Call.mapM_reply _ fun candidate hc => h.measure_eq _ (Chart.isAt_of_mem_candidates hc)
  rw [withinRadius, h.systems, decide_eq_false negative, Bool.eq_false_iff.2 empty, Bool.or_false,
    if_neg Bool.false_ne_true, measured, Call.reply_bind, Chart.withinRadius, if_neg negative]
  rw [List.filter_map, ranked_map]
  rfl

/-- The place of the nearest star to scoop fuel from is where it is. -/
theorem nearestScoopable?_rel (point : Position) (radius : Option Float) :
    ∃ place?, g.nearestScoopable? point radius = .reply place? ∧
      Option.Rel c.IsAt place? (c.nearestScoopable? point radius) := by
  cases radius with
  | some radius =>
    have scanned : ((c.withinRadius point radius).map fun found =>
        (found.index, found.distance)).findM? g.scoopableAt =
          .reply (((c.withinRadius point radius).find? (·.system.scoopable)).map fun found =>
            (found.index, found.distance)) := by
      refine Call.findM?_reply _ fun found hfound => ?_
      rw [scoopableAt, h.system_eq (Chart.isAt_of_mem_withinRadius hfound)]
      rfl
    refine ⟨_, ?_, Chart.rel_isAt_map fun found hfound =>
      Chart.isAt_of_mem_withinRadius (List.mem_of_find?_eq_some hfound)⟩
    rw [nearestScoopable?, h.withinRadius_eq, Call.reply_bind, scanned, Call.reply_bind,
      Option.map_map]
    rfl
  | none =>
    have here : c.systems.filter (·.scoopable) =
        (c.systems.zipIdx.filter (·.1.scoopable)).map (·.1) := by
      conv_lhs => rw [← List.zipIdx_map_fst 0 c.systems, List.filter_map]
      rfl
    rw [nearestScoopable?, Chart.nearestScoopable?, here, champion?_map, champion?_map,
      Option.map_map, h.systems]
    refine ⟨_, rfl, Chart.rel_isAt_map fun found hfound => ?_⟩
    exact List.mem_zipIdx_iff_getElem?.1 (List.mem_filter.1 (mem_of_champion? hfound)).1

/-- The place of a station is where its system is, if that is known. -/
theorem stationCandidate?_eq (point : Position) (station : Station) :
    ∃ candidate?, g.stationCandidate? point station = .reply candidate? ∧
      candidate?.map (·.2) = (c.find? station.systemName).map (fun system =>
        ⟨station, system, point.distanceTo system.position⟩) ∧
      ∀ candidate ∈ candidate?, c.IsAt candidate.1 candidate.2.system := by
  have located := h.placeOf?_rel station.systemName
  rw [stationCandidate?]
  revert located
  generalize g.placeOf? station.systemName = place?
  generalize c.find? station.systemName = system?
  rintro (@⟨place, system, here⟩ | _)
  · refine ⟨some (place, ⟨station, system, point.distanceTo system.position⟩), ?_, rfl, ?_⟩
    · rw [Option.mapM_some, h.system_eq here]
      rfl
    · intro candidate same
      cases same
      exact here
  · exact ⟨none, rfl, rfl, fun _ absent => nomatch absent⟩

/-- The place of the best station is where its system is. -/
theorem nearestStation?_eq (point : Position) (filter : SearchFilter) :
    ∃ found?, g.nearestStation? point filter = .reply found? ∧
      found?.map (·.2) = c.nearestStation? point filter ∧
      ∀ found ∈ found?, c.IsAt found.1 found.2.system := by
  choose candidate? replied same located using h.stationCandidate?_eq point
  have gathered : g.stationCandidate? point = fun station => .reply (candidate? station) :=
    funext replied
  have found : ((c.stations.filter filter.accepts).filterMap candidate?).map (·.2) =
      (c.stations.filter filter.accepts).filterMap fun station =>
        (c.find? station.systemName).map fun system =>
          StationCandidate.mk station system (point.distanceTo system.position) := by
    rw [List.map_filterMap]
    exact List.filterMap_congr fun station _ => same station
  refine ⟨_, by rw [nearestStation?, gathered, Call.gather_reply, h.stations]; rfl, ?_, ?_⟩
  · rw [Chart.nearestStation?, Chart.stationCandidates, ← found, List.filter_map, champion?_map]
    rfl
  · intro candidate best
    obtain ⟨among, -⟩ := List.mem_filter.1 (mem_of_champion? best)
    obtain ⟨station, -, here⟩ := List.mem_filterMap.1 among
    exact located station candidate here

/-- Searching for the nearest match never goes out of range. -/
theorem nearestMatch?_eq (start : Waypoint) (filter : SearchFilter) :
    g.nearestMatch? start filter = .reply (c.nearestMatch? start filter) := by
  rw [nearestMatch?, Chart.nearestMatch?]
  cases start.position? with
  | none => rfl
  | some point =>
    cases filter.category with
    | scoopableStar =>
      obtain ⟨place?, replied, located⟩ := h.nearestScoopable?_rel point filter.maxRadius
      dsimp only
      rw [replied, Call.reply_bind, h.mapM_system located]
      rfl
    | facility service =>
      obtain ⟨found?, replied, same, located⟩ := h.nearestStation?_eq point filter
      dsimp only
      rw [replied, Call.reply_bind, Option.bind_some, ← same]
      cases found? with
      | none => rfl
      | some found =>
        rw [Option.mapM_some, h.system_eq (located found rfl)]
        rfl

end Describes

end Gazetteer

end Astrogation
