import Astrogation.Chart.System
import Astrogation.Fault
import Astrogation.Ranking
import Astrogation.Station.Basic
import Astrogation.Text.Similarity

/-!
# Charts

A `Chart` holds star systems and the stations in them. No two of its systems have
the same address, or the same name in lower case: of systems which collide, the
first is kept (`distinctSystems`). A station without an address takes that of the
system of its name.

The systems of a chart are indexed by their points in single precision, in a
k-d tree which is not part of this library. It has only so much room for systems
at the same point; a chart with more of them cannot be made (`Chart.build?`).
What the tree finds is said where it is searched (`Chart.candidates`).
-/

namespace Astrogation

/-- Two systems which may be on the same chart. -/
def StarSystem.Apart (s t : StarSystem) : Prop := s.address ≠ t.address ∧ s.key ≠ t.key

/-- The systems which collide neither with the names and addresses given nor with
    an earlier one that is kept. -/
def distinctSystems (names : List String) (addresses : List Address) :
    List StarSystem → List StarSystem
  | [] => []
  | s :: rest =>
    if names.contains s.key || addresses.contains s.address then
      distinctSystems names addresses rest
    else s :: distinctSystems (s.key :: names) (s.address :: addresses) rest

/-- A system that is kept has none of the names and addresses given. -/
theorem not_contains_of_mem_distinctSystems {names : List String} {addresses : List Address}
    {systems : List StarSystem} {s : StarSystem}
    (h : s ∈ distinctSystems names addresses systems) :
    s.key ∉ names ∧ s.address ∉ addresses := by
  fun_induction distinctSystems names addresses systems with
  | case1 => simp at h
  | case2 _ _ _ _ _ ih => exact ih h
  | case3 names addresses t rest ht ih =>
    rcases List.mem_cons.1 h with rfl | h
    · simpa using ht
    · have := ih h
      simp only [List.mem_cons, not_or] at this
      exact ⟨this.1.2, this.2.2⟩

/-- The systems which are kept do not collide. -/
theorem distinctSystems_pairwise (names : List String) (addresses : List Address)
    (systems : List StarSystem) :
    (distinctSystems names addresses systems).Pairwise StarSystem.Apart := by
  fun_induction distinctSystems names addresses systems with
  | case1 => exact .nil
  | case2 _ _ _ _ _ ih => exact ih
  | case3 names addresses s rest hs ih =>
    refine .cons (fun t ht => ?_) ih
    have := not_contains_of_mem_distinctSystems ht
    simp only [List.mem_cons, not_or] at this
    exact ⟨fun e => this.2.1 e.symm, fun e => this.1.1 e.symm⟩

/-- Star systems and the stations in them. -/
structure Chart where
  systems : List StarSystem
  stations : List Station
  apart : systems.Pairwise StarSystem.Apart

namespace Chart

/-- The number of systems that the index holds at one point: the size of the buckets
    of its tree. -/
def pointCapacity : Nat := 32

/-- Whether more systems are at one point than the index holds: then its tree cannot be
    made. The tree may fail for more systems than these, namely if all systems of a full
    bucket agree on one axis. So the charts made here are at least those which it can
    index, and what is proved of every chart holds of those. -/
def isCrowded (systems : List StarSystem) : Bool :=
  let points := systems.map fun s => SinglePoint.ofPosition s.position
  points.any fun p => pointCapacity < points.countP p.same

/-- A station with the address of its system, if that is known. -/
def withAddress (systems : List StarSystem) (s : Station) : Station :=
  match s.address with
  | some _ => s
  | none =>
    { s with
      address := (systems.find? fun t => t.key == Text.lower s.systemName).map (·.address) }

/-- The chart of systems and stations; none if its index is too small. -/
def build? (systems : List StarSystem) (stations : List Station) : Option Chart :=
  let kept := distinctSystems [] [] systems
  if isCrowded kept then none
  else some ⟨kept, stations.map (withAddress kept), distinctSystems_pairwise [] [] systems⟩

/-- The system of a name, whatever its case and the blanks around it. -/
def find? (c : Chart) (name : String) : Option StarSystem :=
  let key := StarSystem.lookupKey name
  c.systems.find? (·.key == key)

/-- The system of an address. -/
def systemAt? (c : Chart) (address : Address) : Option StarSystem :=
  c.systems.find? (·.address == address)

/-- The first station of a name in the system of a name, whatever their case. -/
def stationNamed? (c : Chart) (system station : String) : Option Station :=
  c.stations.find? (·.isNamed system station)

/-- The first station of a market. -/
def stationOf? (c : Chart) (market : MarketId) : Option Station :=
  c.stations.find? (·.marketId == some market)

/-- How similar a name has to be to be suggested. -/
def suggestionThreshold : Float := 0.8

/-- Names of systems which are similar to `name`, the most similar first, at most
    `limit` of them. -/
def similarNames (c : Chart) (name : String) (limit : Nat) : List String :=
  let needle := (StarSystem.lookupKey name).toList
  let scored := c.systems.map fun s =>
    (Text.Similarity.jaroWinkler needle (Text.lowerChars s.name.toList), s.name)
  let similar := scored.filter fun (score, _) => suggestionThreshold ≤ score
  let precedes (a b : Float × String) : Bool :=
    b.1 < a.1 || (a.1 == b.1 && decide (a.2 ≤ b.2))
  ((ranked precedes similar).take limit).map (·.2)

/-- The system of a name as a stop, or a fault which suggests similar names. -/
def require (c : Chart) (name : String) : Except Fault Waypoint :=
  match c.find? name with
  | some s => .ok s.waypoint
  | none => .error (.unknownSystem name (c.similarNames name 3))

/-- A one-line description of a chart. -/
def description (c : Chart) : String :=
  "StarCatalog \x7b system_count: " ++ toString c.systems.length ++ ", station_count: " ++
    toString c.stations.length ++ " \x7d"

end Chart

end Astrogation
