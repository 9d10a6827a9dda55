import Astrogation.Chart.Plot
import Astrogation.Proofs.Route.Distinct
import Astrogation.Proofs.Route.Stamped
import Mathlib.Data.List.Nodup
import Mathlib.Data.List.Pairwise

/-!
# The systems of a chart

A system of a chart is determined by its address (`Chart.eq_of_address`), and by what
it is entered under, so that a look-up finds the one system there is
(`Chart.find?_eq_some_iff`, `Chart.systemAt?_eq_some_iff`). As stops, systems differ
if and only if their addresses do. What searches find is on the chart, and has not been
visited (`Chart.visited_of_nearestMatch?`).
-/

namespace Astrogation

variable {c : Chart} {s t : StarSystem}

/-! ## Systems as stops -/

deriving instance DecidableEq for Position, Coordinates, Waypoint

namespace StarSystem

@[simp]
theorem visited_waypoint (s : StarSystem) : s.waypoint.visited = false := rfl

@[simp]
theorem bare_waypoint (s : StarSystem) : s.waypoint.bare = s.waypoint := rfl

@[simp]
theorem sameSystem_waypoint (s t : StarSystem) :
    s.waypoint.sameSystem t.waypoint = (s.address == t.address) := rfl

instance : Std.Symm Apart := ⟨fun _ _ h => ⟨h.1.symm, h.2.symm⟩⟩

theorem addresses_map_waypoint (stops : List StarSystem) :
    Waypoint.addresses (stops.map waypoint) = stops.map (·.address) := by
  induction stops with
  | nil => rfl
  | cons s stops ih =>
    rw [List.map_cons, Waypoint.addresses_cons_of_some s.address_waypoint, ih, List.map_cons]

end StarSystem

namespace Chart

/-! ## Looking up systems -/

theorem apart_of_ne (hs : s ∈ c.systems) (ht : t ∈ c.systems) (h : s ≠ t) : s.Apart t :=
  c.apart.forall hs ht h

theorem eq_of_address (hs : s ∈ c.systems) (ht : t ∈ c.systems) (h : s.address = t.address) :
    s = t := by
  by_contra other
  exact (apart_of_ne hs ht other).1 h

theorem eq_of_key (hs : s ∈ c.systems) (ht : t ∈ c.systems) (h : s.key = t.key) : s = t := by
  by_contra other
  exact (apart_of_ne hs ht other).2 h

/-- Stops in different systems of a chart are at different addresses. -/
theorem nodup_addresses_map_waypoint {stops : List StarSystem}
    (onChart : ∀ s ∈ stops, s ∈ c.systems) (nodup : stops.Nodup) :
    (Waypoint.addresses (stops.map StarSystem.waypoint)).Nodup := by
  rw [StarSystem.addresses_map_waypoint]
  exact nodup.map_on fun s hs t ht same => eq_of_address (onChart s hs) (onChart t ht) same

/-- What is unique on a chart is found if it is there. -/
theorem find?_systems_eq_some_iff {holds : StarSystem → Bool}
    (unique : ∀ s ∈ c.systems, ∀ t ∈ c.systems, holds s → holds t → s = t) :
    c.systems.find? holds = some t ↔ t ∈ c.systems ∧ holds t = true := by
  constructor
  · exact fun h => ⟨List.mem_of_find?_eq_some h, List.find?_some h⟩
  · rintro ⟨ht, here⟩
    obtain ⟨u, hu⟩ := Option.isSome_iff_exists.1 (List.find?_isSome.2 ⟨t, ht, here⟩)
    rw [unique t ht u (List.mem_of_find?_eq_some hu) here (List.find?_some hu)]
    exact hu

theorem find?_eq_some_iff {name : String} :
    c.find? name = some t ↔ t ∈ c.systems ∧ t.key = StarSystem.lookupKey name := by
  refine (find?_systems_eq_some_iff fun s hs t ht here there => ?_).trans ?_
  · exact eq_of_key hs ht ((beq_iff_eq.1 here).trans (beq_iff_eq.1 there).symm)
  · rw [beq_iff_eq]

theorem systemAt?_eq_some_iff {address : Address} :
    c.systemAt? address = some t ↔ t ∈ c.systems ∧ t.address = address := by
  refine (find?_systems_eq_some_iff fun s hs t ht here there => ?_).trans ?_
  · exact eq_of_address hs ht ((beq_iff_eq.1 here).trans (beq_iff_eq.1 there).symm)
  · rw [beq_iff_eq]

/-! ## Charts that can be made -/

/-- A chart that is made has the systems which are kept, and the stations with their
    addresses. -/
theorem of_build? {systems : List StarSystem} {stations : List Station}
    (made : build? systems stations = some c) :
    c.systems = distinctSystems [] [] systems ∧
      c.stations = stations.map (withAddress c.systems) := by
  rw [build?] at made
  split at made
  · cases made
  · cases made
    exact ⟨rfl, rfl⟩

/-! ## Searches -/

/-- A system in the surroundings of a point is on the chart and not too far away. -/
theorem mem_withinRadius {point : Position} {radius : Float} {found : Neighbour}
    (h : found ∈ c.withinRadius point radius) :
    found.system ∈ c.systems ∧ point.distanceTo found.system.position ≤ radius := by
  rw [withinRadius] at h
  split at h
  · exact absurd h List.not_mem_nil
  · obtain ⟨measured, near⟩ := List.mem_filter.1 ((ranked_perm _ _).mem_iff.1 h)
    obtain ⟨⟨s, i⟩, hs, rfl⟩ := List.mem_map.1 measured
    have onChart := (List.mem_zipIdx (List.mem_filter.1 hs).1).2.2
    exact ⟨onChart ▸ List.getElem_mem _, of_decide_eq_true near⟩

/-- What is nearest has not been visited. -/
theorem visited_of_nearestMatch? {start : Waypoint} {filter : SearchFilter} {found : SearchMatch}
    (h : c.nearestMatch? start filter = some found) : found.waypoint.visited = false := by
  obtain ⟨point, -, h⟩ := Option.bind_eq_some_iff.1 h
  split at h
  · obtain ⟨s, -, rfl⟩ := Option.map_eq_some_iff.1 h
    rfl
  · obtain ⟨candidate, -, rfl⟩ := Option.map_eq_some_iff.1 h
    rfl

/-! ## A chart -/

def sol : StarSystem := { name := "Sol", address := 1, position := ⟨0, 0, 0⟩, scoopable := true }

def jackson : StarSystem :=
  { name := "Jackson", address := 2, position := ⟨5, 0, 0⟩, neutron := true }

def colonia : StarSystem := { name := "Colonia", address := 3, position := ⟨20, 0, 0⟩ }

/-- Three systems in a row, the one in the middle around a neutron star. -/
def frontier : Chart where
  systems := [sol, jackson, colonia]
  stations := []
  apart := by
    simp only [List.pairwise_cons, List.Pairwise.nil, StarSystem.Apart]
    decide

end Chart

end Astrogation
