import Astrogation.Proofs.Chart.Systems
import Astrogation.Resolver.Circuit
import Mathlib.Data.List.Induction

/-!
# The stops of a circuit

The stops of a circuit are gathered one by one. They are the start, if its coordinates
are complete, and stops which nobody has visited, no two in the same system (`Gathered`).

On a chart they are systems: those which are gathered are the start and the systems that
are looked up, each of them once (`exists_gather`), and a home that is known closes the
circuit unless it is the start (`exists_withHome`).
-/

namespace Astrogation

/-- A system as a stop of a circuit. -/
def StarSystem.circuitStop (s : StarSystem) : CircuitStop := ⟨s.waypoint, s.position⟩

namespace Circuit

variable {start w : Waypoint} {stops : List CircuitStop}

/-! ## Gathering stops -/

/-- A stop is there already, or it cannot be one, or it is added. -/
theorem insertStop_cases (stops : List CircuitStop) (w : Waypoint) :
    insertStop stops w = stops ∨
      (∃ position, insertStop stops w = stops ++ [⟨w, position⟩]) ∧
        ∀ s ∈ stops, s.waypoint.sameSystem w = false := by
  rw [insertStop]
  split
  · exact .inl rfl
  · next absent =>
    rw [CircuitStop.ofWaypoint?]
    cases w.position? with
    | none => exact .inl (List.append_nil stops)
    | some position =>
      exact .inr ⟨⟨position, rfl⟩, fun s hs =>
        List.findIdx?_eq_none_iff.1 absent s hs⟩

/-- The stops of a circuit from a start: itself and others, which are not visited, in
    systems of their own. -/
structure Gathered (start : Waypoint) (stops : List CircuitStop) : Prop where
  origin : ∀ s ∈ stops, s.waypoint = start ∨ s.waypoint.visited = false
  apart : stops.Pairwise fun s t => s.waypoint.sameSystem t.waypoint = false

theorem Gathered.insertStop (h : Gathered start stops) (hw : w.visited = false) :
    Gathered start (insertStop stops w) := by
  rcases insertStop_cases stops w with there | ⟨⟨position, added⟩, other⟩
  · rwa [there]
  · rw [added]
    refine ⟨fun s hs => ?_, List.pairwise_append.2 ⟨h.apart, List.pairwise_singleton _ _, ?_⟩⟩
    · rcases List.mem_append.1 hs with hs | hs
      · exact h.origin s hs
      · obtain rfl := List.mem_singleton.1 hs
        exact .inr hw
    · intro s hs t ht
      obtain rfl := List.mem_singleton.1 ht
      exact other s hs

theorem gathered_gather {systems : List Waypoint} (h : ∀ w ∈ systems, w.visited = false) :
    Gathered start (gather start systems) := by
  refine List.foldlRecOn systems Circuit.insertStop ?_ fun stops gathered w hw =>
    gathered.insertStop (h w hw)
  -- Before anything is gathered there is the start, or nothing.
  rw [CircuitStop.ofWaypoint?]
  cases start.position? with
  | none => exact ⟨fun s hs => absurd hs List.not_mem_nil, .nil⟩
  | some position =>
    refine ⟨fun s hs => .inl ?_, List.pairwise_singleton _ _⟩
    rw [List.mem_singleton.1 hs]

theorem Gathered.withHome (h : Gathered start stops) {home : Option Waypoint}
    (hhome : ∀ w ∈ home, w.visited = false) : Gathered start (withHome start stops home).1 := by
  cases home with
  | none => exact h
  | some w =>
    rw [Circuit.withHome.eq_def]
    dsimp only
    split
    · exact h
    · split
      · exact h.insertStop (hhome w rfl)
      · exact h.insertStop (hhome w rfl)

/-! ## Gathering systems of a chart -/

variable {c : Chart} {s t : StarSystem} {systems : List StarSystem}

theorem placeOf?_circuitStop (systems : List StarSystem) (t : StarSystem) :
    placeOf? (systems.map StarSystem.circuitStop) t.waypoint =
      systems.findIdx? fun s => s.address == t.address := by
  rw [placeOf?, List.findIdx?_map]
  rfl

/-- A system has a place among the stops if and only if it is one of them. -/
theorem placeOf?_eq_none_iff (onChart : ∀ s ∈ systems, s ∈ c.systems) (ht : t ∈ c.systems) :
    placeOf? (systems.map StarSystem.circuitStop) t.waypoint = none ↔ t ∉ systems := by
  rw [placeOf?_circuitStop, List.findIdx?_eq_none_iff]
  constructor
  · exact fun none here => absurd (none t here) (by simp)
  · intro absent s hs
    refine beq_eq_false_iff_ne.2 fun same => absent ?_
    rwa [← Chart.eq_of_address (onChart s hs) ht same]

theorem getElem?_of_placeOf? (onChart : ∀ s ∈ systems, s ∈ c.systems) (ht : t ∈ c.systems)
    {place : Nat} (h : placeOf? (systems.map StarSystem.circuitStop) t.waypoint = some place) :
    systems[place]? = some t := by
  rw [placeOf?_circuitStop] at h
  obtain ⟨bound, here, -⟩ := List.findIdx?_eq_some_iff_getElem.1 h
  rw [List.getElem?_eq_getElem bound,
    Chart.eq_of_address (onChart _ (List.getElem_mem bound)) ht (beq_iff_eq.1 here)]

/-- A system is added unless it is there. -/
theorem exists_insertStop (onChart : ∀ s ∈ systems, s ∈ c.systems) (nodup : systems.Nodup)
    (ht : t ∈ c.systems) :
    ∃ more : List StarSystem, insertStop (systems.map StarSystem.circuitStop) t.waypoint =
        more.map StarSystem.circuitStop ∧
      more.Nodup ∧ ∀ u, u ∈ more ↔ u ∈ systems ∨ u = t := by
  rw [insertStop]
  split
  · next place found =>
    have here := List.mem_of_getElem? (getElem?_of_placeOf? onChart ht found)
    refine ⟨systems, rfl, nodup, fun u => ⟨.inl, ?_⟩⟩
    rintro (hu | rfl)
    · exact hu
    · exact here
  · next absent =>
    have new := (placeOf?_eq_none_iff onChart ht).1 absent
    refine ⟨systems ++ [t], ?_, List.nodup_append.2 ⟨nodup, List.nodup_singleton t, ?_⟩, ?_⟩
    · rw [List.map_append]
      rfl
    · intro s hs u hu
      obtain rfl := List.mem_singleton.1 hu
      exact fun same => new (same ▸ hs)
    · intro u
      rw [List.mem_append, List.mem_singleton]

/-- What is gathered are the start and the systems, each once. -/
theorem exists_gather {start : StarSystem} (hstart : start ∈ c.systems)
    (onChart : ∀ s ∈ systems, s ∈ c.systems) :
    ∃ gathered : List StarSystem, gather start.waypoint (systems.map StarSystem.waypoint) =
        gathered.map StarSystem.circuitStop ∧
      gathered.Nodup ∧ ∀ u, u ∈ gathered ↔ u = start ∨ u ∈ systems := by
  induction systems using List.reverseRecOn with
  | nil =>
    refine ⟨[start], rfl, List.nodup_singleton start, fun u => ?_⟩
    rw [List.mem_singleton, or_iff_left List.not_mem_nil]
  | append_singleton systems t ih =>
    obtain ⟨gathered, hgathered, nodup, mem⟩ :=
      ih fun s hs => onChart s (List.mem_append_left [t] hs)
    have gatheredOnChart : ∀ s ∈ gathered, s ∈ c.systems := by
      intro s hs
      rcases (mem s).1 hs with rfl | hs
      · exact hstart
      · exact onChart s (List.mem_append_left [t] hs)
    obtain ⟨more, hmore, nodup, mem'⟩ := exists_insertStop gatheredOnChart nodup
      (onChart t (List.mem_append_right systems List.mem_cons_self))
    refine ⟨more, ?_, nodup, fun u => ?_⟩
    · rw [← hmore, ← hgathered, gather, gather, List.map_append, List.foldl_append]
      rfl
    · rw [mem', mem, List.mem_append, List.mem_singleton, or_assoc]

/-- A home which is not the start is one of the stops, at the place where the circuit
    ends. -/
theorem exists_withHome {start : StarSystem} (hstart : start ∈ systems)
    (onChart : ∀ s ∈ systems, s ∈ c.systems) (nodup : systems.Nodup) {home : Option StarSystem}
    (hhome : ∀ h ∈ home, h ∈ c.systems) :
    ∃ (more : List StarSystem) (shape : CircuitShape),
      withHome start.waypoint (systems.map StarSystem.circuitStop)
        (home.map StarSystem.waypoint) = (more.map StarSystem.circuitStop, shape) ∧
      more.Nodup ∧ (∀ u, u ∈ more ↔ u ∈ systems ∨ home = some u) ∧
      ((shape = .cycle ∧ ∀ h ∈ home, h = start) ∨
        ∃ h place, home = some h ∧ more[place]? = some h ∧ shape = .anchored place) := by
  cases home with
  | none =>
    refine ⟨systems, .cycle, rfl, nodup, fun u => ?_, .inl ⟨rfl, fun h hh => nomatch hh⟩⟩
    exact ⟨.inl, fun hu => hu.elim id fun absent => nomatch absent⟩
  | some h =>
    have hhome := hhome h rfl
    rw [Option.map_some, withHome, StarSystem.sameSystem_waypoint]
    split
    · next here =>
      obtain rfl := Chart.eq_of_address hhome (onChart start hstart) (beq_iff_eq.1 here)
      refine ⟨systems, .cycle, rfl, nodup, fun u => ⟨.inl, ?_⟩, .inl ⟨rfl, fun h' hh => ?_⟩⟩
      · rintro (hu | same)
        · exact hu
        · exact Option.some.inj same ▸ hstart
      · exact (Option.some.inj hh).symm
    · -- The home is inserted if it is not there, and hence has a place.
      obtain ⟨more, hmore, nodup, mem⟩ := exists_insertStop onChart nodup hhome
      have moreOnChart : ∀ s ∈ more, s ∈ c.systems := by
        intro s hs
        rcases (mem s).1 hs with hs | rfl
        · exact onChart s hs
        · exact hhome
      dsimp only
      rw [hmore]
      cases found : placeOf? (more.map StarSystem.circuitStop) h.waypoint with
      | none =>
        exact absurd ((mem h).2 (.inr rfl)) ((placeOf?_eq_none_iff moreOnChart hhome).1 found)
      | some place =>
        refine ⟨more, .anchored place, rfl, nodup, fun u => ?_,
          .inr ⟨h, place, rfl, getElem?_of_placeOf? moreOnChart hhome found, rfl⟩⟩
        rw [mem, Option.some.injEq, eq_comm]

end Circuit

end Astrogation
