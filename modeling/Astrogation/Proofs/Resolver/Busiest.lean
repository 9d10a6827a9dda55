import Astrogation.Proofs.Resolver.Selected

/-!
# The destination of the most missions

A destination is *busiest* if no other destination of the active missions is given by more of
them (`Mission.IsBusiest`). Of the busiest destinations which are on the chart the nearest is
selected (`Resolver.busiest_selected`); here the missions are counted by the names they give,
and as long as these are plain the count is that of the missions which lead to the system.

But the names are counted before they are looked up. If the busiest destinations are not on
the chart, no other destination takes their place (`Resolver.busiest_unknown`).
-/

namespace Astrogation

open Floating

namespace Mission

variable {missions : List Mission} {name other : String}

/-- How many active missions have a system among their destinations. -/
def traffic (missions : List Mission) (name : String) : Nat := (idsBoundFor missions name).length

/-- A destination to which no fewer missions lead than to any other. -/
def IsBusiest (missions : List Mission) (name : String) : Prop :=
  ∀ other ∈ goals missions, traffic missions other ≤ traffic missions name

instance : DecidablePred (IsBusiest missions) := fun name =>
  inferInstanceAs (Decidable (∀ other ∈ goals missions, _ ≤ traffic missions name))

theorem idsBoundFor_congr (h : Text.sameIgnoringCase name other = true) :
    idsBoundFor missions name = idsBoundFor missions other := by
  have same (m : Mission) : m.hasDestination name = m.hasDestination other := by
    refine congrArg m.destinations.any (funext fun own => Bool.eq_iff_iff.2 ?_)
    rw [Text.sameIgnoringCase_iff, Text.sameIgnoringCase_iff, Text.sameIgnoringCase_iff.1 h]
  exact congrArg (idsWhere (active missions)) (funext same)

/-- The maximum of some numbers, and zero, is reached by those that none of them exceeds. -/
theorem eq_foldl_max_iff {xs : List Nat} {x : Nat} (hx : x ∈ xs) :
    x = xs.foldl max 0 ↔ ∀ y ∈ xs, y ≤ x := by
  have most : (0 :: xs).max? = some (xs.foldl max 0) := List.max?_cons'
  obtain ⟨reached, bound⟩ := List.max?_eq_some_iff.1 most
  constructor
  · intro h y hy
    exact h ▸ bound y (List.mem_cons_of_mem 0 hy)
  · intro h
    refine Nat.le_antisymm (bound x (List.mem_cons_of_mem 0 hx)) ?_
    rcases List.mem_cons.1 reached with zero | reached
    · rw [zero]
      exact Nat.zero_le x
    · exact h _ reached

/-- The names that are chosen from are those of busiest destinations. -/
theorem busiestNames_eq (missions : List Mission) :
    busiestNames missions = (destinationNames missions).filter (IsBusiest missions ·) := by
  obtain ⟨known, covered⟩ := distinctNames_spec (goals missions)
  refine List.filter_congr fun name hname => Bool.eq_iff_iff.2 ?_
  have hmem := List.mem_map_of_mem (f := traffic missions) hname
  rw [decide_eq_true_iff, beq_iff_eq]
  refine (eq_foldl_max_iff hmem).trans ?_
  rw [List.forall_mem_map]
  constructor
  · intro h other hother
    obtain ⟨kept, hkept, same⟩ := covered other hother
    have le := h kept hkept
    rwa [traffic, idsBoundFor_congr same] at le
  · exact fun h kept hkept => h kept (known kept hkept)

end Mission

/-- By the names they give, as many missions have a destination as lead to its system, if the
    names are plain. -/
theorem Chart.traffic_eq_length_idsFinding {c : Chart} {missions : List Mission} {name : String}
    {t : StarSystem} (plain : ∀ name ∈ Mission.goals missions, StarSystem.IsPlain name)
    (hname : name ∈ Mission.goals missions) (found : c.find? name = some t) :
    Mission.traffic missions name =
      (c.idsFinding Mission.destinations (Mission.active missions) t).length := by
  obtain ⟨ht, entered⟩ := find?_eq_some_iff.1 found
  refine congrArg (fun ms : List Mission => (ms.map (·.id)).length)
    (List.filter_congr fun m hm => Bool.eq_iff_iff.2 ?_)
  rw [Mission.hasDestination, List.any_eq_true, List.any_eq_true]
  refine exists_congr fun own => and_congr_right fun hown => ?_
  have goal : own ∈ Mission.goals missions := List.mem_flatMap.2 ⟨m, hm, hown⟩
  rw [finds_iff ht, find?_eq_some_iff, and_iff_right ht, entered,
    StarSystem.lookupKey_of_isPlain (plain name hname),
    StarSystem.lookupKey_of_isPlain (plain own goal), ← Text.lowerAscii_eq_iff]
  exact eq_comm

namespace Resolver

variable {c : Chart} {missions : List Mission} {start : StarSystem}

/-- On a chart it is known where every system is. -/
theorem ranking_chart (c : Chart) (start : StarSystem) (policy : UnknownDistance) :
    ranking c.look start.waypoint policy = located c.look start.position := by
  funext name
  rw [ranking, located, Chart.look]
  cases c.find? name <;> rfl

/-- The system of a busiest destination on a chart with its distance from another. -/
def busiest (c : Chart) (start : StarSystem) (missions : List Mission) (name : String) :
    Option (Float × Waypoint) :=
  if Mission.IsBusiest missions name then located c.look start.position name else none

theorem busiest_congr {a b : String} (same : Text.sameIgnoringCase a b = true) :
    busiest c start missions a = busiest c start missions b := by
  have found : located c.look start.position a = located c.look start.position b := by
    rw [located, located, c.look_congr same]
  have iff : Mission.IsBusiest missions a ↔ Mission.IsBusiest missions b := by
    rw [Mission.IsBusiest, Mission.IsBusiest, Mission.traffic, Mission.traffic,
      Mission.idsBoundFor_congr same]
  exact if_congr iff found rfl

/-- Of the busiest destinations which are on the chart, the first of the nearest is selected. -/
theorem selects_most (c : Chart) (start : StarSystem) (traveller : Traveller)
    (missions : List Mission) (config : Config) (query : Query) :
    (most.resolve query start.waypoint ⟨c.atlas, traveller, missions, config⟩).Selects
      (busiest c start missions) (fun a b => ¬b.1 ≤ a.1) (fun a b => ¬b.1 < a.1)
      (Mission.goals missions) fun found answer => answer = .ofMissions .most start.waypoint
        found.2 (Mission.idsBoundFor missions found.2.systemName) := by
  refine .of_distinctNames (.of_champion? ?_ (fun _ => firstBest_of_nearest_champion?)
    fun _ => rfl) (fun _ _ => busiest_congr) (fun _ _ found _ => double_lt_irrefl found.1)
    fun _ _ farther nearer => farther (double_le_of_lt nearer)
  refine (outcome_choice c.looksUp .asZero .nearest _ _).trans ?_
  rw [ranking_chart, Mission.busiestNames_eq, List.filterMap_filter]
  simp only [Extreme.yields_nearest, decide_eq_true_eq]
  rfl

/-- Of the busiest destinations which are on the chart, the first of the nearest is selected.
    If the names are plain, missions lead to a destination on the chart as often as they give
    its name, so to no other do more of them lead. -/
theorem busiest_selected (plain : ∀ name ∈ Mission.goals missions, StarSystem.IsPlain name)
    (c : Chart) (start : StarSystem) (traveller : Traveller) (config : Config) (query : Query) :
    (most.resolve query start.waypoint ⟨c.atlas, traveller, missions, config⟩).Selects
      (busiest c start missions) (fun a b => ¬b.1 ≤ a.1) (fun a b => ¬b.1 < a.1)
      (Mission.goals missions) (fun found answer => answer = .ofMissions .most start.waypoint
        found.2 (Mission.idsBoundFor missions found.2.systemName)) ∧
    ∀ name ∈ Mission.goals missions, ∀ t, c.find? name = some t →
      Mission.traffic missions name =
        (c.idsFinding Mission.destinations (Mission.active missions) t).length :=
  ⟨selects_most c start traveller missions config query, fun _ hname _ found =>
    Chart.traffic_eq_length_idsFinding plain hname found⟩

/-- A delivery to a system. -/
def cargo (id : MissionId) (destination : String) : Mission :=
  { id, origin := "Sol", destinations := [destination] }

/-- Two deliveries lead to Colonia and one to Jackson, so Colonia is selected although it is
    farther away. -/
theorem busiest_colonia :
    let missions := [cargo 1 "Jackson", cargo 2 "Colonia", cargo 3 "COLONIA"]
    (∀ name ∈ Mission.goals missions, StarSystem.IsPlain name) ∧
      ∃ found answer, FirstBest (busiest Chart.frontier Chart.sol missions)
          (fun a b => ¬b.1 ≤ a.1) (fun a b => ¬b.1 < a.1) found ["Jackson", "Colonia", "COLONIA"] ∧
        (most.resolve { type := .most } Chart.sol.waypoint
          ⟨Chart.frontier.atlas, TravellerState.traveller {}, missions, {}⟩).outcome =
            .ok (some answer) ∧
        answer.system = some "Colonia" ∧ answer.missionIds = [2, 3] ∧
        (Chart.frontier.idsFinding Mission.destinations (Mission.active missions)
          Chart.colonia).length = 2 := by
  intro missions
  have plain : ∀ name ∈ Mission.goals missions, StarSystem.IsPlain name := by decide
  obtain ⟨selected, traffic⟩ := busiest_selected plain Chart.frontier Chart.sol
    (TravellerState.traveller {}) {} { type := .most }
  obtain ⟨found, answer, first, answered, -, passes⟩ := selected.exists_of_any
    (p := fun answer => answer.system == some "Colonia" && answer.missionIds == [2, 3])
    (by decide +kernel)
  obtain ⟨system, ids⟩ := Bool.and_eq_true_iff.1 passes
  exact ⟨plain, found, answer, first, answered, beq_iff_eq.1 system, beq_iff_eq.1 ids,
    (traffic "Colonia" (by decide) Chart.colonia rfl).symm⟩

/-- Two deliveries lead to a system that is not on the chart, and there is no answer, although
    another leads to Colonia. -/
theorem busiest_unknown :
    let missions := [cargo 1 "Raxxla", cargo 2 "Raxxla", cargo 3 "Colonia"]
    (∀ name ∈ Mission.goals missions, StarSystem.IsPlain name) ∧
      "Colonia" ∈ Mission.goals missions ∧
      Chart.frontier.find? "Colonia" = some Chart.colonia ∧
      (most.resolve { type := .most } Chart.sol.waypoint
        ⟨Chart.frontier.atlas, TravellerState.traveller {}, missions, {}⟩).outcome = .ok none :=
  ⟨by decide, by decide, rfl, rfl⟩

end Resolver

end Astrogation
