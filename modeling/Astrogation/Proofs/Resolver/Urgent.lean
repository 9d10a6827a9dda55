import Astrogation.Proofs.Resolver.Selected

/-!
# The mission which expires first

A mission is *reachable* if the atlas knows one of its destinations. Of the missions which are
active, expire and are reachable, the first of those which expire first is selected, and the
answer leads to the first of its nearest destinations; a system counts as adjacent here if its
distance from the start cannot be told (`Resolver.urgent_selected`).
-/

namespace Astrogation

open Floating Calendar

namespace Calendar.Instant

/-- The place of a moment in time: its seconds, and then its nanoseconds. -/
def key (t : Instant) : Int ×ₗ Nat := toLex (t.seconds, t.nanos)

theorem notAfter_iff {t u : Instant} : t.notAfter u = true ↔ t.key ≤ u.key := by
  simp [notAfter, key, Prod.Lex.toLex_le_toLex]

end Calendar.Instant

namespace Resolver

variable {look : String → Option Waypoint} {ctx : Context} {start : Waypoint} {m : Mission}

/-! ## Reachable missions -/

/-- Whether the system of a destination of a mission is known. -/
def isReachable (look : String → Option Waypoint) (m : Mission) : Bool :=
  m.destinations.any fun name => (look name).isSome

/-- A mission which is active and reachable, with the moment at which it expires. -/
def urgent (look : String → Option Waypoint) (m : Mission) : Option (Instant × Mission) :=
  if m.isActive && isReachable look m then m.expiry.map (·, m) else none

/-- The system of a name with its distance from a start, zero if that cannot be told. -/
def nearby (look : String → Option Waypoint) (start : Waypoint) (name : String) :
    Option (Float × Waypoint) :=
  (look name).map fun w => ((start.distance? w).getD 0, w)

/-- The destination of a mission to which a start leads. -/
def goal? (look : String → Option Waypoint) (start : Waypoint) (m : Mission) : Option Waypoint :=
  chooseByDistance start .asZero .nearest (m.destinations.filterMap look)

theorem ranking_asZero : ranking look start .asZero = nearby look start := by
  have known (d : Option Float) : UnknownDistance.asZero.apply d = some (d.getD 0) := by
    cases d <;> rfl
  funext name
  simp only [ranking, nearby, known, Option.map_some]
  cases look name <;> rfl

theorem goal?_eq : goal? look start m =
    (champion? (fun best other => Extreme.nearest.yields best.1 other.1)
      (m.destinations.filterMap (nearby look start))).map (·.2) := by
  rw [goal?, chooseByDistance_filterMap, ranking_asZero]

/-- There is a destination to lead to if and only if the mission is reachable. -/
theorem isSome_goal? : (goal? look start m).isSome = isReachable look m := by
  rw [← Bool.not_inj_iff, Bool.eq_iff_iff]
  simp [goal?_eq, isReachable, champion?_filterMap_eq_none_iff, nearby]

/-- The destination of the first of some missions which is reachable. -/
theorem outcome_firstReachable (hatlas : ctx.atlas.LooksUp look) (missions : List Mission) :
    (firstReachable start ctx missions).outcome = .ok (missions.findSome? (goal? look start)) := by
  induction missions with
  | nil => rfl
  | cons m rest ih =>
    have reply := hatlas.systemsNamed m.destinations
    rw [List.findSome?_cons]
    cases chosen : goal? look start m with
    | none =>
      rw [goal?] at chosen
      simp [firstReachable, Context.systemsNamed, reply, chosen, Except.bind, ih]
    | some found =>
      rw [goal?] at chosen
      simp [firstReachable, Context.systemsNamed, reply, chosen, Except.bind]

/-- Of the missions that are gone through, those which are reachable are the urgent ones. -/
theorem filter_expiring (start : Waypoint) (missions : List Mission) :
    (((Mission.active missions).filterMap fun m =>
      if m.destinations.isEmpty then none else m.expiry.map fun t => (t, m)).filter
        fun a => (goal? look start a.2).isSome) = missions.filterMap (urgent look) := by
  rw [List.filter_filterMap, Mission.active, List.filterMap_filter]
  refine congrArg (List.filterMap · missions) (funext fun m => ?_)
  have somewhere : isReachable look m = true → m.destinations.isEmpty = false := by
    cases h : m.destinations with
    | nil => simp [isReachable, h]
    | cons => simp
  rw [urgent]
  by_cases reachable : isReachable look m = true
  · cases m.expiry <;> simp [somewhere reachable, reachable, isSome_goal?, Option.filter_some]
  · cases m.expiry <;> simp [reachable, isSome_goal?]

/-! ## The first which expires -/

/-- Whether the first mission yields to the second, which expires earlier. -/
def expiresLater (a b : Instant × Mission) : Bool := decide (b.1.key < a.1.key)

theorem comparesBy_expiry (xs : List (Instant × Mission)) :
    ComparesBy (fun a b => a.1.notAfter b.1) (fun a => a.1.key) xs :=
  fun _ _ _ _ => Instant.notAfter_iff

theorem yieldsBy_expiry (xs : List (Instant × Mission)) :
    YieldsBy expiresLater (fun a => a.1.key) xs :=
  fun _ _ _ _ => decide_eq_true_iff

/-- What is gone through comes to the destination of the first of the urgent missions. -/
theorem findSome?_byExpiry (missions : List Mission) :
    (Mission.byExpiry missions).findSome? (goal? look start) =
      (champion? expiresLater (missions.filterMap (urgent look))).bind fun a =>
        goal? look start a.2 := by
  rw [Mission.byExpiry, List.findSome?_map,
    findSome?_ranked (comparesBy_expiry _) (yieldsBy_expiry _), ← filter_expiring start]
  rfl

/-- Where a mission leads is the first of the nearest of its destinations. -/
theorem firstBest_of_goal? {w : Waypoint}
    (numbers : ∀ name ∈ m.destinations, ∀ found, nearby look start name = some found →
      found.1.isNaN = false) (h : goal? look start m = some w) :
    ∃ found, FirstBest (nearby look start) (fun a b => a.1 < b.1) (fun a b => a.1 ≤ b.1) found
      m.destinations ∧ found.2 = w := by
  rw [goal?_eq] at h
  obtain ⟨found, chosen, same⟩ := Option.map_eq_some_iff.1 h
  exact ⟨found, firstBest_of_extreme numbers chosen, same⟩

/-- An urgent mission is active and expires, and it leads somewhere. -/
theorem urgent_eq_some_iff {a : Instant × Mission} : urgent look m = some a ↔
    a.2 = m ∧ m.isActive = true ∧ m.expiry = some a.1 ∧ isReachable look m = true := by
  obtain ⟨t, m'⟩ := a
  rw [urgent, Option.ite_none_right_eq_some, Bool.and_eq_true, Option.map_eq_some_iff]
  constructor
  · rintro ⟨⟨active, reachable⟩, t', expires, same⟩
    cases same
    exact ⟨rfl, active, expires, reachable⟩
  · rintro ⟨rfl, active, expires, reachable⟩
    exact ⟨⟨active, reachable⟩, t, expires, rfl⟩

/-- A mission which is active, expires and is reachable is selected, the first of those which
    expire first. The answer leads to a destination of it, the first of the nearest. -/
theorem urgent_selected (hatlas : ctx.atlas.LooksUp look)
    (numbers : ∀ name ∈ Mission.goals ctx.missions, ∀ found,
      nearby look start name = some found → found.1.isNaN = false) (query : Query) :
    (expiring.resolve query start ctx).Selects (urgent look)
      (fun a b => ¬b.1.notAfter a.1) (fun a b => a.1.notAfter b.1) ctx.missions
      fun chosen answer => ∃ found,
        FirstBest (nearby look start) (fun a b => a.1 < b.1) (fun a b => a.1 ≤ b.1) found
          chosen.2.destinations ∧
        answer = .ofMissions .expiring start found.2
          (Mission.idsBoundFor ctx.missions found.2.systemName) := by
  have houtcome : (expiring.resolve query start ctx).outcome = .ok
      (((Mission.byExpiry ctx.missions).findSome? (goal? look start)).map fun found =>
        .ofMissions .expiring start found
          (Mission.idsBoundFor ctx.missions found.systemName)) := by
    rw [expiring, Consultation.outcome_bind, outcome_firstReachable hatlas]
    rfl
  rw [findSome?_byExpiry] at houtcome
  cases chosen : champion? expiresLater (ctx.missions.filterMap (urgent look)) with
  | none =>
    rw [chosen] at houtcome
    exact .nothing (champion?_filterMap_eq_none_iff.1 chosen) houtcome
  | some a =>
    -- The mission which is selected leads somewhere, as it is reachable.
    obtain ⟨m, hm, ha⟩ := List.mem_filterMap.1 (mem_of_champion? chosen)
    obtain ⟨rfl, active, -, reachable⟩ := urgent_eq_some_iff.1 ha
    obtain ⟨w, leads⟩ := Option.isSome_iff_exists.1 (isSome_goal?.trans reachable)
    obtain ⟨found, first, rfl⟩ := firstBest_of_goal? (fun name hname =>
      numbers name (List.mem_flatMap.2 ⟨a.2, List.mem_filter.2 ⟨hm, active⟩, hname⟩)) leads
    rw [chosen, Option.bind_some, leads] at houtcome
    refine .best a _ ?_ houtcome ⟨found, first, rfl⟩
    refine (firstBest_of_champion? (yieldsBy_expiry _) chosen).imp (fun _ _ b _ earlier => ?_)
      fun _ _ b _ noLater => ?_
    · rw [Instant.notAfter_iff]
      exact earlier.not_ge
    · exact Instant.notAfter_iff.2 noLater

/-- Three parcels, the last of which expires first. It is for a system that no chart has. -/
def parcels : List Mission :=
  [{ id := 1, origin := "Sol", destinations := ["Sol"], expiry := some ⟨300, 0⟩ },
   { id := 2, origin := "Sol", destinations := ["Colonia", "Jackson"], expiry := some ⟨200, 0⟩ },
   { id := 3, origin := "Sol", destinations := ["Raxxla"], expiry := some ⟨100, 0⟩ }]

/-- The parcel for Colonia or Jackson is urgent, and Jackson is the nearer one. -/
theorem urgent_jackson :
    let look := Chart.frontier.look
    ∃ chosen found answer,
      FirstBest (urgent look) (fun a b => ¬b.1.notAfter a.1) (fun a b => a.1.notAfter b.1) chosen
        parcels ∧
      FirstBest (nearby look Chart.sol.waypoint) (fun a b => a.1 < b.1) (fun a b => a.1 ≤ b.1)
        found chosen.2.destinations ∧
      (expiring.resolve { type := .expiring } Chart.sol.waypoint
        ⟨Chart.frontier.atlas, TravellerState.traveller {}, parcels, {}⟩).outcome =
          .ok (some answer) ∧
      answer.system = some "Jackson" ∧ answer.missionIds = [2] := by
  intro look
  have selected := @urgent_selected look
    ⟨Chart.frontier.atlas, TravellerState.traveller {}, parcels, {}⟩ Chart.sol.waypoint
    Chart.frontier.looksUp (numbers_of_all (by decide +kernel)) { type := .expiring }
  obtain ⟨chosen, answer, first, answered, ⟨found, nearest, -⟩, passes⟩ := selected.exists_of_any
    (p := fun answer => answer.system == some "Jackson" && answer.missionIds == [2])
    (by decide +kernel)
  obtain ⟨system, ids⟩ := Bool.and_eq_true_iff.1 passes
  exact ⟨chosen, found, answer, first, nearest, answered, beq_iff_eq.1 system, beq_iff_eq.1 ids⟩

end Resolver

end Astrogation
