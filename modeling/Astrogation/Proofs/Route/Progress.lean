import Astrogation.Proofs.Route.Stamped
import Mathlib.Order.MinMax

/-!
# Progress along a route

To mark the system of an address as visited is to visit all stops up to the first one there
(`markVisitedThrough?_eq`). Where that is does not depend on which stops have been visited, so of
several systems marked one after the other the furthest decides, in whatever order they come
and however often (`exists_furthest`), and no stop is ever made unvisited.
-/

namespace Astrogation

variable {α β : Type}

namespace Route

/-- The place of the first stop at an address. -/
def firstAt? (r : Route α) (address : Address) : Option Nat :=
  r.waypoints.findIdx? (·.hasAddress address)

/-- The route with all stops up to the one at a place visited. -/
def visitedThrough (r : Route α) (place : Nat) : Route α :=
  { r with waypoints := r.waypoints.mapIdx fun i w => if i ≤ place then w.intoVisited else w }

/-- The route after systems have been marked as visited one after the other. -/
def markAll? (r : Route α) (addresses : List Address) : Option (Route α) :=
  addresses.foldlM markVisitedThrough? r

/-- The furthest place at which there is the first stop at one of some addresses. -/
structure Furthest (r : Route α) (addresses : List Address) (place : Nat) : Prop where
  reached : ∃ a ∈ addresses, r.firstAt? a = some place
  bound : ∀ a ∈ addresses, ∀ m, r.firstAt? a = some m → m ≤ place

variable {r : Route α} {a : Address} {as bs : List Address} {m n : Nat}

/-! ## Visiting stops -/

theorem visitThrough?_eq (a : Address) (ws : List (Waypoint α)) :
    visitThrough? a ws = (ws.findIdx? (·.hasAddress a)).map fun place =>
      ws.mapIdx fun i w => if i ≤ place then w.intoVisited else w := by
  induction ws with
  | nil => rfl
  | cons w ws ih =>
    rw [visitThrough?, List.findIdx?_cons]
    split
    · -- The stops after the first one stay as they are.
      have rest : ws.mapIdx (fun _ w => w) = ws := List.ext_getElem (by simp) (by simp)
      simp [rest]
    · rw [ih, Option.map_map, Option.map_map]
      simp [Function.comp_def]

/-- To mark a system as visited is to visit the stops up to the first one there. -/
theorem markVisitedThrough?_eq (r : Route α) (a : Address) :
    r.markVisitedThrough? a = (r.firstAt? a).map r.visitedThrough := by
  rw [markVisitedThrough?, visitThrough?_eq, Option.map_map]
  rfl

/-- What does not depend on whether a stop is visited stays as it is. -/
theorem map_visitedThrough {f : Waypoint α → β} (hf : ∀ w, f w.intoVisited = f w) (r : Route α)
    (n : Nat) : (r.visitedThrough n).waypoints.map f = r.waypoints.map f := by
  refine List.ext_getElem (by simp [visitedThrough]) fun i _ _ => ?_
  simp only [visitedThrough, List.getElem_map, List.getElem_mapIdx]
  split
  · exact hf _
  · rfl

/-- So do the places of the systems. -/
@[simp]
theorem firstAt?_visitedThrough (r : Route α) (n : Nat) (a : Address) :
    (r.visitedThrough n).firstAt? a = r.firstAt? a := by
  have addresses (s : Route α) :
      s.firstAt? a = (s.waypoints.map (·.address)).findIdx? (· == some a) := by
    rw [List.findIdx?_map]
    rfl
  rw [addresses, addresses, r.map_visitedThrough Waypoint.address_intoVisited]

/-- Of two places that are visited through, the further one decides. -/
@[simp]
theorem visitedThrough_visitedThrough (r : Route α) (m n : Nat) :
    (r.visitedThrough m).visitedThrough n = r.visitedThrough (max m n) := by
  simp only [visitedThrough, List.mapIdx_mapIdx, mk.injEq, and_true]
  refine congrArg (List.mapIdx · r.waypoints) (funext₂ fun i w => ?_)
  simp only [Function.comp_apply, le_max_iff]
  by_cases near : i ≤ m <;> by_cases near' : i ≤ n <;> simp [near, near', Waypoint.intoVisited]

theorem contains_iff_exists_firstAt? : r.contains a = true ↔ ∃ n, r.firstAt? a = some n := by
  rw [contains, firstAt?, ← Option.isSome_iff_exists, List.findIdx?_isSome]

@[simp]
theorem contains_visitedThrough (r : Route α) (n : Nat) (a : Address) :
    (r.visitedThrough n).contains a = r.contains a := by
  rw [Bool.eq_iff_iff, contains_iff_exists_firstAt?, contains_iff_exists_firstAt?,
    firstAt?_visitedThrough]

/-! ## Systems one after the other -/

theorem markAll?_cons (r : Route α) (a : Address) (as : List Address) :
    r.markAll? (a :: as) = (r.markVisitedThrough? a).bind (·.markAll? as) :=
  List.foldlM_cons

theorem markAll?_append (r : Route α) (as bs : List Address) :
    r.markAll? (as ++ bs) = (r.markAll? as).bind (·.markAll? bs) :=
  List.foldlM_append

/-- There is only one furthest place. -/
theorem Furthest.unique (h : r.Furthest as m) (h' : r.Furthest as n) : m = n := by
  obtain ⟨a, ha, first⟩ := h.reached
  obtain ⟨b, hb, first'⟩ := h'.reached
  exact Nat.le_antisymm (h'.bound a ha m first) (h.bound b hb n first')

/-- It depends on which systems there are, in whatever order and however often. -/
theorem Furthest.congr (h : r.Furthest as n) (same : ∀ a, a ∈ bs ↔ a ∈ as) :
    r.Furthest bs n := by
  obtain ⟨a, ha, first⟩ := h.reached
  exact ⟨⟨a, (same a).2 ha, first⟩, fun b hb => h.bound b ((same b).1 hb)⟩

theorem furthest_visitedThrough :
    (r.visitedThrough m).Furthest as n ↔ r.Furthest as n := by
  constructor <;> rintro ⟨reached, bound⟩ <;> exact ⟨by simpa using reached, by simpa using bound⟩

theorem furthest_singleton (first : r.firstAt? a = some m) : r.Furthest [a] m :=
  ⟨⟨a, by simp, first⟩, by simp [first]⟩

theorem Furthest.cons (first : r.firstAt? a = some m) (h : r.Furthest as n) :
    r.Furthest (a :: as) (max m n) := by
  refine ⟨?_, ?_⟩
  · obtain ⟨b, hb, first'⟩ := h.reached
    rcases le_total m n with le | le
    · exact ⟨b, List.mem_cons_of_mem a hb, by rw [first', max_eq_right le]⟩
    · exact ⟨a, List.mem_cons_self, by rw [first, max_eq_left le]⟩
  · rw [List.forall_mem_cons]
    refine ⟨fun k hk => ?_, fun b hb k hk => ?_⟩
    · exact le_max_of_le_left (Option.some.inj (hk.symm.trans first)).le
    · exact le_max_of_le_right (h.bound b hb k hk)

/-- If systems on the route are marked as visited one after the other, the stops through the
    furthest of them are. -/
theorem exists_furthest (ne : as ≠ []) (on : ∀ a ∈ as, r.contains a = true) :
    ∃ n, r.Furthest as n ∧ r.markAll? as = some (r.visitedThrough n) := by
  induction as generalizing r with
  | nil => exact absurd rfl ne
  | cons a as ih =>
    rw [List.forall_mem_cons] at on
    obtain ⟨m, first⟩ := contains_iff_exists_firstAt?.1 on.1
    rw [markAll?_cons, markVisitedThrough?_eq, first]
    rcases as with _ | ⟨b, as⟩
    · exact ⟨m, furthest_singleton first, rfl⟩
    · -- The others are on the route where they were before.
      have on' : ∀ c ∈ b :: as, (r.visitedThrough m).contains c = true := by simpa using on.2
      obtain ⟨n, furthest, marked⟩ := ih (List.cons_ne_nil b as) on'
      rw [furthest_visitedThrough] at furthest
      rw [visitedThrough_visitedThrough] at marked
      exact ⟨max m n, furthest.cons first, marked⟩

end Route

end Astrogation
