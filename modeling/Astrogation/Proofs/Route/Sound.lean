import Astrogation.Proofs.Route.Distinct
import Astrogation.Proofs.Route.Stamped
import Astrogation.Resolver.Basic

/-!
# Sound routes

Of a *sound* route some stops are behind the traveller and visited, the others are
ahead of them and are not; no two are at the same address; and all are stamped with
their distances. A route is *fresh* if only its first stop is behind.

The routes to a destination or along a plot are fresh (`fresh_toDestination`,
`fresh_alongPlot`), and visiting the stops through one of them keeps a route sound
(`Sound.markVisitedThrough`).
-/

namespace Astrogation.Route

variable {α : Type} [Scalar α]

/-- A route which is being travelled. -/
structure Sound (r : Route α) : Prop where
  progress : ∃ behind ahead, r.waypoints = behind ++ ahead ∧ behind ≠ [] ∧
    (∀ w ∈ behind, w.visited = true) ∧ ∀ w ∈ ahead, w.visited = false
  apart : (Waypoint.addresses r.waypoints).Nodup
  stamped : r.stamped = r

/-- A route which has just begun. -/
structure Fresh (r : Route α) : Prop where
  begun : ∃ w ws, r.waypoints = w :: ws ∧ w.visited = true ∧ ∀ v ∈ ws, v.visited = false
  apart : (Waypoint.addresses r.waypoints).Nodup
  stamped : r.stamped = r

variable {r s : Route α} {start destination w : Waypoint α} {ws vs plot : List (Waypoint α)}
  {address : Address}

theorem Fresh.sound (h : r.Fresh) : r.Sound where
  progress := by
    obtain ⟨w, ws, hr, hw, hws⟩ := h.begun
    refine ⟨[w], ws, hr, List.cons_ne_nil w [], fun v hv => ?_, hws⟩
    obtain rfl := List.mem_singleton.1 hv
    exact hw
  apart := h.apart
  stamped := h.stamped

theorem Sound.nonempty (h : r.Sound) : r.waypoints ≠ [] := by
  obtain ⟨behind, ahead, hr, hbehind, -, -⟩ := h.progress
  rw [hr]
  exact List.append_ne_nil_of_left_ne_nil hbehind ahead

/-! ## Fresh routes -/

theorem addresses_stamped (r : Route α) :
    Waypoint.addresses r.stamped.waypoints = Waypoint.addresses r.waypoints := by
  have same := r.map_stamped (f := fun w => w.address) fun _ _ _ => rfl
  have total (ws : List (Waypoint α)) :
      Waypoint.addresses ws = (ws.map fun w => w.address).filterMap id := by
    rw [List.filterMap_map]
    rfl
  rw [total, same, ← total]

/-- Stamping a route of which the first stop is visited, and no other, makes it fresh. -/
theorem fresh_stamped (hr : r.waypoints = w :: ws) (hw : w.visited = true)
    (hws : ∀ v ∈ ws, v.visited = false) (apart : (Waypoint.addresses r.waypoints).Nodup) :
    r.stamped.Fresh where
  begun := by
    -- Stamping leaves the flags alone, so they can be read off the stops before it.
    have flags := r.map_stamped (f := fun w => w.visited) fun _ _ _ => rfl
    rw [hr, List.map_cons, hw] at flags
    obtain ⟨w', ws', hr', hw', hws'⟩ := List.map_eq_cons_iff.1 flags
    refine ⟨w', ws', hr', hw', fun v hv => ?_⟩
    have flag : v.visited ∈ ws'.map fun w => w.visited := List.mem_map_of_mem hv
    rw [hws'] at flag
    obtain ⟨u, hu, same⟩ := List.mem_map.1 flag
    exact same ▸ hws u hu
  apart := by rwa [addresses_stamped]
  stamped := r.stamped_stamped

omit [Scalar α] in
/-- Stops in systems of their own are at different addresses. -/
theorem address_ne_of_not_sameSystem (h : start.sameSystem destination = false) {a : Address}
    (ha : start.address = some a) : destination.address ≠ some a := by
  intro ha'
  rw [Waypoint.sameSystem, ha, ha'] at h
  exact absurd h (by simp)

theorem fresh_toDestination (h : destination.visited = false) :
    (toDestination start destination).Fresh := by
  rw [toDestination]
  refine fresh_stamped (w := start.intoVisited) rfl start.visited_intoVisited (fun v hv => ?_) ?_
  · split at hv
    · exact absurd hv List.not_mem_nil
    · obtain rfl := List.mem_singleton.1 hv
      exact h
  · refine Waypoint.nodup_addresses_cons (fun a ha v hv => ?_) ?_
    · split at hv
      · exact absurd hv List.not_mem_nil
      · next other =>
        obtain rfl := List.mem_singleton.1 hv
        exact address_ne_of_not_sameSystem (eq_false_of_ne_true other) ha
    · split
      · exact List.nodup_nil
      · exact Waypoint.nodup_addresses_cons (fun _ _ _ hv => absurd hv List.not_mem_nil)
          List.nodup_nil

/-- A route is fresh once its stops are made distinct, if no stop but the first is
    visited. -/
theorem fresh_distinct_stamped (hr : r.waypoints = w :: ws) (hw : w.visited = true)
    (hws : ∀ v ∈ ws, v.visited = false) : r.distinct.stamped.Fresh := by
  obtain ⟨rest, kept, hrest⟩ := exists_distinctFrom_cons w ws
  have hdistinct : r.distinct.waypoints = w :: rest := by
    rw [distinct, hr]
    exact kept
  exact fresh_stamped hdistinct hw (fun v hv => hws v (hrest v hv).1) (nodup_addresses_distinct r)

theorem fresh_alongPlot (h : ∀ w ∈ plot.dropWhile (·.sameSystem start), w.visited = false) :
    (alongPlot start plot).Fresh :=
  fresh_distinct_stamped rfl start.visited_intoVisited h

/-! ## Along a plot which begins with the start -/

omit [Scalar α] in
/-- Of stops at different addresses only the first is in its system. -/
theorem dropWhile_sameSystem (known : ∀ w ∈ start :: ws, w.address.isSome)
    (apart : (Waypoint.addresses (start :: ws)).Nodup) :
    (start :: ws).dropWhile (·.sameSystem start) = ws := by
  rw [List.dropWhile_cons, if_pos start.sameSystem_refl]
  cases ws with
  | nil => rfl
  | cons v vs =>
    obtain ⟨a, ha⟩ := Option.isSome_iff_exists.1 (known start List.mem_cons_self)
    obtain ⟨b, hb⟩ := Option.isSome_iff_exists.1 <|
      known v (List.mem_cons_of_mem start List.mem_cons_self)
    rw [Waypoint.addresses_cons_of_some ha, Waypoint.addresses_cons_of_some hb,
      List.nodup_cons] at apart
    refine List.dropWhile_cons_of_neg fun same => ?_
    rw [Waypoint.sameSystem, hb, ha] at same
    exact apart.1 (beq_iff_eq.1 same ▸ List.mem_cons_self)

/-- The route along a plot which begins with the start and has no two stops at the same
    address has exactly the stops of the plot. -/
theorem map_bare_alongPlot (known : ∀ w ∈ start :: ws, w.address.isSome)
    (apart : (Waypoint.addresses (start :: ws)).Nodup) :
    (alongPlot start (start :: ws)).waypoints.map Waypoint.bare =
      (start :: ws).map Waypoint.bare := by
  have known' : ∀ w ∈ start.intoVisited :: ws, w.address.isSome := by
    intro w hw
    rcases List.mem_cons.1 hw with rfl | hw
    · exact known start List.mem_cons_self
    · exact known w (List.mem_cons_of_mem start hw)
  have apart' : (Waypoint.addresses (start.intoVisited :: ws)).Nodup := apart
  rw [alongPlot, dropWhile_sameSystem known apart, map_stamped _ fun _ _ _ => rfl, distinct,
    distinctFrom_eq_self known' apart', List.map_cons, List.map_cons, start.bare_intoVisited]

/-! ## Visiting stops -/

omit [Scalar α] in
/-- The stops through the one at an address are visited, and the others stay. -/
theorem visitThrough?_eq_append (h : visitThrough? address ws = some vs) :
    ∃ behind ahead, ws = behind ++ ahead ∧ behind ≠ [] ∧
      vs = behind.map Waypoint.intoVisited ++ ahead := by
  induction ws generalizing vs with
  | nil => cases h
  | cons w ws ih =>
    rw [visitThrough?] at h
    split at h
    · cases h
      exact ⟨[w], ws, rfl, List.cons_ne_nil w [], rfl⟩
    · obtain ⟨vs', h', rfl⟩ := Option.map_eq_some_iff.1 h
      obtain ⟨behind, ahead, rfl, -, rfl⟩ := ih h'
      exact ⟨w :: behind, ahead, rfl, List.cons_ne_nil w behind, rfl⟩

omit [Scalar α] in
theorem sameButVisited_map_intoVisited_append (behind ahead : List (Waypoint α)) :
    List.Forall₂ Waypoint.SameButVisited (behind ++ ahead)
      (behind.map Waypoint.intoVisited ++ ahead) := by
  induction behind with
  | nil => exact List.forall₂_same.2 fun w _ => .refl w
  | cons w behind ih => exact .cons w.sameButVisited_intoVisited ih

omit [Scalar α] in
theorem addresses_map_intoVisited_append (behind ahead : List (Waypoint α)) :
    Waypoint.addresses (behind.map Waypoint.intoVisited ++ ahead) =
      Waypoint.addresses (behind ++ ahead) := by
  rw [Waypoint.addresses, Waypoint.addresses, List.filterMap_append, List.filterMap_append,
    List.filterMap_map]
  rfl

omit [Scalar α] in
/-- If the stops behind are visited, those ahead are not, and now the first of them are
    visited, then still the stops behind are visited and those ahead are not. -/
theorem progress_map_intoVisited_append {behind ahead through rest : List (Waypoint α)}
    (split : behind ++ ahead = through ++ rest) (hbehind : ∀ w ∈ behind, w.visited = true)
    (hahead : ∀ w ∈ ahead, w.visited = false) (hthrough : through ≠ []) :
    ∃ behind' ahead', through.map Waypoint.intoVisited ++ rest = behind' ++ ahead' ∧
      behind' ≠ [] ∧ (∀ w ∈ behind', w.visited = true) ∧ ∀ w ∈ ahead', w.visited = false := by
  have visited : ∀ w ∈ through.map Waypoint.intoVisited, w.visited = true := by
    intro w hw
    obtain ⟨v, -, rfl⟩ := List.mem_map.1 hw
    exact v.visited_intoVisited
  have some_behind : through.map Waypoint.intoVisited ≠ [] := fun none =>
    hthrough (List.map_eq_nil_iff.1 none)
  rcases List.append_eq_append_iff.1 split with ⟨between, rfl, rfl⟩ | ⟨between, rfl, rfl⟩
  · exact ⟨_, rest, rfl, some_behind, visited, fun w hw =>
      hahead w (List.mem_append_right between hw)⟩
  · -- The stops that are visited again have all been behind.
    refine ⟨through.map Waypoint.intoVisited ++ between, ahead, (List.append_assoc ..).symm,
      List.append_ne_nil_of_left_ne_nil some_behind between, fun w hw => ?_, hahead⟩
    rcases List.mem_append.1 hw with hw | hw
    · exact visited w hw
    · exact hbehind w (List.mem_append_right through hw)

theorem Sound.markVisitedThrough (h : r.Sound) (marked : r.markVisitedThrough? address = some s) :
    s.Sound := by
  obtain ⟨vs, hvs, rfl⟩ := Option.map_eq_some_iff.1 marked
  obtain ⟨through, rest, split, some_through, rfl⟩ := visitThrough?_eq_append hvs
  obtain ⟨behind, ahead, hr, -, hbehind, hahead⟩ := h.progress
  exact
    { progress :=
        progress_map_intoVisited_append (hr.symm.trans split) hbehind hahead some_through
      apart := by
        rw [addresses_map_intoVisited_append, ← split]
        exact h.apart
      stamped := r.stamped_of_sameButVisited h.stamped
        (split ▸ sameButVisited_map_intoVisited_append through rest) }

end Astrogation.Route
