import Astrogation.Route.Continuity

/-!
# Distinct stops

A stop *repeats* another if both are in the same system and both or neither have
an address. When `Route.distinct` comes to a stop, it drops it if it has been *seen*
(`distinctFrom_cons_of_seen`); otherwise it keeps it, and has seen from then on what
repeats it (`exists_distinctFrom_cons_of_not_seen`). So nothing that is kept repeats
anything else (`pairwise_distinctFrom`): no two of the stops that are kept have the
same address (`nodup_addresses_distinct`), the first stop is always kept, and no
other that repeats it is (`exists_distinctFrom_cons`). Stops which all have addresses
are only dropped for their addresses (`distinctFrom_eq_filter`).
-/

namespace Astrogation

variable {α : Type}

/-! ## Addresses -/

/-- The addresses of stops in order, those without one skipped. -/
def Waypoint.addresses (ws : List (Waypoint α)) : List Address := ws.filterMap (·.address)

namespace Waypoint

theorem addresses_cons_of_some {w : Waypoint α} {a : Address} (h : w.address = some a)
    (ws : List (Waypoint α)) : addresses (w :: ws) = a :: addresses ws :=
  List.filterMap_cons_some h

theorem addresses_cons_of_none {w : Waypoint α} (h : w.address = none) (ws : List (Waypoint α)) :
    addresses (w :: ws) = addresses ws :=
  List.filterMap_cons_none h

theorem mem_addresses {ws : List (Waypoint α)} {a : Address} :
    a ∈ addresses ws ↔ ∃ w ∈ ws, w.address = some a :=
  List.mem_filterMap

/-- A stop may come in front of others if its address is at none of them. -/
theorem nodup_addresses_cons {w : Waypoint α} {ws : List (Waypoint α)}
    (h : ∀ a, w.address = some a → ∀ v ∈ ws, v.address ≠ some a) (apart : (addresses ws).Nodup) :
    (addresses (w :: ws)).Nodup := by
  cases ha : w.address with
  | none => rwa [addresses_cons_of_none ha]
  | some a =>
    rw [addresses_cons_of_some ha, List.nodup_cons]
    refine ⟨fun again => ?_, apart⟩
    obtain ⟨v, hv, hva⟩ := mem_addresses.1 again
    exact h a ha v hv hva

/-! ## Stops which have been seen -/

/-- Whether a stop is in the same system as another, and has an address if the other
    does. -/
def Repeats (w v : Waypoint α) : Prop :=
  w.sameSystem v = true ∧ w.address.isSome = v.address.isSome

/-- Whether the address of a stop, or its name if it has none, has been seen. -/
def Seen (w : Waypoint α) (as : List Address) (ns : List String) : Prop :=
  match w.address with
  | some a => a ∈ as
  | none => Text.lowerAscii w.systemName ∈ ns

variable {w v : Waypoint α} {as : List Address} {ns : List String} {a : Address}

theorem repeats_of_address (hw : w.address = some a) (hv : v.address = some a) :
    w.Repeats v := by
  simp [Repeats, sameSystem, hw, hv]

theorem repeats_of_place (address : w.address = v.address)
    (name : w.systemName = v.systemName) : w.Repeats v := by
  refine ⟨?_, congrArg Option.isSome address⟩
  rw [sameSystem, address, name]
  exact v.sameSystem_refl

theorem seen_of_some (h : w.address = some a) : w.Seen as ns ↔ a ∈ as := by simp [Seen, h]

theorem seen_of_none (h : w.address = none) :
    w.Seen as ns ↔ Text.lowerAscii w.systemName ∈ ns := by simp [Seen, h]

theorem not_seen_nil : ¬w.Seen [] [] := by
  rcases h : w.address with _ | a
  · simp [seen_of_none h]
  · simp [seen_of_some h]

/-- Once a stop's address has been seen, so has every stop that repeats it. -/
theorem seen_cons_address (h : w.address = some a) :
    v.Seen (a :: as) ns ↔ v.Repeats w ∨ v.Seen as ns := by
  rcases hv : v.address with _ | b
  · simp [seen_of_none hv, Repeats, hv, h]
  · simp [seen_of_some hv, Repeats, sameSystem, hv, h]

/-- Once the name of a stop without an address has been seen, so has every stop that
    repeats it. -/
theorem seen_cons_name (h : w.address = none) :
    v.Seen as (Text.lowerAscii w.systemName :: ns) ↔ v.Repeats w ∨ v.Seen as ns := by
  rcases hv : v.address with _ | b
  · simp [seen_of_none hv, Repeats, sameSystem, hv, h, Text.lowerAscii_eq_iff]
  · simp [seen_of_some hv, Repeats, hv, h]

end Waypoint

/-! ## Stops which are kept -/

namespace Route

variable {as : List Address} {ns : List String} {w : Waypoint α} {ws : List (Waypoint α)}

/-- A stop that has been seen is dropped. -/
theorem distinctFrom_cons_of_seen (h : w.Seen as ns) (ws : List (Waypoint α)) :
    distinctFrom as ns (w :: ws) = distinctFrom as ns ws := by
  rcases hw : w.address with _ | a
  · rw [Waypoint.seen_of_none hw] at h
    simp [distinctFrom, hw, h]
  · rw [Waypoint.seen_of_some hw] at h
    simp [distinctFrom, hw, h]

/-- A stop that has not been seen is kept, and what repeats it is seen from then on. -/
theorem exists_distinctFrom_cons_of_not_seen (h : ¬w.Seen as ns) :
    ∃ as' ns', (∀ ws, distinctFrom as ns (w :: ws) = w :: distinctFrom as' ns' ws) ∧
      ∀ v : Waypoint α, v.Seen as' ns' ↔ v.Repeats w ∨ v.Seen as ns := by
  rcases hw : w.address with _ | a
  · rw [Waypoint.seen_of_none hw] at h
    exact ⟨as, _ :: ns, fun ws => by simp [distinctFrom, hw, h],
      fun v => Waypoint.seen_cons_name hw⟩
  · rw [Waypoint.seen_of_some hw] at h
    exact ⟨a :: as, ns, fun ws => by simp [distinctFrom, hw, h],
      fun v => Waypoint.seen_cons_address hw⟩

theorem not_seen_of_mem_distinctFrom {v : Waypoint α} (h : v ∈ distinctFrom as ns ws) :
    ¬v.Seen as ns := by
  induction ws generalizing as ns with
  | nil => exact absurd h List.not_mem_nil
  | cons w ws ih =>
    by_cases hw : w.Seen as ns
    · rw [distinctFrom_cons_of_seen hw] at h
      exact ih h
    · obtain ⟨as', ns', kept, seen⟩ := exists_distinctFrom_cons_of_not_seen hw
      rw [kept] at h
      rcases List.mem_cons.1 h with rfl | h
      · exact hw
      · -- What has been seen stays seen.
        exact fun again => ih h ((seen v).2 (.inr again))

/-- Nothing that is kept repeats what is kept before it. -/
theorem pairwise_distinctFrom (as : List Address) (ns : List String) (ws : List (Waypoint α)) :
    (distinctFrom as ns ws).Pairwise fun u v => ¬v.Repeats u := by
  induction ws generalizing as ns with
  | nil => exact .nil
  | cons w ws ih =>
    by_cases hw : w.Seen as ns
    · rw [distinctFrom_cons_of_seen hw]
      exact ih as ns
    · obtain ⟨as', ns', kept, seen⟩ := exists_distinctFrom_cons_of_not_seen hw
      rw [kept, List.pairwise_cons]
      refine ⟨fun v hv again => ?_, ih as' ns'⟩
      exact not_seen_of_mem_distinctFrom hv ((seen v).2 (.inl again))

/-- No two of the stops that are kept have the same address. -/
theorem nodup_addresses_distinctFrom (as : List Address) (ns : List String)
    (ws : List (Waypoint α)) : (Waypoint.addresses (distinctFrom as ns ws)).Nodup := by
  refine List.pairwise_filterMap.2 ((pairwise_distinctFrom as ns ws).imp fun {u v} apart => ?_)
  rintro a hu b hv rfl
  exact apart (Waypoint.repeats_of_address hv hu)

theorem nodup_addresses_distinct (r : Route α) :
    (Waypoint.addresses r.distinct.waypoints).Nodup :=
  nodup_addresses_distinctFrom [] [] r.waypoints

/-- The first stop is kept, and none after it that repeats it. -/
theorem exists_distinctFrom_cons (w : Waypoint α) (ws : List (Waypoint α)) :
    ∃ rest, distinctFrom [] [] (w :: ws) = w :: rest ∧ ∀ v ∈ rest, v ∈ ws ∧ ¬v.Repeats w := by
  obtain ⟨as, ns, kept, -⟩ := exists_distinctFrom_cons_of_not_seen (w := w) Waypoint.not_seen_nil
  have apart := pairwise_distinctFrom [] [] (w :: ws)
  rw [kept, List.pairwise_cons] at apart
  exact ⟨_, kept ws, fun v hv => ⟨(distinctFrom_sublist as ns ws).subset hv, apart.1 v hv⟩⟩

theorem any_hasAddress {a : Address} (h : w.address = some a) (as : List Address) :
    as.any w.hasAddress = as.contains a := by
  rw [Bool.eq_iff_iff, List.any_eq_true, List.contains_iff_mem]
  constructor
  · rintro ⟨b, hb, same⟩
    rw [Waypoint.hasAddress, h, beq_iff_eq, Option.some.injEq] at same
    exact same ▸ hb
  · exact fun ha => ⟨a, ha, by rw [Waypoint.hasAddress, h, beq_self_eq_true]⟩

/-- Of stops which have addresses, all different, those with an address seen before are
    dropped. -/
theorem distinctFrom_eq_filter (as : List Address) (ns : List String)
    (known : ∀ w ∈ ws, w.address.isSome) (nodup : (Waypoint.addresses ws).Nodup) :
    distinctFrom as ns ws = ws.filter fun w => !as.any w.hasAddress := by
  induction ws generalizing as with
  | nil => rfl
  | cons w ws ih =>
    obtain ⟨a, ha⟩ := Option.isSome_iff_exists.1 (known w List.mem_cons_self)
    rw [Waypoint.addresses_cons_of_some ha, List.nodup_cons] at nodup
    have rest := fun as => ih as (fun v hv => known v (List.mem_cons_of_mem _ hv)) nodup.2
    rw [distinctFrom, ha, List.filter_cons, any_hasAddress ha]
    dsimp only
    cases as.contains a with
    | true => exact rest as
    | false =>
      -- The address of `w` occurs at no later stop, so it makes no difference there.
      refine congrArg (w :: ·) ((rest (a :: as)).trans (List.filter_congr fun v hv => ?_))
      have other : v.hasAddress a = false := by
        rw [Waypoint.hasAddress, beq_eq_false_iff_ne]
        exact fun hva => nodup.1 (Waypoint.mem_addresses.2 ⟨v, hv, hva⟩)
      rw [List.any_cons, other, Bool.false_or]

theorem distinctFrom_eq_self (known : ∀ w ∈ ws, w.address.isSome)
    (nodup : (Waypoint.addresses ws).Nodup) : distinctFrom [] [] ws = ws := by
  rw [distinctFrom_eq_filter [] [] known nodup]
  exact List.filter_eq_self.2 fun _ _ => rfl

end Route

end Astrogation
