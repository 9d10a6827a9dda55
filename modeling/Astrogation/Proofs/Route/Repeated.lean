import Astrogation.Proofs.Route.Distinct
import Mathlib.Data.List.Pairwise

/-!
# Repeated stops

`Route.distinct` keeps exactly the stops which repeat none of those kept before them
(`exists_distinctFrom_split`): what has been seen when it comes to a stop is what the
stops that were kept are repeated by (`exists_distinctFrom_append`). Since nothing that
is kept repeats anything else, there is nothing left to drop the second time
(`distinctFrom_eq_self_of_pairwise`).

Two stops which are kept can still be in the same system, one with an address and one
without, of the same name (`sol_kept_twice`); otherwise they are not
(`pairwise_sameSystem_iff`).
-/

namespace Astrogation

variable {α : Type}

namespace Waypoint

variable {w v : Waypoint α}

theorem repeats_comm : w.Repeats v ↔ v.Repeats w := by
  rw [Repeats, Repeats, sameSystem_comm, eq_comm (a := w.address.isSome)]

theorem sameSystem_of_none (h : w.address = none) :
    v.sameSystem w = Text.sameIgnoringCase v.systemName w.systemName := by
  simp [sameSystem, h]

end Waypoint

namespace Route

variable {as : List Address} {ns : List String} {w : Waypoint α} {ws : List (Waypoint α)}

/-- Stops are gone through from the first to the last: what is seen after some of them is
    what was seen before, and what repeats those of them that are kept. -/
theorem exists_distinctFrom_append (as : List Address) (ns : List String)
    (before : List (Waypoint α)) :
    ∃ as' ns', (∀ ws, distinctFrom as ns (before ++ ws) =
        distinctFrom as ns before ++ distinctFrom as' ns' ws) ∧
      ∀ v : Waypoint α, v.Seen as' ns' ↔
        (∃ u ∈ distinctFrom as ns before, v.Repeats u) ∨ v.Seen as ns := by
  -- What has been seen changes along the way, so the induction is for whatever it is.
  induction before generalizing as ns with
  | nil => exact ⟨as, ns, fun ws => rfl, fun v => by simp [distinctFrom]⟩
  | cons w before ih =>
    by_cases hw : w.Seen as ns
    · obtain ⟨as', ns', append, seen⟩ := ih as ns
      refine ⟨as', ns', fun ws => ?_, fun v => ?_⟩
      · rw [List.cons_append, distinctFrom_cons_of_seen hw, append, distinctFrom_cons_of_seen hw]
      · rw [seen, distinctFrom_cons_of_seen hw]
    · obtain ⟨as₁, ns₁, kept, seen₁⟩ := exists_distinctFrom_cons_of_not_seen hw
      obtain ⟨as', ns', append, seen⟩ := ih as₁ ns₁
      refine ⟨as', ns', fun ws => ?_, fun v => ?_⟩
      · rw [List.cons_append, kept, append, kept, List.cons_append]
      · simp only [seen, seen₁, kept, List.mem_cons, exists_eq_or_imp, or_left_comm, or_assoc]

/-- Stops of which none has been seen and none repeats an earlier one are all kept. -/
theorem distinctFrom_eq_self_of_pairwise (fresh : ∀ w ∈ ws, ¬w.Seen as ns)
    (apart : ws.Pairwise fun u v => ¬v.Repeats u) : distinctFrom as ns ws = ws := by
  induction ws generalizing as ns with
  | nil => rfl
  | cons w ws ih =>
    rw [List.forall_mem_cons] at fresh
    rw [List.pairwise_cons] at apart
    obtain ⟨as', ns', kept, seen⟩ := exists_distinctFrom_cons_of_not_seen fresh.1
    rw [kept, ih (fun v hv => ?_) apart.2]
    rw [seen, not_or]
    exact ⟨apart.1 v hv, fresh.2 v hv⟩

theorem distinct_distinct (r : Route α) : r.distinct.distinct = r.distinct := by
  have again := distinctFrom_eq_self_of_pairwise (fun _ _ => Waypoint.not_seen_nil)
    (pairwise_distinctFrom [] [] r.waypoints)
  exact congrArg (fun ws => ({ r with waypoints := ws } : Route α)) again

/-- A stop is dropped exactly if it repeats one that is kept before it. -/
theorem exists_distinctFrom_split (before : List (Waypoint α)) (w : Waypoint α)
    (after : List (Waypoint α)) :
    ∃ rest, rest.Sublist after ∧
      ((distinctFrom [] [] (before ++ w :: after) = distinctFrom [] [] before ++ w :: rest ∧
          ∀ v ∈ distinctFrom [] [] before, ¬w.Repeats v) ∨
        (distinctFrom [] [] (before ++ w :: after) = distinctFrom [] [] before ++ rest ∧
          ∃ v ∈ distinctFrom [] [] before, w.Repeats v)) := by
  obtain ⟨as, ns, append, seen⟩ := exists_distinctFrom_append [] [] before
  simp only [Waypoint.not_seen_nil, or_false] at seen
  rw [append]
  by_cases hw : w.Seen as ns
  · refine ⟨_, distinctFrom_sublist as ns after, .inr ⟨?_, (seen w).1 hw⟩⟩
    rw [distinctFrom_cons_of_seen hw]
  · obtain ⟨as', ns', kept, -⟩ := exists_distinctFrom_cons_of_not_seen hw
    refine ⟨_, distinctFrom_sublist as' ns' after, .inl ⟨by rw [kept], fun v hv again => ?_⟩⟩
    exact hw ((seen w).2 ⟨v, hv, again⟩)

/-- Stops none of which repeats an earlier one are all in different systems exactly if no
    stop with an address has the name of one without. -/
theorem pairwise_sameSystem_iff (apart : ws.Pairwise fun u v => ¬v.Repeats u) :
    (ws.Pairwise fun u v => u.sameSystem v = false) ↔
      ∀ u ∈ ws, ∀ v ∈ ws, u.address.isSome → v.address = none →
        Text.sameIgnoringCase u.systemName v.systemName = false := by
  constructor
  · intro different u hu v hv known absent
    have : Std.Symm fun u v : Waypoint α => u.sameSystem v = false :=
      ⟨fun u v h => (v.sameSystem_comm u).trans h⟩
    have other : u ≠ v := fun same => by simp [same, absent] at known
    rw [← Waypoint.sameSystem_of_none absent]
    exact different.forall hu hv other
  · intro names
    refine apart.imp_of_mem fun {u v} hu hv fresh => ?_
    by_contra same
    rw [Bool.not_eq_false] at same
    rcases ha : u.address with _ | a <;> rcases hb : v.address with _ | b
    · exact fresh (Waypoint.repeats_comm.1 ⟨same, by rw [ha, hb]⟩)
    · rw [Waypoint.sameSystem_comm, Waypoint.sameSystem_of_none ha] at same
      exact absurd same (by simp [names v hv u hu (by simp [hb]) ha])
    · rw [Waypoint.sameSystem_of_none hb] at same
      exact absurd same (by simp [names u hu v hv (by simp [ha]) hb])
    · exact fresh (Waypoint.repeats_comm.1 ⟨same, by simp [ha, hb]⟩)

/-- Of the stops that repeat one another the first is kept, with all it says: what is kept
    is in the order of the route, a stop is dropped exactly if it repeats one that is kept
    before it, and then it is in the same system. What is kept repeats nothing else that
    is kept, so that all of it is in different systems unless a stop with an address has
    the name of one without; and nothing is dropped the second time. -/
theorem distinct_keeps_first (r : Route α) :
    (r.distinct.waypoints.Sublist r.waypoints ∧ r.distinct.origin = r.origin) ∧
      (∀ before w after, r.waypoints = before ++ w :: after →
        ∃ kept rest, kept = distinctFrom [] [] before ∧ rest.Sublist after ∧
          ((r.distinct.waypoints = kept ++ w :: rest ∧ ∀ v ∈ kept, ¬w.Repeats v) ∨
            (r.distinct.waypoints = kept ++ rest ∧
              ∃ v ∈ kept, w.Repeats v ∧ w.sameSystem v = true))) ∧
      (r.distinct.waypoints.Pairwise fun v w => ¬w.Repeats v) ∧
      ((r.distinct.waypoints.Pairwise fun v w => v.sameSystem w = false) ↔
        ∀ v ∈ r.distinct.waypoints, ∀ w ∈ r.distinct.waypoints,
          v.address.isSome → w.address = none →
            Text.sameIgnoringCase v.systemName w.systemName = false) ∧
      r.distinct.distinct = r.distinct := by
  have apart := pairwise_distinctFrom [] [] r.waypoints
  refine ⟨⟨distinctFrom_sublist [] [] r.waypoints, rfl⟩, ?_, apart,
    pairwise_sameSystem_iff apart, distinct_distinct r⟩
  intro before w after split
  obtain ⟨rest, sublist, ⟨eq, fresh⟩ | ⟨eq, v, hv, again⟩⟩ :=
    exists_distinctFrom_split before w after
  · exact ⟨_, rest, rfl, sublist, .inl ⟨by rw [distinct, split, eq], fresh⟩⟩
  · exact ⟨_, rest, rfl, sublist, .inr ⟨by rw [distinct, split, eq], v, hv, again, again.1⟩⟩

/-- Sol with its address, on the way to Colonia, and Sol once more, twice without an
    address. -/
def solAgain : Route :=
  ofWaypoints [{ systemName := "Sol", address := some 1 }, { systemName := "Colonia" },
    { systemName := "sol" }, { systemName := "SOL" }]

/-- The last stop is dropped, since it repeats the one before it. -/
theorem distinct_solAgain :
    solAgain.distinct.waypoints = solAgain.waypoints.take 3 ∧
      ∃ v ∈ solAgain.waypoints.take 3, Waypoint.Repeats { systemName := "SOL" } v := by
  have first : distinctFrom [] [] (solAgain.waypoints.take 3) = solAgain.waypoints.take 3 := rfl
  obtain ⟨kept, rest, rfl, sublist, ⟨-, fresh⟩ | ⟨eq, v, hv, again, -⟩⟩ :=
    (distinct_keeps_first solAgain).2.1 (solAgain.waypoints.take 3) { systemName := "SOL" } [] rfl
  · have earlier := fresh { systemName := "sol" } (by rw [first]; simp [solAgain, ofWaypoints])
    exact absurd ⟨by decide, rfl⟩ earlier
  · rw [first] at hv
    rw [List.sublist_nil.1 sublist, List.append_nil, first] at eq
    exact ⟨eq, v, hv, again⟩

/-- The stop in Sol without an address is kept after the one with its address, although
    both are in the same system. -/
theorem sol_kept_twice :
    ¬(solAgain.distinct.waypoints.Pairwise fun v w => v.sameSystem w = false) := by
  have kept : solAgain.distinct.waypoints = solAgain.waypoints.take 3 := rfl
  rw [kept]
  decide

end Route

end Astrogation
