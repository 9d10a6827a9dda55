import Astrogation.Proofs.Floating.Machine
import Astrogation.Proofs.Ranking

/-!
# The first of the best

Of several items, some of which have a value, one may be the *first of the best*
(`FirstBest`): its value is better than those of the items before it, and no worse than those
of the items after it. Both comparisons are left open, for numbers can be compared in more
than one way if there is a NaN among them.

The champion of the values is the first of the best by a key of a linear order
(`firstBest_of_champion?`). By the distance it is, too, even if some of the distances are NaN:
then nothing before it is as near, and nothing after it is nearer
(`firstBest_of_nearest_champion?`).
-/

namespace Astrogation

variable {ι β κ : Type} [LinearOrder κ] {value : ι → Option β} {lt le lt' le' : β → β → Prop}
  {key : β → κ} {yields : β → β → Bool} {x : β} {xs : List β} {items : List ι}

/-- The value of an item is `lt` those of all items before it, and `le` those of all items
    after it. Items without a value do not count. -/
def FirstBest (value : ι → Option β) (lt le : β → β → Prop) (x : β) (items : List ι) : Prop :=
  ∃ before i after, items = before ++ i :: after ∧ value i = some x ∧
    (∀ j ∈ before, ∀ y, value j = some y → lt x y) ∧
    ∀ j ∈ after, ∀ y, value j = some y → le x y

namespace FirstBest

/-- The first of the best is the value of an item. -/
theorem exists_item (h : FirstBest value lt le x items) : ∃ i ∈ items, value i = some x := by
  obtain ⟨before, i, after, rfl, hi, -, -⟩ := h
  exact ⟨i, by simp, hi⟩

/-- Only how the first of the best compares with the values of the items matters. -/
theorem imp (h : FirstBest value lt le x items)
    (hlt : ∀ j ∈ items, ∀ y, value j = some y → lt x y → lt' x y)
    (hle : ∀ j ∈ items, ∀ y, value j = some y → le x y → le' x y) :
    FirstBest value lt' le' x items := by
  obtain ⟨before, i, after, rfl, hi, better, noWorse⟩ := h
  refine ⟨before, i, after, rfl, hi, fun j hj y hy => ?_, fun j hj y hy => ?_⟩
  · exact hlt j (by simp [hj]) y hy (better j hj y hy)
  · exact hle j (by simp [hj]) y hy (noWorse j hj y hy)

/-- The first of the best values is that of the items which have them. -/
theorem of_filterMap (h : FirstBest some lt le x (items.filterMap value)) :
    FirstBest value lt le x items := by
  obtain ⟨before, y, after, split, hy, better, noWorse⟩ := h
  obtain rfl := Option.some.inj hy
  obtain ⟨front, rest, rfl, hfront, hrest⟩ := List.filterMap_eq_append_iff.1 split
  obtain ⟨skipped, i, back, rfl, without, hi, hback⟩ := List.filterMap_eq_cons_iff.1 hrest
  refine ⟨front ++ skipped, i, back, by simp, hi, fun j hj z hz => ?_, fun j hj z hz => ?_⟩
  · rcases List.mem_append.1 hj with hj | hj
    · exact better z (hfront ▸ List.mem_filterMap.2 ⟨j, hj, hz⟩) z rfl
    · simp [without j hj] at hz
  · exact noWorse z (hback ▸ List.mem_filterMap.2 ⟨j, hj, hz⟩) z rfl

end FirstBest

/-- There is no champion if and only if no item has a value. -/
theorem champion?_filterMap_eq_none_iff :
    champion? yields (items.filterMap value) = none ↔ ∀ i ∈ items, value i = none := by
  rw [champion?_eq_none_iff, List.filterMap_eq_nil_iff]

/-- By a key, the champion of the values is the first of the best. -/
theorem firstBest_of_champion? (h : YieldsBy yields key (items.filterMap value))
    (hx : champion? yields (items.filterMap value) = some x) :
    FirstBest value (fun y z => key y < key z) (fun y z => key y ≤ key z) x items := by
  obtain ⟨before, after, split, better, noWorse⟩ := isFirstLeast_of_champion? h hx
  refine .of_filterMap ⟨before, x, after, split, rfl, fun j hj y hy => ?_, fun j hj y hy => ?_⟩
  · exact Option.some.inj hy ▸ better j hj
  · exact Option.some.inj hy ▸ noWorse j hj

/-! ## The nearest, even if a distance is NaN -/

theorem champion?_concat (y : β) : champion? yields (xs ++ [y]) =
    some (match champion? yields xs with
      | none => y
      | some best => if yields best y then y else best) := by
  cases xs with
  | nil => rfl
  | cons x xs => simp [champion?]

open Floating

/-- The champion by the distance is the nearest: nothing before it is as near, and nothing
    after it is nearer. -/
theorem firstBest_of_nearest_champion? {distance : β → Float}
    (hx : champion? (fun best y => decide (distance y < distance best))
      (items.filterMap value) = some x) :
    FirstBest value (fun y z => ¬distance z ≤ distance y) (fun y z => ¬distance z < distance y)
      x items := by
  refine .of_filterMap ?_
  generalize items.filterMap value = xs at hx
  -- Whenever the champion changes, all that it has been compared with is left farther away.
  induction xs using List.reverseRecOn generalizing x with
  | nil => cases hx
  | append_singleton xs last ih =>
    rw [champion?_concat, Option.some.injEq] at hx
    cases hbest : champion? _ xs with
    | none =>
      rw [hbest] at hx
      obtain rfl := champion?_eq_none_iff.1 hbest
      exact ⟨[], last, [], rfl, congrArg some hx, by simp, by simp⟩
    | some best =>
      obtain ⟨before, y, after, rfl, hy, farther, noNearer⟩ := ih hbest
      obtain rfl := Option.some.inj hy
      simp only [hbest, decide_eq_true_eq] at hx
      split at hx
      · next nearer =>
        subst hx
        refine ⟨before ++ y :: after, last, [], rfl, rfl, fun z hz w hw near => ?_, by simp⟩
        obtain rfl := Option.some.inj hw
        have lt := double_lt_of_le_of_lt near nearer
        rcases List.mem_append.1 hz with hz | hz
        · exact farther z hz z rfl (double_le_of_lt lt)
        · rcases List.mem_cons.1 hz with rfl | hz
          · exact double_lt_irrefl _ lt
          · exact noNearer z hz z rfl lt
      · next noNearer' =>
        subst hx
        refine ⟨before, y, after ++ [last], by simp, rfl, farther, fun z hz w hw => ?_⟩
        rcases List.mem_append.1 hz with hz | hz
        · exact noNearer z hz w hw
        · obtain rfl := Option.some.inj hw
          exact List.mem_singleton.1 hz ▸ noNearer'

end Astrogation
