import Astrogation.Tour.NearestNeighbour
import Mathlib.Data.List.Perm.Basic
import Mathlib.Data.List.FinRange

/-!
# The order of a tour

A nearest-neighbour tour goes through every place once (`Matrix.order_perm_finRange`),
and reading it from another of its places on does not change that. Read to the back
(`Tour.getLast?_toBack`) or to the front (`Tour.head?_toFront`) it ends or begins with
the place that is asked for.

The best tour starts where it may, and there is none if and only if there are fewer than
two places or no place where it may start (`Matrix.bestTour?_eq_none_iff`).
-/

namespace Astrogation

variable {α : Type} {n : Nat}

namespace Tour

variable {t : Tour n α} {place position : Nat}

/-! ## Reading a tour from another place on -/

theorem order_toFront_perm (t : Tour n α) (position : Nat) :
    (t.toFront position).order.Perm t.order := by
  rw [toFront]
  split
  · exact rotate_perm position t.order
  · exact .refl _

theorem order_toBack_perm (t : Tour n α) (place : Nat) :
    (t.toBack place).order.Perm t.order := by
  rw [toBack]
  split
  · exact rotate_perm _ t.order
  · exact .refl _

theorem head?_rotate {β : Type} {xs : List β} {k : Nat} (h : k < xs.length) :
    (rotate k xs).head? = some xs[k] := by
  rw [rotate, List.drop_eq_getElem_cons h, List.cons_append, List.head?_cons]

theorem getLast?_rotate {β : Type} {xs : List β} {k : Nat} (h : k < xs.length) :
    (rotate (k + 1) xs).getLast? = some xs[k] := by
  rw [rotate, List.take_succ_eq_append_getElem h, ← List.append_assoc, List.getLast?_concat]

/-- A place on a tour has a position. -/
theorem exists_positionOf? {i : Fin n} (h : i ∈ t.order) :
    ∃ position, ∃ bound : position < t.order.length,
      t.positionOf? i = some position ∧ t.order[position] = i := by
  obtain ⟨position, found⟩ := Option.isSome_iff_exists.1 <|
    (List.findIdx?_isSome (p := fun j : Fin n => j.val == i.val)).trans
      (List.any_eq_true.2 ⟨i, h, beq_self_eq_true _⟩)
  obtain ⟨bound, here, -⟩ := List.findIdx?_eq_some_iff_getElem.1 found
  exact ⟨position, bound, found, Fin.ext (beq_iff_eq.1 here)⟩

theorem getLast?_toBack {i : Fin n} (h : i ∈ t.order) :
    (t.toBack i).order.getLast? = some i := by
  obtain ⟨position, bound, found, here⟩ := exists_positionOf? h
  rw [toBack, found]
  exact (getLast?_rotate bound).trans (congrArg some here)

theorem head?_toFront {i : Fin n} (h : i ∈ t.order) :
    ∃ position, t.positionOf? i = some position ∧ (t.toFront position).order.head? = some i := by
  obtain ⟨position, bound, found, here⟩ := exists_positionOf? h
  refine ⟨position, found, ?_⟩
  rw [toFront, if_pos bound]
  exact (head?_rotate bound).trans (congrArg some here)

end Tour

namespace Matrix

variable [Scalar α] (m : Matrix n α) {home i : Fin n} {forbidden : List Nat} {best : Tour n α}

/-! ## Nearest-neighbour tours -/

/-- With a step for each place that is left, a tour goes on to all of them. -/
theorem growFrom_perm {steps : Nat} {travelled : α} {places : List (Fin n)}
    (enough : places.length = steps) :
    (m.growFrom home steps i travelled places).1.Perm places := by
  -- Each step takes one place off those that are left.
  induction steps generalizing i travelled places with
  | zero =>
    obtain rfl := List.length_eq_zero_iff.1 enough
    exact .refl _
  | succ steps ih =>
    rw [growFrom]
    cases h : m.nearest? i places with
    | none =>
      obtain rfl := champion?_eq_none_iff.1 h
      exact .refl _
    | some j =>
      have here : j ∈ places := mem_of_champion? h
      have left : (places.erase j).length = steps := by
        rw [List.length_erase_of_mem here, enough, Nat.add_sub_cancel]
      exact ((ih left).cons j).trans (List.perm_cons_erase here).symm

/-- A nearest-neighbour tour goes through all places. -/
theorem order_perm_finRange (home : Fin n) :
    (m.nearestNeighbour home).order.Perm (List.finRange n) :=
  ((m.growFrom_perm rfl).cons home).trans (List.perm_cons_erase (List.mem_finRange home)).symm

theorem mem_permittedStarts : i ∈ permittedStarts n forbidden ↔ i.val ∉ forbidden := by
  rw [permittedStarts, List.mem_filter, Bool.not_eq_true', ← Bool.not_eq_true,
    List.contains_iff_mem]
  exact and_iff_right (List.mem_finRange i)

/-! ## The best tour -/

/-- There is no tour if there are fewer than two places, or none where it may start. -/
theorem bestTour?_eq_none_iff :
    m.bestTour? forbidden = none ↔ n < 2 ∨ ∀ i : Fin n, i.val ∈ forbidden := by
  rw [bestTour?]
  split
  · next few => exact ⟨fun _ => .inl few, fun _ => rfl⟩
  · next few =>
    rw [champion?_eq_none_iff, List.map_eq_nil_iff, or_iff_right few,
      List.eq_nil_iff_forall_not_mem]
    exact forall_congr' fun i => (not_congr mem_permittedStarts).trans not_not

/-- The best tour is the nearest-neighbour tour from a place where it may start. -/
theorem exists_start_of_bestTour? (h : m.bestTour? forbidden = some best) :
    ∃ home : Fin n, home.val ∉ forbidden ∧ best = m.nearestNeighbour home := by
  rw [bestTour?] at h
  split at h
  · cases h
  · obtain ⟨home, permitted, rfl⟩ := List.mem_map.1 (mem_of_champion? h)
    exact ⟨home, mem_permittedStarts.1 permitted, rfl⟩

end Matrix

end Astrogation
