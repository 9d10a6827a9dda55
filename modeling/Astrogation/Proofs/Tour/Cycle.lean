import Astrogation.Proofs.Space.Exact
import Astrogation.Proofs.Tour.Order

/-!
# The cycle of a tour

The length that is recorded of a nearest-neighbour tour is that of its cycle, summed up in
the order of the tour (`Matrix.total_nearestNeighbour`). In exact arithmetic, the cycle has
the same length from wherever it is read (`Matrix.cycleLength_of_isRotated`).
-/

namespace Astrogation

variable {α β : Type} {n : Nat}

/-! ## Reading a tour from another place on -/

namespace Tour

theorem isRotated_rotate (k : Nat) (xs : List β) : (rotate k xs).IsRotated xs := by
  have split : (rotate k xs).IsRotated (xs.take k ++ xs.drop k) := List.isRotated_append
  rwa [List.take_append_drop] at split

theorem isRotated_toFront (t : Tour n α) (position : Nat) :
    (t.toFront position).order.IsRotated t.order := by
  rw [toFront]
  split
  · exact isRotated_rotate position t.order
  · exact .refl _

theorem isRotated_toBack (t : Tour n α) (place : Nat) :
    (t.toBack place).order.IsRotated t.order := by
  rw [toBack]
  split
  · exact isRotated_rotate _ t.order
  · exact .refl _

end Tour

/-- A cycle is read from each of its members in one way only. -/
theorem eq_of_isRotated_cons {x : α} {xs ys : List α} (nodup : (x :: xs).Nodup)
    (h : (x :: xs).IsRotated (x :: ys)) : xs = ys := by
  obtain ⟨k, bound, read⟩ := List.isRotated_iff_mod.1 h
  rcases bound.lt_or_eq with bound | rfl
  · have first : (x :: xs)[k]? = some x := by
      rw [← List.head?_rotate bound, read, List.head?_cons]
    obtain ⟨_, here⟩ := List.getElem?_eq_some_iff.1 first
    have same : (x :: xs)[k] = (x :: xs)[0] := here
    obtain rfl := nodup.getElem_inj_iff.1 same
    rw [List.rotate_zero] at read
    exact (List.cons.inj read).2
  · rw [List.rotate_length] at read
    exact (List.cons.inj read).2

/-! ## The legs of a cycle -/

/-- Around a cycle, what there is between each member and the next. -/
def around (d : α → α → β) (xs : List α) : List β := List.zipWith d xs (xs.rotate 1)

theorem around_cons (d : α → α → β) (x : α) (xs : List α) :
    around d (x :: xs) = List.zipWith d (x :: xs) (xs ++ [x]) := by
  rw [around, List.rotate_cons_succ, List.rotate_zero]

theorem around_map {γ : Type} (d : α → α → β) (f : γ → α) (xs : List γ) :
    around d (xs.map f) = around (fun x y => d (f x) (f y)) xs := by
  rw [around, ← List.map_rotate, List.zipWith_map]
  rfl

/-- From wherever a cycle is read, there is the same between its members. -/
theorem around_perm {d : α → α → β} {xs ys : List α} (h : xs.IsRotated ys) :
    (around d xs).Perm (around d ys) := by
  obtain ⟨k, rfl⟩ := h
  have read : around d (xs.rotate k) = (around d xs).rotate k := by
    rw [around, around, List.rotate_rotate, Nat.add_comm, ← List.rotate_rotate,
      List.zipWith_rotate_distrib _ _ _ _ (List.length_rotate xs 1).symm]
  rw [read]
  exact (List.rotate_perm _ k).symm

namespace Matrix

theorem cycleLegs_eq_zipWith (m : Matrix n α) (home i : Fin n) (rest : List (Fin n)) :
    m.cycleLegs home i rest = List.zipWith m.get (i :: rest) (rest ++ [home]) := by
  induction rest generalizing i with
  | nil => rfl
  | cons j rest ih => rw [cycleLegs, ih, List.cons_append, List.zipWith_cons_cons]

/-- The length of a cycle is the sum of the legs around it. -/
theorem cycleLength_eq_foldl [Zero α] [Add α] (m : Matrix n α) {order : List (Fin n)}
    (several : 1 < order.length) :
    m.cycleLength order = (around m.get order).foldl (· + ·) 0 := by
  match order, several with
  | i :: j :: rest, _ => rw [cycleLength, cycleLegs_eq_zipWith, around_cons]

/-- In exact arithmetic, a cycle is as long from wherever it is read. -/
theorem cycleLength_of_isRotated (m : Matrix n ℝ) {order order' : List (Fin n)}
    (h : order.IsRotated order') : m.cycleLength order = m.cycleLength order' := by
  by_cases several : 1 < order.length
  · have several' : 1 < order'.length := h.perm.length_eq ▸ several
    rw [m.cycleLength_eq_foldl several, m.cycleLength_eq_foldl several']
    have legs := around_perm (d := m.get) h
    rw [← List.sum_eq_foldl, ← List.sum_eq_foldl, legs.sum_eq]
  · -- Of fewer than two places there is one order only.
    match order with
    | [] => rw [← List.isRotated_nil_iff'.1 h]
    | [i] => rw [← List.isRotated_singleton_iff'.1 h]
    | i :: j :: rest => exact absurd (Nat.one_lt_succ_succ rest.length) several

/-! ## The length of a tour -/

variable [Scalar α] (m : Matrix n α) {home : Fin n} {forbidden : List Nat} {best : Tour n α}

theorem total_growFrom (home : Fin n) (steps : Nat) (i : Fin n) (travelled : α)
    (places : List (Fin n)) :
    (m.growFrom home steps i travelled places).2 =
      (m.cycleLegs home i (m.growFrom home steps i travelled places).1).foldl (· + ·) travelled := by
  induction steps generalizing i travelled places with
  | zero => rfl
  | succ steps ih =>
    rw [growFrom]
    split
    · rfl
    · exact ih ..

theorem length_order_nearestNeighbour (home : Fin n) :
    (m.nearestNeighbour home).order.length = n := by
  rw [(m.order_perm_finRange home).length_eq, List.length_finRange]

/-- What is recorded of a nearest-neighbour tour is the length of its cycle. -/
theorem total_nearestNeighbour (several : 1 < n) (home : Fin n) :
    (m.nearestNeighbour home).total = m.cycleLength (m.nearestNeighbour home).order := by
  have more : 1 < (m.nearestNeighbour home).order.length := by
    rwa [length_order_nearestNeighbour]
  rw [m.cycleLength_eq_foldl more, nearestNeighbour]
  dsimp only
  rw [around_cons, ← cycleLegs_eq_zipWith]
  exact m.total_growFrom ..

/-- A tour goes through several places. -/
theorem one_lt_of_bestTour? (h : m.bestTour? forbidden = some best) : 1 < n := by
  refine Nat.lt_of_not_le fun few => ?_
  have none : m.bestTour? forbidden = none :=
    m.bestTour?_eq_none_iff.2 (.inl (Nat.lt_succ_of_le few))
  exact nomatch none.symm.trans h

theorem total_of_bestTour? (h : m.bestTour? forbidden = some best) :
    best.total = m.cycleLength best.order := by
  obtain ⟨home, -, rfl⟩ := m.exists_start_of_bestTour? h
  exact m.total_nearestNeighbour (m.one_lt_of_bestTour? h) home

end Matrix

end Astrogation
