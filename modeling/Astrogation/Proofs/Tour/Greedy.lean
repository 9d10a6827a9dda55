import Astrogation.Proofs.Floating.Machine
import Astrogation.Proofs.Ranking
import Astrogation.Proofs.Tour.Cycle

/-!
# Greedy tours

A nearest-neighbour tour is *greedy* (`Matrix.IsGreedy`): from each of its places it goes on to
the nearest one that it has not been to, and of several that are as near to the first. This
needs distances which can be compared; that the tour goes through all places, and how long it
is, does not (`Matrix.nearestNeighbour_greedy`).

The best tour is the shortest of the nearest-neighbour tours from the places where it may start,
and of several that are as short the one from the first place
(`Matrix.bestTour?_first_shortest`).
-/

namespace Astrogation

open Floating

/-! ## Distances which can be compared -/

namespace Floating

variable {x y : Float}

theorem lt_iff_place (hx : x.isNaN = false) (hy : y.isNaN = false) : x < y ↔ place x < place y :=
  double_lt_iff.trans (and_iff_right ⟨isNaN_eq_false_iff.1 hx, isNaN_eq_false_iff.1 hy⟩)

theorem le_iff_place (hx : x.isNaN = false) (hy : y.isNaN = false) : x ≤ y ↔ place x ≤ place y :=
  double_le_iff.trans (and_iff_right ⟨isNaN_eq_false_iff.1 hx, isNaN_eq_false_iff.1 hy⟩)

theorem beq_iff_place (hx : x.isNaN = false) (hy : y.isNaN = false) : x == y ↔ place x = place y :=
  double_beq_iff.trans (and_iff_right ⟨isNaN_eq_false_iff.1 hx, isNaN_eq_false_iff.1 hy⟩)

end Floating

/-- Whoever is less by a key which is no NaN yields to no one. -/
theorem yieldsBy_place {α : Type} {key : α → Float} {xs : List α}
    (numbers : ∀ x ∈ xs, (key x).isNaN = false) :
    YieldsBy (fun best x => decide (key x < key best)) (fun x => place (key x)) xs :=
  fun x hx y hy => decide_eq_true_iff.trans (lt_iff_place (numbers y hy) (numbers x hx))

namespace Matrix

variable {n : Nat} (m : Matrix n) {home i j : Fin n} {forbidden : List Nat}

/-! ## Going on to the nearest place -/

/-- From `i`, the place `j` is nearer than `k`, or it is as near and comes first. -/
def Nearer (i j k : Fin n) : Prop :=
  m.get i j < m.get i k ∨ (m.get i j == m.get i k) = true ∧ j ≤ k

/-- An order of places in which each, but the first, is the nearest to the one before it of all
    places where the tour has not been by then. -/
def IsGreedy (order : List (Fin n)) : Prop :=
  ∀ behind i j ahead, order = behind ++ i :: j :: ahead →
    ∀ k, k ∉ behind → k ≠ i → m.Nearer i j k

variable {m}

theorem nearer_of_nearest? {places : List (Fin n)} (numbers : ∀ i j, (m.get i j).isNaN = false)
    (sorted : places.Pairwise (· < ·)) (h : m.nearest? i places = some j) :
    ∀ k ∈ places, m.Nearer i j k := by
  have first := isFirstLeast_of_champion? (yieldsBy_place fun k _ => numbers i k) h
  have came : places.Pairwise (· ≤ ·) := sorted.imp le_of_lt
  intro k hk
  have order := first.before came le_rfl hk
  exact order.imp (lt_iff_place (numbers i j) (numbers i k)).2
    (And.imp_left (beq_iff_place (numbers i j) (numbers i k)).2)

theorem singleton_ne_append {α : Type} (i a b : α) (behind ahead : List α) :
    [i] ≠ behind ++ a :: b :: ahead := by
  intro same
  have lengths := congrArg List.length same
  simp only [List.length_append, List.length_cons, List.length_nil] at lengths
  omega

/-- While it is grown, a tour goes on from each place to the nearest of those that are left. -/
theorem nearer_of_growFrom {steps : Nat} {travelled : Float} {places : List (Fin n)}
    (numbers : ∀ i j, (m.get i j).isNaN = false) (sorted : places.Pairwise (· < ·))
    {behind ahead : List (Fin n)} {a b : Fin n}
    (h : i :: (m.growFrom home steps i travelled places).1 = behind ++ a :: b :: ahead) :
    ∀ k ∈ places, k ∉ behind → k ≠ a → m.Nearer a b k := by
  -- Each step takes away the place to which it goes on, so what is left are the places which
  -- are not behind.
  induction steps generalizing i travelled places behind with
  | zero => exact absurd h (singleton_ne_append i a b behind ahead)
  | succ steps ih =>
    rw [growFrom] at h
    cases hj : m.nearest? i places with
    | none =>
      rw [hj] at h
      exact absurd h (singleton_ne_append i a b behind ahead)
    | some j =>
      rw [hj] at h
      dsimp only at h
      intro k hk notBehind other
      cases behind with
      | nil =>
        obtain ⟨rfl, next⟩ := List.cons.inj h
        obtain ⟨rfl, -⟩ := List.cons.inj next
        exact nearer_of_nearest? numbers sorted hj k hk
      | cons x more =>
        obtain ⟨rfl, next⟩ := List.cons.inj h
        have notPassed : k ∉ more := fun again => notBehind (List.mem_cons_of_mem i again)
        have left : k ≠ j := by
          rintro rfl
          cases more with
          | nil => exact other (List.cons.inj next).1
          | cons y more => exact notPassed ((List.cons.inj next).1 ▸ List.mem_cons_self)
        exact ih (sorted.sublist List.erase_sublist) next k ((List.mem_erase_of_ne left).2 hk)
          notPassed other

theorem isGreedy_nearestNeighbour (numbers : ∀ i j, (m.get i j).isNaN = false) (home : Fin n) :
    m.IsGreedy (m.nearestNeighbour home).order := by
  intro behind i j ahead order k notBehind other
  have sorted : ((List.finRange n).erase home).Pairwise (· < ·) :=
    (List.sortedLT_finRange n).pairwise.sublist List.erase_sublist
  refine nearer_of_growFrom numbers sorted order k ?_ notBehind other
  -- The tour has been at home from the beginning.
  refine (List.mem_erase_of_ne ?_).2 (List.mem_finRange k)
  rintro rfl
  cases behind with
  | nil => exact other (List.cons.inj order).1
  | cons x more => exact notBehind ((List.cons.inj order).1 ▸ List.mem_cons_self)

/-! ## The length of a tour -/

@[simp]
theorem get_ofPositions_self (positions : Vector Position n) (i : Fin n) :
    (ofPositions positions).get i i = 0 := by
  rw [ofPositions, get_ofFn, if_neg (lt_irrefl i), if_neg (lt_irrefl i)]

/-- The cycle of a single place is as long as the way from there to itself. -/
theorem total_of_single (m : Matrix 1) (home : Fin 1) (still : m.get home home = 0) :
    (m.nearestNeighbour home).total = m.cycleLength (m.nearestNeighbour home).order := by
  obtain rfl : home = 0 := Subsingleton.elim home 0
  have total : (m.nearestNeighbour 0).total = 0 + m.get 0 0 := rfl
  have cycle : m.cycleLength (m.nearestNeighbour 0).order = 0 := rfl
  rw [total, cycle, still]
  decide +kernel

/-- A nearest-neighbour tour begins at home and goes through all places, whatever the distances
    are. If these can be compared, it is greedy. What is recorded of it is the length of its
    cycle, to which the same legs have been added in the same order; for a single place this
    needs that it is at no distance from itself, as in every matrix of distances between
    positions. -/
theorem nearestNeighbour_greedy (m : Matrix n) (home : Fin n) :
    (m.nearestNeighbour home).order.head? = some home ∧
    (m.nearestNeighbour home).order.Perm (List.finRange n) ∧
    ((∀ i j, (m.get i j).isNaN = false) → m.IsGreedy (m.nearestNeighbour home).order) ∧
    ((n = 1 → m.get home home = 0) →
      (m.nearestNeighbour home).total = m.cycleLength (m.nearestNeighbour home).order) ∧
    ∀ positions : Vector Position n, (ofPositions positions).get home home = 0 := by
  refine ⟨rfl, m.order_perm_finRange home, fun numbers => isGreedy_nearestNeighbour numbers home,
    fun still => ?_, fun positions => get_ofPositions_self positions home⟩
  rcases Nat.lt_or_ge 1 n with several | single
  · exact m.total_nearestNeighbour several home
  · obtain rfl : n = 1 := Nat.le_antisymm single (Nat.lt_of_le_of_lt home.val.zero_le home.isLt)
    exact m.total_of_single home (still rfl)

/-- Four places, of which the first is halfway between the next two. -/
def crossroads : Matrix 4 := .ofPositions #v[⟨0, 0, 0⟩, ⟨5, 0, 0⟩, ⟨-5, 0, 0⟩, ⟨20, 0, 0⟩]

/-- From the first place, the next two are equally near. -/
theorem crossroads_greedy :
    (∀ i j, (crossroads.get i j).isNaN = false) ∧
      (crossroads.nearestNeighbour 0).order = [0, 1, 2, 3] ∧
      crossroads.IsGreedy (crossroads.nearestNeighbour 0).order ∧
      (crossroads.nearestNeighbour 0).total =
        crossroads.cycleLength (crossroads.nearestNeighbour 0).order := by
  have numbers : ∀ i j, (crossroads.get i j).isNaN = false := by decide +kernel
  obtain ⟨-, -, greedy, total, -⟩ := nearestNeighbour_greedy crossroads 0
  exact ⟨numbers, by decide +kernel, greedy numbers, total (by decide)⟩

/-! ## The best tour -/

theorem permittedStarts_sorted (n : Nat) (forbidden : List Nat) :
    (permittedStarts n forbidden).Pairwise (· < ·) :=
  (List.sortedLT_finRange n).pairwise.sublist List.filter_sublist

/-- There is no tour if and only if there are fewer than two places, or none where it may start.
    If the lengths of the tours can be compared, the best one is the nearest-neighbour tour from
    a place where it may start which is no longer than those from the others, and shorter than
    those from the others before it. -/
theorem bestTour?_first_shortest (m : Matrix n) (forbidden : List Nat) :
    (m.bestTour? forbidden = none ↔ n < 2 ∨ ∀ i : Fin n, i.val ∈ forbidden) ∧
    ((∀ i : Fin n, i.val ∉ forbidden → (m.nearestNeighbour i).total.isNaN = false) →
      2 ≤ n → (∃ i : Fin n, i.val ∉ forbidden) →
      ∃ home : Fin n, home.val ∉ forbidden ∧
        m.bestTour? forbidden = some (m.nearestNeighbour home) ∧
        ∀ other : Fin n, other.val ∉ forbidden →
          (m.nearestNeighbour home).total ≤ (m.nearestNeighbour other).total ∧
          (other < home →
            (m.nearestNeighbour home).total < (m.nearestNeighbour other).total)) := by
  refine ⟨m.bestTour?_eq_none_iff, fun numbers several somewhere => ?_⟩
  let starts := permittedStarts n forbidden
  let length (i : Fin n) : Float := (m.nearestNeighbour i).total
  have numbers' : ∀ i ∈ starts, (length i).isNaN = false :=
    fun i hi => numbers i (mem_permittedStarts.1 hi)
  have best : m.bestTour? forbidden =
      (champion? (fun best i => decide (length i < length best)) starts).map
        m.nearestNeighbour := by
    rw [bestTour?, if_neg (Nat.not_lt.2 several), champion?_map]
  cases chosen : champion? (fun best i => decide (length i < length best)) starts with
  | none =>
    obtain ⟨i, may⟩ := somewhere
    have absent : i ∉ starts := by simp [champion?_eq_none_iff.1 chosen]
    exact absurd (mem_permittedStarts.2 may) absent
  | some home =>
    have first := isFirstLeast_of_champion? (yieldsBy_place numbers') chosen
    have mayStart := mem_of_champion? chosen
    rw [chosen] at best
    refine ⟨home, mem_permittedStarts.1 mayStart, best, fun other may => ?_⟩
    have isStart : other ∈ starts := mem_permittedStarts.2 may
    have came : starts.Pairwise (· ≤ ·) := (permittedStarts_sorted n forbidden).imp le_of_lt
    have before := first.before came le_rfl isStart
    have hlt := lt_iff_place (numbers' home mayStart) (numbers' other isStart)
    have hle := le_iff_place (numbers' home mayStart) (numbers' other isStart)
    refine ⟨hle.2 before.le, fun earlier => hlt.2 ?_⟩
    rcases before with shorter | ⟨-, later⟩
    · exact shorter
    · exact absurd earlier (not_lt.2 later)

/-- A tour of the crossroads which may not start at the second place starts at the third: from
    the first it is longer, and from the last it is as long. -/
theorem crossroads_best :
    (∀ i : Fin 4, i.val ∉ [1, 7] → (crossroads.nearestNeighbour i).total.isNaN = false) ∧
      crossroads.bestTour? [1, 7] = some (crossroads.nearestNeighbour 2) ∧
      (crossroads.nearestNeighbour 2).total < (crossroads.nearestNeighbour 0).total ∧
      (crossroads.nearestNeighbour 2).total ≤ (crossroads.nearestNeighbour 3).total := by
  have numbers : ∀ i : Fin 4, i.val ∉ [1, 7] →
      (crossroads.nearestNeighbour i).total.isNaN = false := by decide +kernel
  have order : (crossroads.bestTour? [1, 7]).map (·.order) = some [2, 0, 1, 3] := by decide +kernel
  obtain ⟨home, -, best, shortest⟩ := (bestTour?_first_shortest crossroads [1, 7]).2 numbers
    (by decide) ⟨0, by decide⟩
  rw [best] at order
  obtain rfl : home = 2 := (List.cons.inj (Option.some.inj order)).1
  exact ⟨numbers, best, (shortest 0 (by decide)).2 (by decide), (shortest 3 (by decide)).1⟩

end Matrix

end Astrogation
