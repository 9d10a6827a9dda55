/-!
# Ranking candidates

Two ways in which candidates are ranked:

* `champion?` scans them from the left and keeps the best so far, which yields
  only to a better one; so of equally good ones the first is kept;
* `ranked` sorts them, and leaves equally good ones in their order.
-/

namespace Astrogation

variable {α : Type}

/-- The candidate left when the best so far yields to each later one if `yields`
    says so. -/
def champion? (yields : α → α → Bool) : List α → Option α
  | [] => none
  | x :: xs => some (xs.foldl (fun best y => if yields best y then y else best) x)

/-- A ranked list with one more candidate, in front of those it may precede. -/
def insertRanked (precedes : α → α → Bool) (x : α) : List α → List α
  | [] => [x]
  | y :: ys => if precedes x y then x :: y :: ys else y :: insertRanked precedes x ys

/-- The candidates in the order of `precedes`, equally good ones as they came. -/
def ranked (precedes : α → α → Bool) : List α → List α
  | [] => []
  | x :: xs => insertRanked precedes x (ranked precedes xs)

theorem champion?_eq_none_iff {yields : α → α → Bool} {xs : List α} :
    champion? yields xs = none ↔ xs = [] := by
  cases xs <;> simp [champion?]

theorem foldl_champion_mem (yields : α → α → Bool) (x : α) (xs : List α) :
    xs.foldl (fun best y => if yields best y then y else best) x ∈ x :: xs := by
  induction xs generalizing x with
  | nil => exact List.mem_cons_self
  | cons y xs ih =>
    rw [List.foldl_cons]
    split
    · exact List.mem_cons_of_mem x (ih y)
    · rcases List.mem_cons.1 (ih x) with h | h
      · rw [h]
        exact List.mem_cons_self
      · exact List.mem_cons_of_mem x (List.mem_cons_of_mem y h)

/-- The champion is one of the candidates. -/
theorem mem_of_champion? {yields : α → α → Bool} {xs : List α} {x : α}
    (h : champion? yields xs = some x) : x ∈ xs := by
  cases xs with
  | nil => cases h
  | cons y xs =>
    rw [champion?, Option.some.injEq] at h
    exact h ▸ foldl_champion_mem yields y xs

theorem insertRanked_perm (precedes : α → α → Bool) (x : α) (ys : List α) :
    (insertRanked precedes x ys).Perm (x :: ys) := by
  induction ys with
  | nil => exact .refl _
  | cons y ys ih =>
    rw [insertRanked]
    split
    · exact .refl _
    · exact (ih.cons y).trans (.swap x y ys)

/-- Ranking neither adds nor loses a candidate. -/
theorem ranked_perm (precedes : α → α → Bool) (xs : List α) : (ranked precedes xs).Perm xs := by
  induction xs with
  | nil => exact .refl _
  | cons x xs ih => exact (insertRanked_perm precedes x _).trans (ih.cons x)

end Astrogation
