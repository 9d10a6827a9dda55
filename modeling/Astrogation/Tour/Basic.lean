import Astrogation.Tour.Matrix

/-!
# Tours

A `Tour` visits places and returns to the first of them, so it may be read from
any of its places on: rotating its order leaves the cycle as it is.
-/

namespace Astrogation

/-- A closed tour through some of `n` places, and the length of its cycle. -/
structure Tour (n : Nat) (α : Type := Float) where
  order : List (Fin n)
  total : α

variable {α : Type} {n : Nat}

/-- The lengths of the legs of a cycle that has come to `i`, has the places
    `rest` still ahead and then returns to `home`. -/
def Matrix.cycleLegs (m : Matrix n α) (home : Fin n) : (i : Fin n) → (rest : List (Fin n)) → List α
  | i, [] => [m.get i home]
  | i, j :: rest => m.get i j :: m.cycleLegs home j rest

/-- The length of the closed cycle through places in this order, zero for fewer
    than two. -/
def Matrix.cycleLength [Zero α] [Add α] (m : Matrix n α) : List (Fin n) → α
  | i :: j :: rest => (m.cycleLegs i i (j :: rest)).foldl (· + ·) 0
  | _ => 0

namespace Tour

/-- A list read from its `k`-th member on, those before it at the end. -/
def rotate {β : Type} (k : Nat) (xs : List β) : List β := xs.drop k ++ xs.take k

/-- Where a place comes in the order of a tour. -/
def positionOf? (t : Tour n α) (place : Nat) : Option Nat := t.order.findIdx? (·.val == place)

/-- The tour read from the place at `position` on, if there is one. -/
def toFront (t : Tour n α) (position : Nat) : Tour n α :=
  if position < t.order.length then { t with order := rotate position t.order } else t

/-- The tour read so that `place` comes last, if it is on the tour. -/
def toBack (t : Tour n α) (place : Nat) : Tour n α :=
  match t.positionOf? place with
  | some position => { t with order := rotate (position + 1) t.order }
  | none => t

/-- Rotating keeps all members. -/
theorem rotate_perm {β : Type} (k : Nat) (xs : List β) : (rotate k xs).Perm xs := by
  unfold rotate
  calc (xs.drop k ++ xs.take k).Perm (xs.take k ++ xs.drop k) := List.perm_append_comm
    _ = xs := List.take_append_drop k xs

@[simp]
theorem total_toFront (t : Tour n α) (position : Nat) : (t.toFront position).total = t.total := by
  unfold toFront
  split <;> rfl

@[simp]
theorem total_toBack (t : Tour n α) (place : Nat) : (t.toBack place).total = t.total := by
  unfold toBack
  split <;> rfl

end Tour

end Astrogation
