import Astrogation.Space.Position

/-!
# Distance matrices

The distances between all pairs of `n` places, laid out row by row in a single
vector of `n * n` cells: the distance from `i` to `j` is in the cell `i * n + j`.
-/

namespace Astrogation

/-- The distances between `n` places. -/
structure Matrix (n : Nat) (α : Type := Float) where
  cells : Vector α (n * n)

namespace Matrix

variable {α : Type} {n : Nat}

/-- The cell for the distance from `i` to `j`. -/
def cell (i j : Fin n) : Fin (n * n) :=
  ⟨i * n + j, by
    calc i * n + j < i * n + n := by omega
      _ = (i + 1) * n := by rw [Nat.add_mul, Nat.one_mul]
      _ ≤ n * n := Nat.mul_le_mul_right n i.isLt⟩

/-- The distance from `i` to `j`. -/
def get (m : Matrix n α) (i j : Fin n) : α := m.cells[cell i j]

/-- The matrix whose distance from `i` to `j` is `d i j`. -/
def ofFn (d : Fin n → Fin n → α) : Matrix n α :=
  ⟨.ofFn fun k =>
    have hn : 0 < n := Nat.pos_of_ne_zero fun h => by simpa [h] using k.isLt
    d ⟨k / n, Nat.div_lt_of_lt_mul k.isLt⟩ ⟨k % n, Nat.mod_lt k hn⟩⟩

/-- The distances between positions, each taken once for both directions. -/
def ofPositions [Scalar α] (ps : Vector (Position α) n) : Matrix n α :=
  ofFn fun i j =>
    if i < j then ps[i].distanceTo ps[j]
    else if j < i then ps[j].distanceTo ps[i]
    else 0

/-- The cell `i * n + j` holds the distance from `i` to `j`. -/
@[simp]
theorem get_ofFn (d : Fin n → Fin n → α) (i j : Fin n) : (ofFn d).get i j = d i j := by
  have hn : 0 < n := Nat.lt_of_le_of_lt (Nat.zero_le i) i.isLt
  have row : (i * n + j : Nat) / n = i := by
    rw [Nat.mul_comm, Nat.mul_add_div hn, Nat.div_eq_of_lt j.isLt, Nat.add_zero]
  have column : (i * n + j : Nat) % n = j := by
    rw [Nat.mul_comm, Nat.mul_add_mod, Nat.mod_eq_of_lt j.isLt]
  simp [get, ofFn, cell, row, column]

end Matrix

end Astrogation
