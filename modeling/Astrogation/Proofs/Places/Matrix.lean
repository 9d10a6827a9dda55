import Astrogation.Proofs.Places.Basic
import Astrogation.Tour.Matrix
import Mathlib.Data.List.FinRange

/-!
# Distances by places

A `Grid` holds the distances between some places row by row, and is read and written by the place
of a cell, which may be out of range. It is filled with the distances between all pairs of
positions, the first of each before the second (`Grid.ofPositions`).

Filling a grid never goes out of range and gives the matrix of distances
(`Grid.ofPositions_eq`), and so does no distance between places of a matrix
(`Grid.distance_ofMatrix`).
-/

namespace Astrogation

variable {n : Nat}

/-! ## Grids -/

/-- Distances row by row. -/
structure Grid where
  size : Nat
  cells : List Float

namespace Grid

/-- The cells of a matrix. -/
def ofMatrix (m : Matrix n) : Grid := ⟨n, m.cells.toList⟩

/-- The distance from one place to another. -/
def distance (g : Grid) (i j : Nat) : Call Float := Call.member g.cells (i * g.size + j)

/-- The grid with the distance between two positions, in both directions. -/
def record (positions : List Position) (g : Grid) (pair : Nat × Nat) : Call Grid := do
  let start ← Call.member positions pair.1
  let goal ← Call.member positions pair.2
  let distance := start.distanceTo goal
  let cells ← Call.replace g.cells (pair.1 * g.size + pair.2) distance
  let cells ← Call.replace cells (pair.2 * g.size + pair.1) distance
  return { g with cells }

/-- The pairs of places, the first of each before the second. -/
def pairs (n : Nat) : List (Nat × Nat) :=
  (List.range n).flatMap fun i => ((List.range n).drop (i + 1)).map (i, ·)

/-- The distances between positions. -/
def ofPositions (positions : List Position) : Call Grid :=
  let n := positions.length
  (pairs n).foldlM (record positions) ⟨n, List.replicate (n * n) 0⟩

end Grid

/-! ## Writing to a matrix -/

namespace Matrix

variable {i j k l : Fin n}

theorem cell_lt (i j : Fin n) : (cell i j).val < n * n := (cell i j).isLt

/-- The matrix with another distance from `i` to `j`. -/
def put (m : Matrix n) (i j : Fin n) (distance : Float) : Matrix n :=
  ⟨m.cells.set (cell i j) distance (cell_lt i j)⟩

/-- The matrix with the distance between two of the positions, in both directions. -/
def link (ps : Vector Position n) (m : Matrix n) (pair : Fin n × Fin n) : Matrix n :=
  let distance := (ps.get pair.1).distanceTo (ps.get pair.2)
  (m.put pair.1 pair.2 distance).put pair.2 pair.1 distance

theorem cell_inj : cell i j = cell k l ↔ i = k ∧ j = l := by
  refine ⟨fun h => ?_, fun ⟨hi, hj⟩ => hi ▸ hj ▸ rfl⟩
  have same : i.val * n + j.val = k.val * n + l.val := congrArg Fin.val h
  have hn : 0 < n := Nat.lt_of_le_of_lt (Nat.zero_le i) i.isLt
  have row (a b : Fin n) : (a.val * n + b.val) / n = a.val := by
    rw [Nat.mul_comm, Nat.mul_add_div hn, Nat.div_eq_of_lt b.isLt, Nat.add_zero]
  have rows : i.val = k.val := by rw [← row i j, same, row]
  rw [rows, Nat.add_left_cancel_iff] at same
  exact ⟨Fin.ext rows, Fin.ext same⟩

/-- A matrix is determined by its distances. -/
theorem ext_get {m m' : Matrix n} (h : ∀ i j, m.get i j = m'.get i j) : m = m' := by
  obtain ⟨cells⟩ := m
  obtain ⟨cells'⟩ := m'
  congr 1
  ext k hk
  have hn : 0 < n := Nat.pos_of_ne_zero fun h => by simp [h] at hk
  have same := h ⟨k / n, Nat.div_lt_of_lt_mul hk⟩ ⟨k % n, Nat.mod_lt k hn⟩
  have here : k / n * n + k % n = k := by rw [Nat.mul_comm, Nat.div_add_mod]
  simpa only [get, cell, Fin.getElem_fin, here] using same

theorem get_put (m : Matrix n) (distance : Float) :
    (m.put i j distance).get k l = if k = i ∧ l = j then distance else m.get k l := by
  rw [get, put, Fin.getElem_fin, Vector.getElem_set]
  by_cases here : k = i ∧ l = j
  · rw [if_pos here, if_pos (congrArg Fin.val (cell_inj.2 ⟨here.1.symm, here.2.symm⟩))]
  · rw [if_neg here, if_neg fun same => here ?_]
    · rfl
    · obtain ⟨hi, hj⟩ := cell_inj.1 (Fin.ext same)
      exact ⟨hi.symm, hj.symm⟩

/-- The distances between some pairs are written in both directions, and all else is kept. -/
theorem get_foldl_link (ps : Vector Position n) {pairs : List (Fin n × Fin n)}
    (ordered : ∀ pair ∈ pairs, pair.1 < pair.2) (m : Matrix n) :
    (pairs.foldl (link ps) m).get k l =
      if (k, l) ∈ pairs then (ps.get k).distanceTo (ps.get l)
      else if (l, k) ∈ pairs then (ps.get l).distanceTo (ps.get k)
      else m.get k l := by
  induction pairs generalizing m with
  | nil => simp
  | cons pair pairs ih =>
    obtain ⟨i, j⟩ := pair
    have hij : i < j := ordered (i, j) List.mem_cons_self
    rw [List.foldl_cons, ih (fun pair h => ordered pair (List.mem_cons_of_mem _ h)), link,
      get_put, get_put]
    have later := ordered (l, k)
    grind

/-- The pairs of places, the first of each before the second. -/
def pairs (n : Nat) : List (Fin n × Fin n) :=
  (List.finRange n).flatMap fun i => ((List.finRange n).drop (i.val + 1)).map (i, ·)

theorem mem_drop_finRange : j ∈ (List.finRange n).drop (i.val + 1) ↔ i < j := by
  rw [List.mem_drop_iff_getElem, Fin.lt_def]
  simp only [List.getElem_finRange, List.length_finRange, Fin.ext_iff, Fin.val_cast]
  constructor
  · rintro ⟨k, hk, same⟩
    omega
  · exact fun h => ⟨j - (i + 1), by omega, by omega⟩

theorem mem_pairs : (i, j) ∈ pairs n ↔ i < j := by
  simp only [pairs, List.mem_flatMap, List.mem_map, Prod.mk.injEq, List.mem_finRange, true_and]
  constructor
  · rintro ⟨_, _, h, rfl, rfl⟩
    exact mem_drop_finRange.1 h
  · exact fun h => ⟨i, j, mem_drop_finRange.2 h, rfl, rfl⟩

/-- The distances between all pairs make up the whole matrix. -/
theorem foldl_link_pairs (ps : Vector Position n) :
    (pairs n).foldl (link ps) (ofFn fun _ _ => 0) = ofPositions ps := by
  refine ext_get fun k l => ?_
  rw [get_foldl_link ps fun pair h => mem_pairs.1 h, ofPositions, get_ofFn, get_ofFn]
  simp only [mem_pairs]
  rfl

end Matrix

/-! ## Grids of matrices -/

namespace Grid

variable (m : Matrix n)

@[simp]
theorem size_ofMatrix : (ofMatrix m).size = n := rfl

/-- Between places of a matrix there is a distance. -/
@[simp]
theorem distance_ofMatrix (i j : Fin n) : (ofMatrix m).distance i j = .reply (m.get i j) := by
  refine Call.member_eq_reply ?_
  have inside : i.val * n + j.val < n * n := Matrix.cell_lt i j
  simp [ofMatrix, Matrix.get, Matrix.cell, inside]

theorem replace_ofMatrix (i j : Fin n) (distance : Float) :
    Call.replace (ofMatrix m).cells (i * n + j) distance =
      .reply (ofMatrix (m.put i j distance)).cells := by
  have inside : i.val * n + j.val < (ofMatrix m).cells.length := by
    rw [ofMatrix, Vector.length_toList]
    exact Matrix.cell_lt i j
  rw [Call.replace_eq_reply inside]
  exact congrArg Call.reply (Vector.toList_set (Matrix.cell_lt i j)).symm

/-- Writing the distance between two positions stays in range. -/
theorem record_ofMatrix (ps : Vector Position n) (pair : Fin n × Fin n) :
    record ps.toList (ofMatrix m) (pair.1, pair.2) = .reply (ofMatrix (m.link ps pair)) := by
  have position (i : Fin n) : Call.member ps.toList i = .reply (ps.get i) :=
    Call.member_eq_reply (by simp [Vector.get])
  simp only [record, position, Call.reply_bind, size_ofMatrix, replace_ofMatrix]
  rfl

theorem pairs_eq_map (n : Nat) :
    pairs n = (Matrix.pairs n).map fun pair => (pair.1.val, pair.2.val) := by
  rw [pairs, Matrix.pairs, List.map_flatMap, ← List.map_coe_finRange_eq_range, List.flatMap_map]
  refine List.flatMap_congr fun i _ => ?_
  rw [List.map_map, ← List.map_drop, List.map_map]
  rfl

theorem blank_eq_ofMatrix (n : Nat) :
    (⟨n, List.replicate (n * n) 0⟩ : Grid) = ofMatrix (.ofFn fun _ _ : Fin n => (0 : Float)) := by
  refine congrArg (Grid.mk n) ?_
  rw [← Vector.toList_replicate]
  congr 1
  ext k hk
  simp [Matrix.ofFn]

/-- Writing the distances between pairs of positions stays in range. -/
theorem foldlM_record (ps : Vector Position n) (pairs : List (Fin n × Fin n)) :
    (pairs.map fun pair => (pair.1.val, pair.2.val)).foldlM (record ps.toList) (ofMatrix m) =
      .reply (ofMatrix (pairs.foldl (Matrix.link ps) m)) :=
  Call.foldlM_reply ofMatrix _ (fun pair _ m => record_ofMatrix m ps pair) m

/-- Filling a grid with the distances between positions never goes out of range, and gives the
    matrix of these distances. -/
theorem ofPositions_eq (ps : Vector Position n) :
    ofPositions ps.toList = .reply (ofMatrix (.ofPositions ps)) := by
  rw [ofPositions, Vector.length_toList, blank_eq_ofMatrix, pairs_eq_map, foldlM_record,
    Matrix.foldl_link_pairs]

end Grid

end Astrogation
