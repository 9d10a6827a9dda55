import Astrogation.Proofs.Places.Matrix

/-!
# How distances are laid out

A grid is filled pair by pair. On the way it holds the distances between the pairs that were
recorded so far, the same in both directions, and zeros everywhere else (`Grid.Records`). As no
two pairs of places share a cell (`Matrix.cell_inj`), what was recorded is never written over.

So the whole grid has the distance between any two positions in both of their cells, and zeros on
its diagonal, where no pair is recorded (`Grid.ofPositions_layout`).
-/

namespace Astrogation

variable {n : Nat}

/-- The matrix in which only some pairs of positions are linked. -/
def Matrix.linked (ps : Vector Position n) (pairs : List (Fin n × Fin n)) : Matrix n :=
  pairs.foldl (link ps) (.ofFn fun _ _ => 0)

namespace Grid

/-- A grid for some positions, in which the distances between some pairs are recorded. -/
structure Records (positions : List Position) (recorded : List (Nat × Nat)) (g : Grid) : Prop where
  size : g.size = positions.length
  count : g.cells.length = positions.length * positions.length
  both : ∀ i j : Fin positions.length, (i.val, j.val) ∈ recorded →
    g.distance i j = .reply ((positions.get i).distanceTo (positions.get j)) ∧
      g.distance j i = .reply ((positions.get i).distanceTo (positions.get j))
  elsewhere : ∀ i j : Fin positions.length,
    (i.val, j.val) ∉ recorded → (j.val, i.val) ∉ recorded → g.distance i j = .reply 0

theorem mem_places {pairs : List (Fin n × Fin n)} {i j : Fin n} :
    (i.val, j.val) ∈ pairs.map (fun pair => (pair.1.val, pair.2.val)) ↔ (i, j) ∈ pairs := by
  simp [Fin.val_inj]

theorem mem_pairs {i j : Fin n} : (i.val, j.val) ∈ pairs n ↔ i < j := by
  rw [pairs_eq_map, mem_places, Matrix.mem_pairs]

/-- Of linked positions the distances are recorded. -/
theorem records_linked (positions : List Position)
    {pairs : List (Fin positions.length × Fin positions.length)}
    (ordered : ∀ pair ∈ pairs, pair.1 < pair.2) :
    Records positions (pairs.map fun pair => (pair.1.val, pair.2.val))
      (ofMatrix (.linked ⟨positions.toArray, rfl⟩ pairs)) where
  size := rfl
  count := Vector.length_toList
  both i j h := by
    have h := mem_places.1 h
    have back : (j, i) ∉ pairs := fun h' => lt_asymm (ordered _ h) (ordered _ h')
    simp only [distance_ofMatrix, Matrix.linked, Matrix.get_foldl_link _ ordered, if_pos h,
      if_neg back]
    exact ⟨rfl, rfl⟩
  elsewhere i j h h' := by
    rw [mem_places] at h h'
    rw [distance_ofMatrix, Matrix.linked, Matrix.get_foldl_link _ ordered, if_neg h, if_neg h',
      Matrix.get_ofFn]

/-- Part of the way through the pairs, those that came first are recorded; from there on, the rest
    leads to the whole grid. -/
theorem exists_partway (positions : List Position) {done rest : List (Nat × Nat)}
    (split : pairs positions.length = done ++ rest) :
    ∃ partway, Records positions done partway ∧
      done.foldlM (record positions)
        ⟨positions.length, List.replicate (positions.length * positions.length) 0⟩ =
          .reply partway ∧
      rest.foldlM (record positions) partway = ofPositions positions := by
  rw [pairs_eq_map, List.map_eq_append_iff] at split
  obtain ⟨first, last, all, rfl, rfl⟩ := split
  have ordered : ∀ pair ∈ first, pair.1 < pair.2 := fun pair h =>
    Matrix.mem_pairs.1 (all ▸ List.mem_append_left last h)
  have started : (first.map fun pair => (pair.1.val, pair.2.val)).foldlM (record positions)
      ⟨positions.length, List.replicate (positions.length * positions.length) 0⟩ =
        .reply (ofMatrix (.linked ⟨positions.toArray, rfl⟩ first)) := by
    rw [blank_eq_ofMatrix]
    exact foldlM_record _ ⟨positions.toArray, rfl⟩ first
  refine ⟨_, records_linked positions ordered, started, ?_⟩
  rw [ofPositions, pairs_eq_map, all, List.map_append, List.foldlM_append, started,
    Call.reply_bind]

/-- Filling a grid never goes out of range, and gives the matrix of the distances: between two
    positions the same in both of their cells, and zeros on the diagonal. All cells are in range
    and no two pairs of places share one, so what was recorded on the way is not written over. -/
theorem ofPositions_layout (positions : List Position) :
    ∃ g, ofPositions positions = .reply g ∧
      g = ofMatrix (.ofPositions ⟨positions.toArray, rfl⟩) ∧
      g.size = positions.length ∧
      (∀ i j : Fin positions.length, i < j →
        g.distance i j = .reply ((positions.get i).distanceTo (positions.get j)) ∧
          g.distance j i = .reply ((positions.get i).distanceTo (positions.get j))) ∧
      (∀ i : Fin positions.length, g.distance i i = .reply 0) ∧
      (∀ i j : Fin positions.length, i * g.size + j < g.cells.length) ∧
      (∀ i j k l : Fin positions.length,
        i.val * g.size + j = k * g.size + l → i = k ∧ j = l) ∧
      ∀ done rest, pairs positions.length = done ++ rest →
        ∃ partway, Records positions done partway ∧
          done.foldlM (record positions)
            ⟨positions.length, List.replicate (positions.length * positions.length) 0⟩ =
              .reply partway ∧
          rest.foldlM (record positions) partway = .reply g := by
  have filled : ofPositions positions = .reply (ofMatrix (.ofPositions ⟨positions.toArray, rfl⟩)) :=
    ofPositions_eq (⟨positions.toArray, rfl⟩ : Vector Position positions.length)
  have whole : Records positions (pairs positions.length)
      (ofMatrix (.ofPositions ⟨positions.toArray, rfl⟩)) := by
    rw [pairs_eq_map, ← Matrix.foldl_link_pairs]
    exact records_linked positions fun pair h => Matrix.mem_pairs.1 h
  refine ⟨_, filled, rfl, whole.size, fun i j h => whole.both i j (mem_pairs.2 h), fun i => ?_,
    fun i j => ?_, fun i j k l same => ?_, fun done rest split => ?_⟩
  · have diagonal : (i.val, i.val) ∉ pairs positions.length := fun h => lt_irrefl i (mem_pairs.1 h)
    exact whole.elsewhere i i diagonal diagonal
  · rw [whole.size, whole.count]
    exact Matrix.cell_lt i j
  · exact Matrix.cell_inj.1 (Fin.ext same)
  · rw [← filled]
    exact exists_partway positions split

end Grid

end Astrogation
