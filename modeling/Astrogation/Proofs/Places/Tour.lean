import Astrogation.Proofs.Places.Matrix
import Astrogation.Proofs.Ranking
import Astrogation.Tour.Basic
import Astrogation.Tour.NearestNeighbour

/-!
# Tours by places

A `Trip` is a closed tour as a list of places. It is grown on a grid with a flag for each place,
which says whether the tour has been there (`Grid.tourFrom`); the shortest of the tours is taken
(`Grid.bestTour?`), and read from one of its places on (`Trip.toFront`, `Trip.toBack`).

On the grid of a matrix none of this goes out of range, and the trips are the tours of the matrix
(`Grid.tourFrom_ofMatrix`, `Grid.bestTour?_ofMatrix`). What carries the proof is that the flags
are always those of the places which are left (`Grid.flags`).
-/

namespace Astrogation

variable {n : Nat}

/-! ## Trips -/

/-- A closed tour as a list of places, and its length. -/
structure Trip where
  order : List Nat
  total : Float

/-- Where a tour that is grown has been, where it is, and how long it is so far. -/
structure Trail where
  order : List Nat
  visited : List Bool
  current : Nat
  travelled : Float

namespace Trip

/-- The places of a tour. -/
def ofTour (t : Tour n) : Trip := ⟨t.order.map (·.val), t.total⟩

/-- The trip read from its `k`-th place on. There have to be so many. -/
def rotateLeft (t : Trip) (k : Nat) : Call Trip :=
  if k ≤ t.order.length then return { t with order := Tour.rotate k t.order } else .crash

/-- The trip read from the place at a position on, if there is one. -/
def toFront (t : Trip) (position : Nat) : Call Trip :=
  if position < t.order.length then t.rotateLeft position else return t

/-- Where a place comes in the order of a trip. -/
def positionOf? (t : Trip) (place : Nat) : Option Nat := t.order.findIdx? (· == place)

/-- The trip read so that `place` comes last, if it is on the trip. -/
def toBack (t : Trip) (place : Nat) : Call Trip :=
  match t.positionOf? place with
  | some position => t.rotateLeft (position + 1)
  | none => return t

end Trip

namespace Grid

/-- The nearest place where a tour has not been, with its distance, after one more place. -/
def closer (g : Grid) (visited : List Bool) (current : Nat) (next? : Option (Nat × Float))
    (place : Nat) : Call (Option (Nat × Float)) := do
  if ← Call.member visited place then
    return next?
  else
    let distance ← g.distance current place
    return challenge (fun best next => next.2 < best.2) next? (place, distance)

/-- The nearest place where a tour has not been, with its distance, the first of several. -/
def nearest? (g : Grid) (visited : List Bool) (current : Nat) : Call (Option (Nat × Float)) :=
  (List.range g.size).foldlM (g.closer visited current) none

/-- A tour is grown until it has been everywhere. -/
def grow (g : Grid) (t : Trail) : Call Trail :=
  if t.order.length < g.size then do
    match ← g.nearest? t.visited t.current with
    | none => return t
    | some (place, distance) =>
      let visited ← Call.replace t.visited place true
      g.grow ⟨t.order ++ [place], visited, place, t.travelled + distance⟩
  else return t
termination_by g.size - t.order.length
decreasing_by
  rw [List.length_append, List.length_singleton]
  omega

/-- The nearest-neighbour tour from a place. -/
def tourFrom (g : Grid) (start : Nat) : Call Trip := do
  let visited ← Call.replace (List.replicate g.size false) start true
  let trail ← g.grow ⟨[start], visited, start, 0⟩
  let closing ← g.distance trail.current start
  return ⟨trail.order, trail.travelled + closing⟩

/-- The shortest tour, the first of several. -/
def bestTour? (g : Grid) (forbidden : List Nat) : Call (Option Trip) :=
  if g.size < 2 then return none
  else
    ((List.range g.size).filter fun i => !forbidden.contains i).foldlM
      (fun best? start => do
        let trip ← g.tourFrom start
        return challenge (fun best trip => trip.total < best.total) best? trip)
      none

/-- The flags of the places where a tour has been, which are those that are not left. -/
def flags (left : Fin n → Bool) : List Bool := List.ofFn fun k => !left k

end Grid

/-! ## Trips of tours -/

namespace Trip

variable (t : Tour n)

theorem rotateLeft_ofTour {k : Nat} (h : k ≤ t.order.length) :
    (ofTour t).rotateLeft k = .reply (ofTour { t with order := Tour.rotate k t.order }) := by
  have inside : k ≤ (ofTour t).order.length := (List.length_map _).symm ▸ h
  rw [rotateLeft, if_pos inside]
  simp only [ofTour, Tour.rotate, List.map_append, List.map_drop, List.map_take]
  rfl

theorem toFront_ofTour (position : Nat) :
    (ofTour t).toFront position = .reply (ofTour (t.toFront position)) := by
  rw [toFront, Tour.toFront]
  have same : (ofTour t).order.length = t.order.length := List.length_map _
  rw [same]
  split
  · next inside => exact rotateLeft_ofTour t inside.le
  · rfl

theorem positionOf?_ofTour (place : Nat) : (ofTour t).positionOf? place = t.positionOf? place :=
  List.findIdx?_map ..

theorem toBack_ofTour (place : Nat) :
    (ofTour t).toBack place = .reply (ofTour (t.toBack place)) := by
  rw [toBack, Tour.toBack, positionOf?_ofTour]
  cases found : t.positionOf? place with
  | none => rfl
  | some position =>
    obtain ⟨inside, -⟩ := List.findIdx?_eq_some_iff_getElem.1 found
    exact rotateLeft_ofTour t inside

end Trip

/-! ## Growing tours -/

namespace Grid

variable (m : Matrix n) {left : Fin n → Bool}

theorem member_flags (left : Fin n → Bool) (k : Fin n) :
    Call.member (flags left) k = .reply (!left k) :=
  Call.member_eq_reply (by simp [flags])

theorem replace_flags (left : Fin n → Bool) (j : Fin n) :
    Call.replace (flags left) j true = .reply (flags fun k => left k && k != j) := by
  rw [Call.replace_eq_reply (by simp [flags])]
  refine congrArg Call.reply (List.ext_getElem (by simp [flags]) fun k _ _ => ?_)
  obtain ⟨j, hj⟩ := j
  simp only [flags, List.getElem_set, List.getElem_ofFn]
  by_cases same : j = k
  · simp [same]
  · simp [same, Ne.symm same]

theorem erase_filter (left : Fin n → Bool) (j : Fin n) :
    ((List.finRange n).filter left).erase j =
      (List.finRange n).filter fun k => left k && k != j := by
  have nodup : ((List.finRange n).filter left).Nodup := (List.nodup_finRange n).filter _
  rw [nodup.erase_eq_filter, List.filter_filter]
  exact List.filter_congr fun k _ => Bool.and_comm ..

/-- The scan finds the nearest of the places which are left. -/
theorem nearest?_ofMatrix (left : Fin n → Bool) (i : Fin n) :
    (ofMatrix m).nearest? (flags left) i =
      .reply ((m.nearest? i ((List.finRange n).filter left)).map fun j => (j.val, m.get i j)) := by
  let view (next? : Option (Fin n)) : Option (Nat × Float) :=
    next?.map fun j => (j.val, m.get i j)
  have step (k : Fin n) (next? : Option (Fin n)) :
      (ofMatrix m).closer (flags left) i (view next?) k = .reply (view (if left k then
        challenge (fun best j => decide (m.get i j < m.get i best)) next? k else next?)) := by
    rw [closer, member_flags, Call.reply_bind]
    cases left k with
    | false => rfl
    | true =>
      rw [Bool.not_true, if_neg Bool.false_ne_true, distance_ofMatrix, Call.reply_bind, if_pos rfl]
      exact congrArg Call.reply (challenge_map (fun j => (j.val, m.get i j)) _ next? k)
  rw [nearest?, size_ofMatrix, ← List.map_coe_finRange_eq_range, Matrix.nearest?,
    champion?_eq_foldl, List.foldl_filter]
  exact Call.foldlM_reply view Fin.val (fun k _ => step k) none

/-- A tour which has been to all places but those that are left is grown to the end. -/
theorem grow_ofMatrix (home : Fin n) {steps : Nat}
    (hsteps : ((List.finRange n).filter left).length = steps) (order : List Nat)
    (horder : order.length + steps = n) (i : Fin n) (travelled : Float) :
    let grown := m.growFrom home steps i travelled ((List.finRange n).filter left)
    ∃ (last : Fin n) (visited : List Bool) (along : Float),
      (ofMatrix m).grow ⟨order, flags left, i, travelled⟩ =
        .reply ⟨order ++ grown.1.map (·.val), visited, last, along⟩ ∧
      along + m.get last home = grown.2 := by
  -- The steps that are to come are as many as the places which are left, so the tour has been
  -- everywhere when there are no more of either.
  induction steps generalizing left order i travelled with
  | zero =>
    have full : ¬order.length < n := by omega
    refine ⟨i, flags left, travelled, ?_, rfl⟩
    rw [grow, size_ofMatrix, if_neg full, Matrix.growFrom, List.map_nil, List.append_nil]
    rfl
  | succ steps ih =>
    have room : order.length < n := by omega
    rw [grow, size_ofMatrix, if_pos room, nearest?_ofMatrix, Call.reply_bind, Matrix.growFrom]
    cases hj : m.nearest? i ((List.finRange n).filter left) with
    | none =>
      refine ⟨i, flags left, travelled, ?_, rfl⟩
      rw [List.map_nil, List.append_nil]
      rfl
    | some j =>
      have fewer : ((List.finRange n).filter fun k => left k && k != j).length = steps := by
        rw [← erase_filter, List.length_erase_of_mem (mem_of_champion? hj), hsteps]
        rfl
      obtain ⟨last, visited, along, grown, total⟩ := ih fewer (order ++ [j.val])
        (by rw [List.length_append, List.length_singleton]; omega) j (travelled + m.get i j)
      refine ⟨last, visited, along, ?_, ?_⟩
      · dsimp only [Option.map_some]
        rw [replace_flags, Call.reply_bind, grown, erase_filter, List.map_cons,
          List.append_assoc]
        rfl
      · rw [total, ← erase_filter]

/-- Growing a tour never goes out of range, and gives the nearest-neighbour tour. -/
theorem tourFrom_ofMatrix (home : Fin n) :
    (ofMatrix m).tourFrom home = .reply (Trip.ofTour (m.nearestNeighbour home)) := by
  let left (k : Fin n) : Bool := true && k != home
  have nowhere : List.replicate n false = flags fun _ : Fin n => true := by
    rw [flags, List.ofFn_const]
    rfl
  have places : (List.finRange n).erase home = (List.finRange n).filter left := by
    rw [← erase_filter, List.filter_true]
  have count : 1 + ((List.finRange n).filter left).length = n := by
    rw [← places, List.length_erase_of_mem (List.mem_finRange home), List.length_finRange]
    have := home.isLt
    omega
  obtain ⟨last, visited, along, grown, total⟩ :=
    grow_ofMatrix m home rfl [home.val] count home 0
  rw [tourFrom, size_ofMatrix, nowhere, replace_flags, Call.reply_bind, grown, Call.reply_bind,
    distance_ofMatrix, Call.reply_bind, total, Matrix.nearestNeighbour, places]
  rfl

/-- Finding the best tour never goes out of range either. -/
theorem bestTour?_ofMatrix (forbidden : List Nat) :
    (ofMatrix m).bestTour? forbidden = .reply ((m.bestTour? forbidden).map Trip.ofTour) := by
  have starts : (List.range n).filter (fun i => !forbidden.contains i) =
      (Matrix.permittedStarts n forbidden).map Fin.val := by
    rw [← List.map_coe_finRange_eq_range, List.filter_map]
    rfl
  rw [bestTour?, Matrix.bestTour?, size_ofMatrix]
  split
  · rfl
  · rw [starts, champion?_eq_foldl, List.foldl_map]
    refine Call.foldlM_reply (Option.map Trip.ofTour) Fin.val (fun home _ best? => ?_) none
    rw [tourFrom_ofMatrix, Call.reply_bind]
    exact congrArg Call.reply (challenge_map Trip.ofTour _ best? _)

end Grid

end Astrogation
