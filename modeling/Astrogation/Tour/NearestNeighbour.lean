import Astrogation.Ranking
import Astrogation.Tour.Basic

/-!
# Nearest-neighbour tours

From a start, a nearest-neighbour tour goes on to the nearest place it has not
been to, the first of several, until it has been everywhere (`nearestNeighbour`).
How good it is depends on the start, so a tour is grown from every start that is
permitted and the shortest is taken, the first of several (`bestTour?`).
-/

namespace Astrogation.Matrix

variable {α : Type} [Scalar α] {n : Nat}

/-- The nearest of some places to `i`, the first of several. -/
def nearest? (m : Matrix n α) (i : Fin n) (places : List (Fin n)) : Option (Fin n) :=
  champion? (fun best j => decide (m.get i j < m.get i best)) places

/-- The places a tour goes on to from `i` while some of `places` are left, and
    its length after `travelled` when it has returned to `home`. It makes at most
    `steps` steps. -/
def growFrom (m : Matrix n α) (home : Fin n) :
    (steps : Nat) → (i : Fin n) → (travelled : α) → (places : List (Fin n)) → List (Fin n) × α
  | 0, i, travelled, _ => ([], travelled + m.get i home)
  | steps + 1, i, travelled, places =>
    match m.nearest? i places with
    | none => ([], travelled + m.get i home)
    | some j =>
      let (rest, total) := m.growFrom home steps j (travelled + m.get i j) (places.erase j)
      (j :: rest, total)

/-- The nearest-neighbour tour from `home` through all places. -/
def nearestNeighbour (m : Matrix n α) (home : Fin n) : Tour n α :=
  let places := (List.finRange n).erase home
  let (rest, total) := m.growFrom home places.length home 0 places
  ⟨home :: rest, total⟩

/-- The places from which a tour may start. -/
def permittedStarts (n : Nat) (forbidden : List Nat) : List (Fin n) :=
  (List.finRange n).filter fun i => !forbidden.contains i.val

/-- The shortest nearest-neighbour tour from a permitted start, the first of
    several; none if there are fewer than two places. -/
def bestTour? (m : Matrix n α) (forbidden : List Nat) : Option (Tour n α) :=
  if n < 2 then none
  else
    champion? (fun best tour => decide (tour.total < best.total))
      ((permittedStarts n forbidden).map m.nearestNeighbour)

end Astrogation.Matrix
