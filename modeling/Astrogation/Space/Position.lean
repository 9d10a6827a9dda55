/-!
# Positions

A `Position` is a point of space, in light-years. What is reported of a system
may lack axes: its `Coordinates` determine a position only if they are complete,
and there is a distance only between complete ones. A ranking which meets a
candidate without a distance either drops it or takes it to be adjacent
(`UnknownDistance`).

Everything that measures positions, routes and tours is defined over any scalars
(`Scalar`), so that it may be read over the floating-point numbers it is computed
with, and over the real numbers that these stand for.
-/

namespace Astrogation

/-- Numbers which can be added, multiplied, compared and given a square root. -/
class Scalar (α : Type) extends Zero α, Add α, Sub α, Mul α, LT α where
  sqrt : α → α
  decidableLt : DecidableLT α

instance Scalar.instDecidableLT {α : Type} [s : Scalar α] : DecidableLT α := s.decidableLt

instance : Scalar Float where
  sqrt := Float.sqrt
  decidableLt := inferInstance

/-- A point of space. -/
structure Position (α : Type := Float) where
  x : α
  y : α
  z : α
  deriving BEq, Repr

/-- The coordinates known of a system. -/
structure Coordinates (α : Type := Float) where
  x : Option α := none
  y : Option α := none
  z : Option α := none
  deriving BEq, Repr

/-- The coordinates of a position, all known. -/
def Position.coordinates {α : Type} (p : Position α) : Coordinates α := ⟨some p.x, some p.y, some p.z⟩

/-- The position that complete coordinates determine. -/
def Coordinates.position? {α : Type} (c : Coordinates α) : Option (Position α) :=
  match c with
  | ⟨some x, some y, some z⟩ => some ⟨x, y, z⟩
  | _ => none

@[simp]
theorem Position.position?_coordinates {α : Type} (p : Position α) :
    p.coordinates.position? = some p := rfl

variable {α : Type} [Scalar α]

/-- The straight-line distance between two positions. -/
def Position.distanceTo (p q : Position α) : α :=
  let dx := p.x - q.x
  let dy := p.y - q.y
  let dz := p.z - q.z
  Scalar.sqrt (dx * dx + dy * dy + dz * dz)

/-- The distance between two systems, if the coordinates of both are complete. -/
def Coordinates.distance? (c d : Coordinates α) : Option α :=
  match c.position?, d.position? with
  | some p, some q => some (p.distanceTo q)
  | _, _ => none

/-- What a ranking makes of a distance that is not known. -/
inductive UnknownDistance where
  /-- The candidate is dropped. -/
  | exclude
  /-- The candidate counts as adjacent. -/
  | asZero
  deriving DecidableEq, Repr

/-- The distance a candidate is ranked by. -/
def UnknownDistance.apply (policy : UnknownDistance) : Option α → Option α
  | some d => some d
  | none =>
    match policy with
    | exclude => none
    | asZero => some 0

/-- The length of a leg between two systems, zero if it is not known. -/
def Coordinates.leg (c d : Coordinates α) : α := (c.distance? d).getD 0

/-- The order in which distances are ranked. -/
def compareDistance (a b : Float) : Ordering :=
  if a < b then .lt else if a == b then .eq else .gt

end Astrogation
