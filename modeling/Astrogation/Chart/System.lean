import Astrogation.Decimal.BinaryParts
import Astrogation.Space.Waypoint
import Astrogation.Text.Basic
import Astrogation.Text.Lower

/-!
# The systems of a chart

A chart records a star system with its name, its address, its position and the
kind of its star. It is found under its name in lower case, and indexed by its
position in single precision.
-/

namespace Astrogation

/-- A star system on a chart. -/
structure StarSystem where
  name : String
  address : Address
  position : Position
  /-- Fuel can be scooped from its star. -/
  scoopable : Bool := false
  /-- Its star is a neutron star. -/
  neutron : Bool := false
  deriving BEq, Repr

namespace StarSystem

/-- What a system is entered under. -/
def key (s : StarSystem) : String := Text.lower s.name

/-- What is looked up for a name. -/
def lookupKey (name : String) : String := Text.lower (Text.trim name)

/-- A system as a stop. -/
def waypoint (s : StarSystem) : Waypoint :=
  { systemName := s.name
    address := some s.address
    coordinates := s.position.coordinates
    isScoopable := s.scoopable
    hasNeutronStar := s.neutron }

@[simp]
theorem address_waypoint (s : StarSystem) : s.waypoint.address = some s.address := rfl

@[simp]
theorem systemName_waypoint (s : StarSystem) : s.waypoint.systemName = s.name := rfl

@[simp]
theorem coordinates_waypoint (s : StarSystem) :
    s.waypoint.coordinates = s.position.coordinates := rfl

@[simp]
theorem position?_waypoint (s : StarSystem) : s.waypoint.position? = some s.position := rfl

end StarSystem

/-- A point in single precision. -/
structure SinglePoint where
  x : Float32
  y : Float32
  z : Float32

/-- The point nearest to a position. -/
def SinglePoint.ofPosition (p : Position) : SinglePoint :=
  ⟨Decimal.toSingle p.x, Decimal.toSingle p.y, Decimal.toSingle p.z⟩

namespace SinglePoint

/-- Whether two points are the same. -/
def same (p q : SinglePoint) : Bool := p.x == q.x && p.y == q.y && p.z == q.z

/-- The square of the distance between two points. -/
def squaredDistance (p q : SinglePoint) : Float32 :=
  let dx := p.x - q.x
  let dy := p.y - q.y
  let dz := p.z - q.z
  dx * dx + dy * dy + dz * dz

end SinglePoint

end Astrogation
