import Astrogation.Space.Position
import Astrogation.Text.Basic

/-!
# Waypoints

A `Waypoint` is a stop of a route: a star system, perhaps a station in it, and
what a route records about stopping there. Two waypoints are in the same system
if their addresses agree; where one has no address their names decide, whatever
the case of their letters.
-/

namespace Astrogation

/-- The number which identifies a star system. -/
abbrev Address := UInt64

/-- The number which identifies the market of a station. -/
abbrev MarketId := UInt64

/-- The number of a mission. -/
abbrev MissionId := Int64

/-- A stop of a route. -/
structure Waypoint (α : Type := Float) where
  systemName : String
  address : Option Address := none
  coordinates : Coordinates α := {}
  visited : Bool := false
  stationName : Option String := none
  marketId : Option MarketId := none
  /-- The missions which stopping here serves. -/
  missionIds : List MissionId := []
  isMissionSystem : Bool := false
  isScoopable : Bool := false
  hasNeutronStar : Bool := false
  refuelRecommended : Bool := false
  /-- The distance from the origin of the route, in a straight line. -/
  fromStart : Option α := none
  /-- The length of the legs up to here. -/
  travelled : Option α := none
  /-- The length of the legs from here. -/
  remaining : Option α := none
  deriving BEq, Repr

namespace Waypoint

variable {α : Type}

/-- A waypoint marked as visited. -/
def intoVisited (w : Waypoint α) : Waypoint α := { w with visited := true }

/-- A waypoint narrowed to a station. -/
def atStation (w : Waypoint α) (station : String) (market : Option MarketId) : Waypoint α :=
  { w with stationName := some station, marketId := market }

/-- Whether a waypoint is known to have this address. -/
def hasAddress (w : Waypoint α) (address : Address) : Bool := w.address == some address

/-- Whether two waypoints are in the same system. -/
def sameSystem (w v : Waypoint α) : Bool :=
  match w.address, v.address with
  | some a, some b => a == b
  | _, _ => Text.sameIgnoringCase w.systemName v.systemName

/-- The position of a waypoint, if its coordinates are complete. -/
def position? (w : Waypoint α) : Option (Position α) := w.coordinates.position?

/-- The distance between two waypoints, if the coordinates of both are complete. -/
def distance? [Scalar α] (w v : Waypoint α) : Option α := w.coordinates.distance? v.coordinates

/-- The length of the leg between two waypoints, zero if it is not known. -/
def leg [Scalar α] (w v : Waypoint α) : α := w.coordinates.leg v.coordinates

theorem sameSystem_comm (w v : Waypoint α) : w.sameSystem v = v.sameSystem w := by
  unfold sameSystem
  cases w.address <;> cases v.address <;> simp [Text.sameIgnoringCase_comm, Bool.beq_comm]

theorem sameSystem_refl (w : Waypoint α) : w.sameSystem w = true := by
  unfold sameSystem
  cases w.address <;> simp [Text.sameIgnoringCase_refl]

end Waypoint

end Astrogation
