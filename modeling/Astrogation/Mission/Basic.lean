import Astrogation.Calendar.Instant
import Astrogation.Space.Waypoint

/-!
# Missions

A mission has an origin and destinations, any one of which satisfies it, and may
have to return to its origin. Its systems are given by name, and recognised
whatever the case of the letters.
-/

namespace Astrogation

/-- How far a mission has come. -/
inductive MissionStatus where
  | active
  | complete
  | failed
  | claim
  deriving DecidableEq, Repr

/-- A mission. -/
structure Mission where
  id : MissionId
  name : String := ""
  status : MissionStatus := .active
  origin : String
  /-- It is complete only after travelling back to the origin. -/
  returnToOrigin : Bool := false
  /-- The systems to choose from. -/
  destinations : List String := []
  expiry : Option Calendar.Instant := none
  /-- Whether it takes part in mission circuits. -/
  routeEligible : Bool := true
  deriving DecidableEq, Repr

namespace Mission

/-- Whether the mission is still to be carried out. -/
def isActive (m : Mission) : Bool := m.status == .active

/-- Whether a system is one of the destinations. -/
def hasDestination (m : Mission) (system : String) : Bool :=
  m.destinations.any (Text.sameIgnoringCase · system)

/-- Whether a system is the origin. -/
def hasOrigin (m : Mission) (system : String) : Bool := Text.sameIgnoringCase m.origin system

/-- Whether the mission has to return to this system. -/
def returnsTo (m : Mission) (system : String) : Bool := m.returnToOrigin && m.hasOrigin system

/-- Whether stopping in a system serves the mission. -/
def isServedBy (m : Mission) (system : String) : Bool :=
  m.hasDestination system || m.returnsTo system

/-- The missions which are active. -/
def active (missions : List Mission) : List Mission := missions.filter isActive

/-- The numbers of the missions with a property. -/
def idsWhere (missions : List Mission) (holds : Mission → Bool) : List MissionId :=
  (missions.filter holds).map (·.id)

/-- The numbers of the active missions which stopping in a system serves. -/
def idsServedBy (missions : List Mission) (system : String) : List MissionId :=
  idsWhere (active missions) (·.isServedBy system)

/-- Names with one more at their end, unless they have it already but for the
    case of its letters. -/
def insertName (names : List String) (name : String) : List String :=
  if names.any (Text.sameIgnoringCase · name) then names else names ++ [name]

/-- Names, of several which differ in case only the first. -/
def distinctNames (names : List String) : List String := names.foldl insertName []

end Mission

end Astrogation
