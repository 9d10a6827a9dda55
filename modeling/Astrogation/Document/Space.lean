import Astrogation.Json.Record
import Astrogation.Route.Basic

/-!
# Documents of positions, waypoints and routes

How positions, coordinates, waypoints and routes stand in JSON. A waypoint has its
coordinates among its own members, so it is always an object, and all its members
have to be readable, also those it does not know.
-/

namespace Astrogation

open Json

def Position.toJson (p : Position) : Json :=
  object [("x", float p.x), ("y", float p.y), ("z", float p.z)]

def Position.ofJson? (value : Json) : Option Position := do
  let m ← record? ["x", "y", "z"] value
  some
    { x := ← required? m "x" toFloat?
      y := ← required? m "y" toFloat?
      z := ← required? m "z" toFloat? }

/-- The members of coordinates, `null` for an axis that is not known. -/
def Coordinates.members (c : Coordinates) : List (String × Json) :=
  [("x", ofOption float c.x), ("y", ofOption float c.y), ("z", ofOption float c.z)]

def Coordinates.toJson (c : Coordinates) : Json := object c.members

/-- The coordinates among the members of an object. -/
def Coordinates.ofMembers? (m : List (String × Json)) : Option Coordinates := do
  some
    { x := ← optional? m "x" toFloat?
      y := ← optional? m "y" toFloat?
      z := ← optional? m "z" toFloat? }

/-- The coordinates that a value gives; an array has to have all three. -/
def Coordinates.ofJson? : Json → Option Coordinates
  | object m => ofMembers? m
  | array [x, y, z] => ofMembers? [("x", x), ("y", y), ("z", z)]
  | _ => none

namespace Waypoint

def toJson (w : Waypoint) : Json :=
  object <|
    ("system_name", string w.systemName) :: member? "system_address" ofUInt64 w.address ++
    w.coordinates.members ++
    ("visited", bool w.visited) :: member? "station_name" string w.stationName ++
    member? "market_id" ofUInt64 w.marketId ++
    listMember? "mission_ids" ofInt64 w.missionIds ++
    [("is_mission_system", bool w.isMissionSystem), ("is_scoopable", bool w.isScoopable),
      ("has_neutron_star", bool w.hasNeutronStar),
      ("refuel_recommended", bool w.refuelRecommended)] ++
    member? "distance_from_start" float w.fromStart ++
    member? "distance_travelled" float w.travelled ++
    member? "distance_remaining" float w.remaining

/-- The waypoint that the members of an object give. -/
def ofMembers? (m : List (String × Json)) : Option Waypoint := do
  some
    { systemName := ← required? m "system_name" toString?
      address := ← optional? m "system_address" toUInt64?
      coordinates := ← Coordinates.ofMembers? m
      visited := ← defaulted? m "visited" false toBool?
      stationName := ← optional? m "station_name" toString?
      marketId := ← optional? m "market_id" toUInt64?
      missionIds := ← defaulted? m "mission_ids" [] (listOf? toInt64?)
      isMissionSystem := ← defaulted? m "is_mission_system" false toBool?
      isScoopable := ← defaulted? m "is_scoopable" false toBool?
      hasNeutronStar := ← defaulted? m "has_neutron_star" false toBool?
      refuelRecommended := ← defaulted? m "refuel_recommended" false toBool?
      fromStart := ← optional? m "distance_from_start" toFloat?
      travelled := ← optional? m "distance_travelled" toFloat?
      remaining := ← optional? m "distance_remaining" toFloat? }

def ofJson? : Json → Option Waypoint
  | object m => if allMembersReadable m then ofMembers? m else none
  | _ => none

end Waypoint

namespace Route

def toJson (r : Route) : Json :=
  object <|
    ("waypoints", array (r.waypoints.map Waypoint.toJson)) ::
      member? "origin" Position.toJson r.origin

def ofJson? (value : Json) : Option Route := do
  let m ← record? ["waypoints", "origin"] value
  some
    { waypoints := ← required? m "waypoints" (listOf? Waypoint.ofJson?)
      origin := ← optional? m "origin" Position.ofJson? }

end Route

end Astrogation
