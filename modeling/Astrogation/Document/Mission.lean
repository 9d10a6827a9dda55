import Astrogation.Json.Record
import Astrogation.Mission.Basic

/-!
# Documents of missions
-/

namespace Astrogation

open Json

namespace MissionStatus

/-- All statuses. -/
def all : List MissionStatus := [active, complete, failed, claim]

/-- The name of a status. -/
def name : MissionStatus → String
  | active => "active"
  | complete => "complete"
  | failed => "failed"
  | claim => "claim"

def toJson (s : MissionStatus) : Json := string s.name

def ofJson? (value : Json) : Option MissionStatus :=
  (choice? value).bind fun name => all.find? (·.name == name)

end MissionStatus

/-- The moment that a string gives. -/
def Calendar.Instant.ofJson? : Json → Option Instant
  | string text => read? text
  | _ => none

def Calendar.Instant.toJson (t : Instant) : Json := string t.text

namespace Mission

def toJson (m : Mission) : Json :=
  object <|
    [("id", ofInt64 m.id), ("name", string m.name), ("status", m.status.toJson),
      ("origin_system", string m.origin), ("return_to_origin", bool m.returnToOrigin),
      ("destination_systems", array (m.destinations.map string))] ++
    member? "expiry" Calendar.Instant.toJson m.expiry ++
    [("route_eligible", bool m.routeEligible)]

def ofJson? (value : Json) : Option Mission := do
  let m ← record?
    ["id", "name", "status", "origin_system", "return_to_origin", "destination_systems", "expiry",
      "route_eligible"] value
  some
    { id := ← required? m "id" toInt64?
      name := ← defaulted? m "name" "" toString?
      status := ← defaulted? m "status" .active MissionStatus.ofJson?
      origin := ← required? m "origin_system" toString?
      returnToOrigin := ← defaulted? m "return_to_origin" false toBool?
      destinations := ← defaulted? m "destination_systems" [] (listOf? toString?)
      expiry := ← optional? m "expiry" Calendar.Instant.ofJson?
      routeEligible := ← defaulted? m "route_eligible" true toBool? }

end Mission

end Astrogation
