import Astrogation.Ranking
import Astrogation.Resolver.Basic

/-!
# Mission destinations

The queries whose answer leads to a single system of the missions. Each gathers
candidates from the missions that are active, in the order of the missions, and
chooses one by its distance from the start, the first of equally good ones:

* *nearest* and *farthest* among the destinations;
* *most* among the destinations that the most missions share;
* *expiring* among the destinations of the mission which expires first and has
  one that the atlas knows;
* *source* among the origins to which missions have to return.

The answer carries the numbers of the missions which the system serves.
-/

namespace Astrogation

namespace Mission

/-- The names of the destinations of active missions. -/
def destinationNames (missions : List Mission) : List String :=
  distinctNames ((active missions).flatMap (·.destinations))

/-- The numbers of the active missions which have a system among their
    destinations. -/
def idsBoundFor (missions : List Mission) (system : String) : List MissionId :=
  idsWhere (active missions) (·.hasDestination system)

/-- The names of the systems to which active missions have to return. -/
def returnNames (missions : List Mission) : List String :=
  distinctNames (((active missions).filter (·.returnToOrigin)).map (·.origin))

/-- The numbers of the active missions which have to return to a system. -/
def idsReturningTo (missions : List Mission) (system : String) : List MissionId :=
  idsWhere (active missions) (·.returnsTo system)

/-- The names of the destinations which the most active missions share. -/
def busiestNames (missions : List Mission) : List String :=
  let names := destinationNames missions
  let traffic (name : String) : Nat := (idsBoundFor missions name).length
  let most := (names.map traffic).foldl max 0
  names.filter fun name => traffic name == most

/-- The active missions which expire and have destinations, those which expire
    first in front. -/
def byExpiry (missions : List Mission) : List Mission :=
  let expiring := (active missions).filterMap fun m =>
    if m.destinations.isEmpty then none else m.expiry.map fun t => (t, m)
  (ranked (fun a b => a.1.notAfter b.1) expiring).map (·.2)

end Mission

/-- Which end of the distances is chosen. -/
inductive Extreme where
  | nearest
  | farthest
  deriving DecidableEq

/-- Whether the best distance so far yields to another. -/
def Extreme.yields : Extreme → (best other : Float) → Bool
  | nearest, best, other => compareDistance other best == .lt
  | farthest, best, other => compareDistance other best == .gt

/-- The nearest or farthest of some candidates. -/
def chooseByDistance (start : Waypoint) (policy : UnknownDistance) (extreme : Extreme)
    (candidates : List Waypoint) : Option Waypoint :=
  let measured := candidates.filterMap fun w => (policy.apply (start.distance? w)).map (·, w)
  (champion? (fun best other => extreme.yields best.1 other.1) measured).map (·.2)

/-- The answer which leads to a system of missions. -/
def Answer.ofMissions (type : QueryType) (start destination : Waypoint) (ids : List MissionId) :
    Answer :=
  let stop := { destination with isMissionSystem := true, missionIds := ids }
  { Answer.ofRoute type (.toDestination start stop) ids.length with missionIds := ids }

namespace Resolver

/-- The nearest or farthest destination of the active missions. -/
def byDistance (type : QueryType) (extreme : Extreme) : Resolver where
  type
  resolve _ start ctx := do
    let names := Mission.destinationNames ctx.missions
    if names.isEmpty then return none
    let candidates ← ctx.systemsNamed names
    return (chooseByDistance start .exclude extreme candidates).map fun found =>
      .ofMissions type start found (Mission.idsBoundFor ctx.missions found.systemName)

/-- The nearest destination of the active missions. -/
def nearest : Resolver := byDistance .nearest .nearest

/-- The farthest destination of the active missions. -/
def farthest : Resolver := byDistance .farthest .farthest

/-- The destination which the most active missions share. -/
def most : Resolver where
  type := .most
  resolve _ start ctx := do
    let names := Mission.busiestNames ctx.missions
    if names.isEmpty then return none
    let candidates ← ctx.systemsNamed names
    return (chooseByDistance start .asZero .nearest candidates).map fun found =>
      .ofMissions .most start found (Mission.idsBoundFor ctx.missions found.systemName)

/-- The destination of the first of some missions which has one that is known. -/
def firstReachable (start : Waypoint) (ctx : Context) :
    List Mission → Consultation (Option Waypoint)
  | [] => pure none
  | m :: rest => do
    let candidates ← ctx.systemsNamed m.destinations
    match chooseByDistance start .asZero .nearest candidates with
    | some found => return some found
    | none => firstReachable start ctx rest

/-- The destination of the mission which expires first. -/
def expiring : Resolver where
  type := .expiring
  resolve _ start ctx := do
    let found? ← firstReachable start ctx (Mission.byExpiry ctx.missions)
    return found?.map fun found =>
      .ofMissions .expiring start found (Mission.idsBoundFor ctx.missions found.systemName)

/-- The nearest origin to which an active mission has to return. -/
def source : Resolver where
  type := .source
  resolve _ start ctx := do
    let names := Mission.returnNames ctx.missions
    if names.isEmpty then return none
    let candidates ← ctx.systemsNamed names
    return (chooseByDistance start .exclude .nearest candidates).map fun found =>
      .ofMissions .source start found (Mission.idsReturningTo ctx.missions found.systemName)

end Resolver

end Astrogation
