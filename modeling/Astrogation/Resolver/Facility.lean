import Astrogation.Decimal.BinaryParts
import Astrogation.Resolver.Basic

/-!
# Facilities

The queries for a service are answered by the nearest station which offers it and
has a pad for the ship of the traveller. How far a station may be from its star of
arrival, and whether stations in orbit come first, is said by the arguments or
else by the configuration.
-/

namespace Astrogation

/-- How far a station may be from its star of arrival: the numeric argument if it
    is a positive number, and otherwise what is configured. -/
def maxArrivalDistance (query : Query) (config : Config) : Float :=
  match query.numeric with
  | some limit => if limit.isFinite && 0 < limit then limit else config.maxStationDistance
  | none => config.maxStationDistance

/-- The search for a station with a service. -/
def facilityFilter (service : Service) (query : Query) (config : Config) (pad : Option Pad) :
    SearchFilter where
  category := .facility service
  maxArrivalDistance := some (maxArrivalDistance query config)
  pad
  preferOrbital := query.flag.getD config.prioritizeOrbital

/-- The distance from the star of arrival in whole light-seconds. -/
def SearchMatch.lightSeconds (found : SearchMatch) : Nat :=
  (found.arrivalDistance.map (Decimal.toNatural (UInt64.size - 1))).getD 0

/-- The answer which leads to a station. It names the station also if that is in
    the system of the start. -/
def Answer.ofStation (type : QueryType) (start : Waypoint) (found : SearchMatch) : Answer :=
  { Answer.ofRoute type (.toDestination start found.waypoint) found.lightSeconds with
    station := found.waypoint.stationName
    marketId := found.waypoint.marketId }

namespace Resolver

/-- The nearest station with a service. -/
def facility (type : QueryType) (service : Service) : Resolver where
  type
  resolve query start ctx := do
    let ship ← ctx.ship
    let filter := facilityFilter service query ctx.config (ship.map (·.pad))
    let found? ← ctx.nearest start filter
    return found?.map (Answer.ofStation type start)

/-- The resolver for a type of query that looks for a service. -/
def facility? (type : QueryType) : Option Resolver := type.service?.map (facility type)

end Resolver

end Astrogation
