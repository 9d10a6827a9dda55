import Astrogation.Query.Basic
import Astrogation.Route.Basic

/-!
# Answers

The answer to a query is a route, its target and a count. The target is the first
stop of the route that is not visited yet, or the last one; what the count
measures depends on the type of the query.
-/

namespace Astrogation

/-- The answer to a query. -/
structure Answer where
  type : QueryType
  system : Option String := none
  station : Option String := none
  address : Option Address := none
  marketId : Option MarketId := none
  route : Route
  /-- Stops of a mission circuit, legs of a plotted route, missions served by a
      single destination, or light-seconds from the star of arrival. -/
  count : Nat
  missionIds : List MissionId := []
  /-- The length of a mission circuit with its closing leg, which the route
      itself does not have. -/
  circuitLength : Option Float := none

/-- The stop that an answer with this route points to. -/
def Route.target? {α : Type} (r : Route α) : Option (Waypoint α) :=
  r.nextUnvisited?.or r.destination?

namespace Answer

/-- The answer which points to the target of a route. -/
def ofRoute (type : QueryType) (route : Route) (count : Nat) : Answer :=
  let target := route.target?
  { type, route, count
    system := target.map (·.systemName)
    station := target.bind (·.stationName)
    address := target.bind (·.address)
    marketId := target.bind (·.marketId)
    missionIds := (target.map (·.missionIds)).getD [] }

/-- What the count of a plotted route or circuit is: stops of a circuit, legs of
    any other. -/
def measure (type : QueryType) (route : Route) : Nat :=
  if type == .route then route.size else route.jumps

/-- The answer of the same type that a stored route gives. The length of the
    circuit belonged to the route it takes the place of, and is dropped. -/
def withRoute (a : Answer) (route : Route) : Answer := ofRoute a.type route (measure a.type route)

end Answer

end Astrogation
