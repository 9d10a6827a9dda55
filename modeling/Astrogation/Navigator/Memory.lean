import Astrogation.Answer
import Astrogation.Route.Continuity

/-!
# What is remembered

A `Config` holds what is remembered from one query to the next, and how stations
are searched for. An answer that is given is remembered (`Config.remember`): the
query unless it manages the plotted route, and the route. A fresh answer whose
type is checked for continuity is first compared with the route that is remembered
for it, which stays unless the fresh one takes its place (`Config.settle`).
-/

namespace Astrogation

/-- What is remembered between queries. -/
structure Config where
  lastQuery : Option QueryType := none
  lastArg0 : Option String := none
  lastArg1 : Option String := none
  lastCarrierDestination : Option String := none
  plottedRoute : Option Route := none
  /-- The type of the query that `plottedRoute` answered. -/
  plottedQuery : Option QueryType := none
  carrierRoute : Option Route := none
  /-- How far a station may be from the star of arrival, in light-seconds. -/
  maxStationDistance : Float := 10000
  /-- Whether, in the same system, stations in orbit come first. -/
  prioritizeOrbital : Bool := false
  deriving BEq, Repr

namespace Config

/-- The route which may answer a query of this type in place of a fresh one. -/
def storedRoute? (c : Config) (type : QueryType) : Option Route :=
  if type.isContinuityChecked then
    if type == .carrier then c.carrierRoute
    else if c.plottedQuery.any type.isContinuousWith then c.plottedRoute
    else none
  else none

/-- The answer that is given: the fresh one, or the one that the stored route
    gives if that stays. -/
def settle (c : Config) (type : QueryType) (fresh : Answer) : Answer :=
  match c.storedRoute? type with
  | some stored => if fresh.route.supersedes stored then fresh else fresh.withRoute stored
  | none => fresh

/-- The configuration with a query as the last one, unless it manages the plotted
    route. -/
def rememberQuery (c : Config) (query : Query) : Config :=
  if query.type.group?.isSome then
    { c with
      lastQuery := some query.type
      lastArg0 := query.first?
      lastArg1 := query.second? }
  else c

/-- The configuration with the route that answers a query. -/
def rememberRoute (c : Config) (query : Query) (route : Route) : Config :=
  match query.type with
  | .carrier =>
    { c with
      lastCarrierDestination := query.first?.or c.lastCarrierDestination
      carrierRoute := some route }
  | .cancel => { c with plottedRoute := none, plottedQuery := none }
  | .update => { c with plottedRoute := some route }
  | type => { c with plottedRoute := some route, plottedQuery := some type }

/-- The configuration after a query has been answered by a route. -/
def remember (c : Config) (query : Query) (route : Route) : Config :=
  (c.rememberQuery query).rememberRoute query route

end Config

end Astrogation
