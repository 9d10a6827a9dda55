import Astrogation.Answer
import Astrogation.Navigator.Memory
import Astrogation.Resolver.Consultation
import Astrogation.Route.Continuity
import Astrogation.Route.Distance
import Astrogation.Traveller

/-!
# Resolvers

A `Resolver` answers the queries of one type. It is given the query, the system
to start from and what it may consult (`Context`), and comes to an answer, to
none, or breaks down.

All routes begin with the start, marked as visited. They lead to a single
destination (`Route.toDestination`) or along a plot (`Route.alongPlot`).
-/

namespace Astrogation

/-- What a resolver may consult. -/
structure Context where
  atlas : Atlas
  traveller : Traveller
  missions : List Mission
  config : Config

/-- What answers the queries of one type. -/
structure Resolver where
  type : QueryType
  resolve : Query → (start : Waypoint) → Context → Consultation (Option Answer)

namespace Context

variable (ctx : Context)

/-- The system of a name. -/
def systemNamed (name : String) : Consultation (Option Waypoint) :=
  .ofCall (ctx.atlas.systemNamed name)

/-- The systems of several names, unknown ones skipped. -/
def systemsNamed (names : List String) : Consultation (List Waypoint) :=
  .inquire (.systems names) (ctx.atlas.systemsNamed names)

/-- The station of a name in the system of a name. -/
def stationNamed (system station : String) : Consultation (Option Station) :=
  .ofCall (ctx.atlas.stationNamed system station)

/-- The nearest match to a system. -/
def nearest (start : Waypoint) (filter : SearchFilter) : Consultation (Option SearchMatch) :=
  .inquire (.nearest filter start) (ctx.atlas.nearest start filter)

/-- The plot that is requested. -/
def plot (request : PlotRequest) : Consultation (Option (List Waypoint)) :=
  .inquire (.plot request) (ctx.atlas.plot request)

/-- The ship of the traveller. -/
def ship : Consultation (Option Ship) := .ofCall ctx.traveller.ship

/-- How far the traveller jumps: what the query says, or else what their ship
    does. -/
def jumpRange (query : Query) : Consultation (Option Float) :=
  match query.numeric with
  | some range => pure (some range)
  | none => return (← ctx.ship).map (·.jumpRange)

end Context

namespace Route

variable {α : Type} [Scalar α]

/-- The route from a start to a destination, which is left out if it is in the
    same system. -/
def toDestination (start destination : Waypoint α) : Route α :=
  let rest := if start.sameSystem destination then [] else [destination]
  ({ waypoints := start.intoVisited :: rest, origin := start.position? } : Route α).stamped

/-- The route from a start along a plot, whether or not the plot begins with the
    start. -/
def alongPlot (start : Waypoint α) (plot : List (Waypoint α)) : Route α :=
  let rest := plot.dropWhile (·.sameSystem start)
  ({ waypoints := start.intoVisited :: rest, origin := start.position? } : Route α).distinct.stamped

end Route

/-- The answer with a route whose legs are counted. -/
def Answer.ofJumps (type : QueryType) (route : Route) : Answer := .ofRoute type route route.jumps

end Astrogation
