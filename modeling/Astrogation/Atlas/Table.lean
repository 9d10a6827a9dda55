import Astrogation.Call
import Astrogation.Station.Basic

/-!
# Atlases

An `Atlas` is what the galaxy is asked: it looks up systems and stations, searches
for the nearest of a kind, and plots routes of several jumps.

The simplest one knows only what a table gives it (`AtlasTable.atlas`): systems
and stations, which it finds by comparing names without regard to case, routes by
their destination, and matches by what is searched for.
-/

namespace Astrogation

/-- A route to be plotted. -/
inductive PlotRequest where
  /-- By way of neutron stars, for a ship which jumps this far. -/
  | neutron (start : Waypoint) (destination : String) (jumpRange : Float)
  /-- For a fleet carrier; what it carries only matters for its fuel. -/
  | carrier (start : Waypoint) (destination : String) (usedCapacity : UInt32)

/-- The name of the system that a route is to lead to. -/
def PlotRequest.destination : PlotRequest → String
  | neutron _ destination _ | carrier _ destination _ => destination

/-- What the galaxy is asked. -/
structure Atlas where
  /-- The system of a name. -/
  systemNamed : String → Call (Option Waypoint)
  /-- The systems of several names, unknown ones skipped. -/
  systemsNamed : List String → Call (List Waypoint) := Call.gather systemNamed
  /-- The system of an address. -/
  systemAt : Address → Call (Option Waypoint)
  /-- The station of a name in the system of a name. -/
  stationNamed : (system station : String) → Call (Option Station)
  /-- The station of a market. -/
  stationOf : MarketId → Call (Option Station)
  /-- The nearest match to a system. -/
  nearest : Waypoint → SearchFilter → Call (Option SearchMatch)
  /-- A route of several jumps which begins with the system it starts from. -/
  plot : PlotRequest → Call (Option (List Waypoint))

/-- A question to an atlas for more than a single system or station. -/
inductive Inquiry where
  | systems (names : List String)
  | nearest (filter : SearchFilter) (start : Waypoint)
  | plot (request : PlotRequest)

/-! ## Tables -/

/-- Known systems, stations, routes and matches. -/
structure AtlasTable where
  systems : List Waypoint := []
  stations : List Station := []
  plots : List (String × List Waypoint) := []
  found : List (SearchCategory × SearchMatch) := []

namespace AtlasTable

/-- The first system of a name. -/
def system? (t : AtlasTable) (name : String) : Option Waypoint :=
  t.systems.find? fun w => Text.sameIgnoringCase w.systemName name

/-- The atlas which answers from a table. -/
def atlas (t : AtlasTable) : Atlas where
  systemNamed name := .reply (t.system? name)
  systemAt address := .reply (t.systems.find? (·.hasAddress address))
  stationNamed system station := .reply (t.stations.find? (·.isNamed system station))
  stationOf market := .reply (t.stations.find? (·.marketId == some market))
  nearest _ filter := .reply (t.found.lookup filter.category)
  plot request := .reply (t.plots.lookup request.destination)

end AtlasTable

end Astrogation
