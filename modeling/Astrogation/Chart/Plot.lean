import Astrogation.Atlas.Table
import Astrogation.Chart.Search

/-!
# Plots on a chart

A route of several jumps is plotted greedily: if the goal is in range it is the
next hop, and otherwise the system in range which is closest to the goal, provided
that it is closer than the last hop and has not been visited. A ship which leaves
a neutron star jumps four times as far.

Every hop but the goal is a system of the chart which was not visited before, so
a plot has no more hops than the chart has systems.
-/

namespace Astrogation

/-- How far the hops of a plot may reach. -/
structure JumpRange where
  /-- In light-years. -/
  base : Float
  /-- Whether neutron stars help. -/
  boosted : Bool

/-- How many times farther a ship jumps from a neutron star. -/
def neutronBoost : Float := 4

/-- How far a fleet carrier jumps, in light-years. -/
def carrierJumpRange : Float := 500

/-- How far a jump from a system may reach. -/
def JumpRange.leaving (r : JumpRange) (s : StarSystem) : Float :=
  if r.boosted && s.neutron then r.base * neutronBoost else r.base

namespace Chart

/-- The systems in range which are closer to the goal, except those visited. -/
def progress (c : Chart) (goal : StarSystem) (position : Position) (range : Float)
    (visited : List Address) : List StarSystem :=
  let remaining := position.distanceTo goal.position
  ((c.withinRadius position range).map (·.system)).filter fun s =>
    !visited.contains s.address && s.position.distanceTo goal.position < remaining

/-- The next hop towards a goal. -/
def nextHop? (c : Chart) (goal : StarSystem) (position : Position) (range : Float)
    (visited : List Address) : Option StarSystem :=
  if position.distanceTo goal.position ≤ range then some goal
  else
    champion?
      (fun best s =>
        yieldsTo (best.position.distanceTo goal.position) (s.position.distanceTo goal.position))
      (c.progress goal position range visited)

/-- The hops to a goal from a position, at most `hops` of them. -/
def hopsFrom? (c : Chart) (jumps : JumpRange) (goal : StarSystem) :
    (hops : Nat) → Position → (range : Float) → (visited : List Address) → Option (List StarSystem)
  | 0, _, _, _ => none
  | hops + 1, position, range, visited =>
    (c.nextHop? goal position range visited).bind fun next =>
      if next.address == goal.address then some [next]
      else
        (c.hopsFrom? jumps goal hops next.position (jumps.leaving next)
          (next.address :: visited)).map (next :: ·)

/-- The plot to a goal. A start which is on the chart is taken from there, and a
    start which is the goal is the whole plot. -/
def plotTo? (c : Chart) (jumps : JumpRange) (start : Waypoint) (goal : StarSystem) :
    Option (List Waypoint) :=
  start.position?.bind fun position =>
    let hops := c.hopsFrom? jumps goal c.systems.length position
    match start.address.bind c.systemAt? with
    | some s =>
      if s.address == goal.address then some [s.waypoint]
      else
        (hops (jumps.leaving s) [s.address]).map fun rest =>
          s.waypoint :: rest.map StarSystem.waypoint
    | none => (hops jumps.base []).map fun rest => start :: rest.map StarSystem.waypoint

/-- The plot that is requested. -/
def plot? (c : Chart) (request : PlotRequest) : Option (List Waypoint) :=
  (c.find? request.destination).bind fun goal =>
    match request with
    | .neutron start _ jumpRange =>
      if jumpRange ≤ 0 then none else c.plotTo? ⟨jumpRange, true⟩ start goal
    | .carrier start _ _ => c.plotTo? ⟨carrierJumpRange, false⟩ start goal

/-- The atlas which answers from a chart. -/
def atlas (c : Chart) : Atlas where
  systemNamed name := .reply ((c.find? name).map StarSystem.waypoint)
  systemAt address := .reply ((c.systemAt? address).map StarSystem.waypoint)
  stationNamed system station := .reply (c.stationNamed? system station)
  stationOf market := .reply (c.stationOf? market)
  nearest start filter := .reply (c.nearestMatch? start filter)
  plot request := .reply (c.plot? request)

end Chart

end Astrogation
