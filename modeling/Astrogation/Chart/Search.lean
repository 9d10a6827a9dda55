import Astrogation.Chart.Basic

/-!
# Searches on a chart

The systems within a radius are found in two steps. The index, in single
precision, gives the candidates: those within a radius which is a little larger, as
rounding may move systems out of it (`Chart.candidates`). Of these the systems whose
distance is within the radius are kept, the nearest first (`Chart.withinRadius`).

The index is a k-d tree which is not part of this library. In its place stands what
it is to find: all systems that pass the test at its leaves.

The nearest star to scoop fuel from and the nearest station with a service are
the best of all that qualify, the first of equally good ones.
-/

namespace Astrogation

/-- A system in the surroundings of a point: its place on the chart and its
    distance from the point. -/
structure Neighbour where
  index : Nat
  system : StarSystem
  distance : Float

/-- A station that a search may choose, the system it is in and the distance of
    that system. -/
structure StationCandidate where
  station : Station
  system : StarSystem
  distance : Float

namespace Chart

/-- What is added to a radius before the index is asked, in light-years. -/
def radiusMargin : Float := 1e-3

/-- The square of the radius that the index is asked for. -/
def widenedSquare (radius : Float) : Float32 :=
  Decimal.toSingle ((radius + radiusMargin) * (radius + radiusMargin))

/-- The systems which the index finds within a radius of a point. This stands for the
    search in its tree, of which it is assumed that it passes over no branch with a
    system in it that qualifies: it finds the systems whose squared distance, all of
    it computed in single precision, is no more than the square of the widened radius,
    and no others. The order in which it finds them is of no account, as they are
    ranked afterwards. -/
def candidates (c : Chart) (point : Position) (radius : Float) : List (StarSystem × Nat) :=
  let center := SinglePoint.ofPosition point
  let bound := widenedSquare radius
  c.systems.zipIdx.filter fun (s, _) =>
    center.squaredDistance (SinglePoint.ofPosition s.position) ≤ bound

/-- The systems within a radius of a point, the nearest first; at equal
    distances, in the order of the chart. -/
def withinRadius (c : Chart) (point : Position) (radius : Float) : List Neighbour :=
  if radius < 0 then []
  else
    let measured := (c.candidates point radius).map fun (s, i) =>
      Neighbour.mk i s (point.distanceTo s.position)
    ranked (fun a b => a.distance ≤ b.distance) (measured.filter (·.distance ≤ radius))

/-- Whether the best distance so far yields to another. -/
def yieldsTo (best other : Float) : Bool := compareDistance best other == .gt

/-- The nearest system whose star fuel can be scooped from, within a radius if
    there is one. -/
def nearestScoopable? (c : Chart) (point : Position) : (radius : Option Float) → Option StarSystem
  | some radius => ((c.withinRadius point radius).find? (·.system.scoopable)).map (·.system)
  | none =>
    champion?
      (fun best s => yieldsTo (point.distanceTo best.position) (point.distanceTo s.position))
      (c.systems.filter (·.scoopable))

/-- The stations which a search accepts, with the systems they are in. -/
def stationCandidates (c : Chart) (point : Position) (filter : SearchFilter) :
    List StationCandidate :=
  let found := (c.stations.filter filter.accepts).filterMap fun station =>
    (c.find? station.systemName).map fun system =>
      StationCandidate.mk station system (point.distanceTo system.position)
  found.filter fun candidate => withinBound candidate.distance filter.maxRadius

/-- The order of preference: by the distance of the system, then stations in orbit
    if they are preferred, then by the distance from the star of arrival. -/
def compareStations (preferOrbital : Bool) (a b : StationCandidate) : Ordering :=
  (compareDistance a.distance b.distance).then <|
    (if preferOrbital then compare a.station.planetary b.station.planetary else .eq).then <|
      compareDistance a.station.arrivalDistance b.station.arrivalDistance

/-- The best station that a search accepts. -/
def nearestStation? (c : Chart) (point : Position) (filter : SearchFilter) :
    Option StationCandidate :=
  champion? (fun best s => compareStations filter.preferOrbital best s == .gt)
    (c.stationCandidates point filter)

/-- The match for a search from a system whose coordinates are complete. -/
def nearestMatch? (c : Chart) (start : Waypoint) (filter : SearchFilter) : Option SearchMatch :=
  start.position?.bind fun point =>
    match filter.category with
    | .scoopableStar =>
      (c.nearestScoopable? point filter.maxRadius).map fun s => ⟨s.waypoint, none⟩
    | .facility _ =>
      (c.nearestStation? point filter).map fun found =>
        ⟨found.system.waypoint.atStation found.station.name found.station.marketId,
          some found.station.arrivalDistance⟩

end Chart

end Astrogation
