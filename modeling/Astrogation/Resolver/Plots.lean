import Astrogation.Decimal.BinaryParts
import Astrogation.Resolver.Basic

/-!
# Plots and single stars

The queries of the galaxy: the nearest star to scoop fuel from, a route by way of
neutron stars, and a route straight to a system or to a station in it. Fleet
carriers have routes of their own, to the system of the first argument or else the
one of the last time.

Two more queries manage the plotted route: *cancel* is answered by an empty route,
and *update* by the plotted route with the stops up to the current system marked as
visited.
-/

namespace Astrogation.Resolver

/-- The nearest star that fuel can be scooped from, within the numeric argument
    or else one jump. -/
def scoop : Resolver where
  type := .scoop
  resolve query start ctx := do
    let radius ← ctx.jumpRange query
    let found? ← ctx.nearest start { category := .scoopableStar, maxRadius := radius }
    return found?.map fun found => .ofJumps .scoop (.toDestination start found.waypoint)

/-- The route by way of neutron stars to the first argument. -/
def neutron : Resolver where
  type := .neutron
  resolve query start ctx := do
    match query.first? with
    | none => return none
    | some destination =>
      match ← ctx.jumpRange query with
      | none => return none
      | some range =>
        let plot? ← ctx.plot (.neutron start destination range)
        return plot?.map fun plot => .ofJumps .neutron (.alongPlot start plot)

/-- The route straight to the system of the first argument, and there to the
    station of the second. A station that is not known is only named. -/
def set : Resolver where
  type := .set
  resolve query start ctx := do
    match query.first? with
    | none => return none
    | some system =>
      match ← ctx.systemNamed system with
      | none => return none
      | some found =>
        let destination ←
          match query.second? with
          | none => pure found
          | some name => do
            match ← ctx.stationNamed system name with
            | some station => pure (found.atStation station.name station.marketId)
            | none => pure (found.atStation name none)
        return some (.ofJumps .set (.toDestination start destination))

/-- What a carrier is taken to carry: the numeric argument, rounded, if it is a
    number that is not negative, and otherwise what is known. -/
def usedCapacity (query : Query) (ctx : Context) : Consultation UInt32 :=
  let known : Consultation UInt32 := do
    let carrier ← .ofCall ctx.traveller.carrier
    return (carrier.map (·.usedCapacity)).getD 0
  match query.numeric with
  | some value =>
    if value.isFinite && 0 ≤ value then
      pure (UInt32.ofNat (Decimal.toNatural (UInt32.size - 1) value))
    else known
  | none => known

/-- The route of a fleet carrier. -/
def carrier : Resolver where
  type := .carrier
  resolve query start ctx := do
    match query.first?.or ctx.config.lastCarrierDestination with
    | none => return none
    | some destination =>
      let capacity ← usedCapacity query ctx
      let plot? ← ctx.plot (.carrier start destination capacity)
      return plot?.map fun plot => .ofJumps .carrier (.alongPlot start plot)

/-! ## Progress along the plotted route -/

/-- The empty route. -/
def cancel : Resolver where
  type := .cancel
  resolve _ _ _ := return some (.ofRoute .cancel {} 0)

/-- The number of stops which are still ahead. -/
def stopsAhead (route : Route) : Nat := (route.waypoints.filter (!·.visited)).length

/-- The plotted route, visited up to the current system. -/
def update : Resolver where
  type := .update
  resolve _ start ctx := do
    let updated? := do (← ctx.config.plottedRoute).markVisitedThrough? (← start.address)
    return updated?.map fun updated => .ofRoute .update updated (stopsAhead updated)

end Astrogation.Resolver
