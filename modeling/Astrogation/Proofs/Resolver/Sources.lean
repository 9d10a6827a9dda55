import Astrogation.Proofs.Chart.Plot
import Astrogation.Proofs.Resolver.Answers
import Astrogation.Resolver.Registry

/-!
# Where the routes of answers come from

A built-in resolver answers with a route to a waypoint that the atlas has told of, along a plot of
the atlas, or around a circuit through waypoints that it has told of; or it manages the plotted
route (`Resolver.responds_of_builtIn`). What all routes have in common is shown for these cases.
-/

namespace Astrogation

/-- The waypoints that an atlas tells of when it is asked for systems, or for the nearest match to
    a start. -/
inductive Atlas.Tells (atlas : Atlas) (start : Waypoint) : Waypoint → Prop
  | named {name : String} {w : Waypoint} (reply : atlas.systemNamed name = .reply (some w)) :
    atlas.Tells start w
  | among {names : List String} {ws : List Waypoint} {w : Waypoint}
    (reply : atlas.systemsNamed names = .reply ws) (mem : w ∈ ws) : atlas.Tells start w
  | nearest {filter : SearchFilter} {found : SearchMatch}
    (reply : atlas.nearest start filter = .reply (some found)) : atlas.Tells start found.waypoint

namespace Resolver

open Consultation

/-- What a built-in resolver for a type of query answers. -/
inductive Responds (type : QueryType) (start : Waypoint) (ctx : Context) (answer : Answer) : Prop
  /-- The destination may have been narrowed to a station, or serve missions. -/
  | leads {found destination : Waypoint} (told : ctx.atlas.Tells start found)
    (route : answer.route = .toDestination start destination)
    (visited : destination.visited = found.visited)
    (coordinates : destination.coordinates = found.coordinates)
  | plots {request : PlotRequest} {plot : List Waypoint} (starts : request.start = start)
    (reply : ctx.atlas.plot request = .reply (some plot))
    (route : answer.route = .alongPlot start plot)
  | circles {missions : List Mission} {systems : List Waypoint} {home : Option Waypoint}
    (told : ∀ w ∈ systems, ctx.atlas.Tells start w)
    (toldHome : ∀ w ∈ home, ctx.atlas.Tells start w)
    (planned : Circuit.plan? missions start systems home = some answer)
  | cancels (type : type = .cancel) (route : answer.route = {})
  | updates {plotted : Route} {address : Address} (type : type = .update)
    (stored : ctx.config.plottedRoute = some plotted)
    (marked : plotted.markVisitedThrough? address = some answer.route)

variable {query : Query} {start : Waypoint} {ctx : Context} {answer : Answer} {type : QueryType}

theorem FromMissions.responds (h : FromMissions type start ctx answer) (type' : QueryType) :
    Responds type' start ctx answer := by
  obtain ⟨names, candidates, found, ids, reply, among, rfl⟩ := h
  exact .leads (.among reply among) rfl rfl rfl

theorem responds_of_circuit (h : (circuit.resolve query start ctx).outcome = .ok (some answer)) :
    Responds .route start ctx answer := by
  obtain ⟨systems, hsystems, h⟩ := outcome_bind_eq_ok_iff.1 h
  have told : ∀ w ∈ systems, ctx.atlas.Tells start w :=
    fun w hw => .among (outcome_inquire_eq_ok_iff.1 hsystems) hw
  dsimp only at h
  split at h
  · obtain ⟨home, hhome, h⟩ := outcome_bind_eq_ok_iff.1 h
    refine .circles told (fun w hw => ?_) (outcome_pure_eq_ok_iff.1 h)
    obtain rfl := Option.mem_def.1 hw
    exact .named (outcome_ofCall_eq_ok_iff.1 hhome)
  · obtain ⟨home, hhome, h⟩ := outcome_bind_eq_ok_iff.1 h
    obtain rfl := outcome_pure_eq_ok_iff.1 hhome
    exact .circles told (fun w hw => absurd hw (Option.not_mem_none w)) (outcome_pure_eq_ok_iff.1 h)

/-- Where the route comes from that a built-in resolver answers with. -/
theorem responds_of_builtIn {resolver : Resolver} (builtIn : resolver ∈ Registry.builtIn)
    (h : (resolver.resolve query start ctx).outcome = .ok (some answer)) :
    Responds resolver.type start ctx answer := by
  rcases List.mem_append.1 builtIn with builtIn | builtIn
  · simp only [List.mem_cons, List.not_mem_nil, or_false] at builtIn
    rcases builtIn with rfl | rfl | rfl | rfl | rfl | rfl | rfl | rfl | rfl | rfl | rfl | rfl
    · -- scoop
      obtain ⟨filter, found, reply, rfl⟩ := answer_scoop h
      exact .leads (.nearest reply) rfl rfl rfl
    · -- neutron
      obtain ⟨destination, range, plot, -, -, reply, rfl⟩ := answer_neutron h
      exact .plots rfl reply rfl
    · -- set
      obtain ⟨system, found, destination, reply, narrowed, rfl⟩ := answer_set h
      rcases narrowed with rfl | ⟨station, market, rfl⟩
      · exact .leads (.named reply) rfl rfl rfl
      · exact .leads (.named reply) rfl rfl rfl
    · exact (answer_expiring h).responds _
    · exact (answer_byDistance h).responds _
    · exact (answer_most h).responds _
    · exact (answer_byDistance h).responds _
    · exact responds_of_circuit h
    · exact (answer_source h).responds _
    · -- carrier
      obtain ⟨destination, capacity, plot, -, reply, rfl⟩ := answer_carrier h
      exact .plots rfl reply rfl
    · -- cancel
      rw [answer_cancel h]
      exact .cancels rfl rfl
    · -- update
      obtain ⟨plotted, address, updated, stored, -, marked, rfl⟩ := answer_update h
      exact .updates rfl stored marked
  · obtain ⟨type, -, hfacility⟩ := List.mem_filterMap.1 builtIn
    obtain ⟨service, -, rfl⟩ := Option.map_eq_some_iff.1 hfacility
    obtain ⟨filter, found, reply, rfl⟩ := answer_facility h
    exact .leads (.nearest reply) rfl rfl rfl

end Resolver

end Astrogation
