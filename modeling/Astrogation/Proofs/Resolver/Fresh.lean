import Astrogation.Proofs.Circuit.Plan
import Astrogation.Proofs.Resolver.Sources

/-!
# Fresh answers

With a chart, a built-in resolver answers with a fresh route, unless it manages the
plotted route (`fresh_of_builtIn`): what a chart finds or plots has not been visited, and
each of the ways in which routes are built marks the start, and nothing else.
-/

namespace Astrogation

variable {c : Chart} {query : Query} {start : Waypoint} {answer : Answer} {type : QueryType}
  {traveller : Traveller} {missions : List Mission} {config : Config}

/-! ## What a chart replies -/

namespace Chart

theorem visited_of_systemNamed {name : String} {w : Waypoint}
    (h : c.atlas.systemNamed name = .reply (some w)) : w.visited = false := by
  obtain ⟨s, -, rfl⟩ := Option.map_eq_some_iff.1 (Call.reply.inj h)
  exact s.visited_waypoint

theorem visited_of_systemsNamed {names : List String} {ws : List Waypoint}
    (h : c.atlas.systemsNamed names = .reply ws) : ∀ w ∈ ws, w.visited = false := by
  have replied : c.atlas.systemsNamed names = _ :=
    Call.gather_reply (fun name => (c.find? name).map StarSystem.waypoint) names
  intro w hw
  rw [← Call.reply.inj (replied.symm.trans h)] at hw
  obtain ⟨name, -, found⟩ := List.mem_filterMap.1 hw
  exact visited_of_systemNamed (congrArg Call.reply found)

theorem visited_of_tells {w : Waypoint} (h : c.atlas.Tells start w) : w.visited = false := by
  cases h with
  | named reply => exact visited_of_systemNamed reply
  | among reply mem => exact visited_of_systemsNamed reply w mem
  | nearest reply => exact visited_of_nearestMatch? (Call.reply.inj reply)

/-- Past the stops at the start, nothing on a plot has been visited. -/
theorem visited_of_plotTo? {jumps : JumpRange} {goal : StarSystem} {plot : List Waypoint}
    (h : c.plotTo? jumps start goal = some plot) :
    ∀ w ∈ plot.dropWhile (·.sameSystem start), w.visited = false := by
  have systems (ss : List StarSystem) : ∀ w ∈ ss.map StarSystem.waypoint, w.visited = false := by
    intro w hw
    obtain ⟨s, -, rfl⟩ := List.mem_map.1 hw
    exact s.visited_waypoint
  obtain ⟨position, -, h⟩ := Option.bind_eq_some_iff.1 h
  split at h
  · next s _ =>
    -- The start is on the chart, and taken from there.
    have onChart : ∀ w ∈ plot, w.visited = false := by
      split at h
      · cases h
        exact systems [s]
      · obtain ⟨rest, -, rfl⟩ := Option.map_eq_some_iff.1 h
        exact systems (s :: rest)
    exact fun w hw => onChart w ((List.dropWhile_sublist _).subset hw)
  · obtain ⟨rest, -, rfl⟩ := Option.map_eq_some_iff.1 h
    intro w hw
    rw [List.dropWhile_cons, if_pos start.sameSystem_refl] at hw
    exact systems rest w ((List.dropWhile_sublist _).subset hw)

theorem visited_of_plot {request : PlotRequest} {plot : List Waypoint}
    (h : c.atlas.plot request = .reply (some plot)) :
    ∀ w ∈ plot.dropWhile (·.sameSystem request.start), w.visited = false := by
  obtain ⟨goal, -, h⟩ := Option.bind_eq_some_iff.1 (Call.reply.inj h)
  cases request with
  | neutron start destination jumpRange =>
    dsimp only at h
    split at h
    · cases h
    · exact visited_of_plotTo? h
  | carrier start destination capacity => exact visited_of_plotTo? h

end Chart

/-! ## What resolvers answer -/

namespace Resolver

/-- With a chart, a built-in resolver which does not manage the plotted route answers
    with a fresh route. -/
theorem fresh_of_builtIn {resolver : Resolver} (builtIn : resolver ∈ Registry.builtIn)
    (cancels : resolver.type ≠ .cancel) (updates : resolver.type ≠ .update)
    (h : (resolver.resolve query start ⟨c.atlas, traveller, missions, config⟩).outcome =
      .ok (some answer)) : answer.route.Fresh := by
  cases responds_of_builtIn builtIn h with
  | leads told route visited =>
    rw [route]
    exact Route.fresh_toDestination (visited.trans (Chart.visited_of_tells told))
  | plots starts reply route =>
    rw [route]
    exact Route.fresh_alongPlot (starts ▸ Chart.visited_of_plot reply)
  | circles told toldHome planned =>
    exact Circuit.fresh_of_plan? (fun w hw => Chart.visited_of_tells (told w hw))
      (fun w hw => Chart.visited_of_tells (toldHome w hw)) planned
  | cancels type => exact absurd type cancels
  | updates type => exact absurd type updates

theorem eq_update_of_builtIn {resolver : Resolver} (builtIn : resolver ∈ Registry.builtIn)
    (updates : resolver.type = .update) : resolver = update := by
  rcases List.mem_append.1 builtIn with builtIn | builtIn
  · simp only [List.mem_cons, List.not_mem_nil, or_false] at builtIn
    rcases builtIn with rfl | rfl | rfl | rfl | rfl | rfl | rfl | rfl | rfl | rfl | rfl | rfl
    case inr.inr.inr.inr.inr.inr.inr.inr.inr.inr.inr => rfl
    all_goals exact absurd updates (by decide)
  · obtain ⟨type, -, hfacility⟩ := List.mem_filterMap.1 builtIn
    obtain ⟨service, offered, rfl⟩ := Option.map_eq_some_iff.1 hfacility
    obtain rfl : type = .update := updates
    cases offered

end Resolver

/-! ## The registry -/

namespace Registry

theorem mem_of_register {g : Registry} {r s : Resolver}
    (h : ((g.register r).toOption.getD g).get? type = some s) : g.get? type = some s ∨ s = r := by
  rw [register] at h
  split at h
  · exact .inl h
  · rw [Except.toOption, Option.getD_some, get?_insert] at h
    split at h
    · exact .inr (Option.some.inj h).symm
    · exact .inl h

/-- A registry of some resolvers has no others. -/
theorem mem_of_ofResolvers {resolvers : List Resolver} {s : Resolver}
    (h : (ofResolvers resolvers).get? type = some s) : s ∈ resolvers := by
  induction resolvers using List.reverseRecOn with
  | nil => cases h
  | append_singleton resolvers r ih =>
    rw [ofResolvers, List.foldl_append] at h
    rcases mem_of_register h with h | rfl
    · exact List.mem_append_left [r] (ih h)
    · exact List.mem_append_right resolvers List.mem_cons_self

end Registry

end Astrogation
