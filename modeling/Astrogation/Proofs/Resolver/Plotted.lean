import Astrogation.Proofs.Chart.Plot
import Astrogation.Proofs.Resolver.Answers
import Astrogation.Proofs.Route.Sound

/-!
# Plotted routes

What is plotted from a system of the chart is a plan, and plotting comes to an end by
itself; the route along a plan has exactly the stops of the plan, in this order
(`Chart.map_bare_alongPlot`). Hence so have the routes by way of neutron stars and of
fleet carriers, whose answers count the hops (`Chart.plotting_sound`).
-/

namespace Astrogation

namespace Chart

variable {c : Chart} {jumps : JumpRange} {start goal : StarSystem} {stops : List StarSystem}
  {request : PlotRequest}

/-! ## Plots are plans -/

/-- From a system of the chart to another, what `plotTo?` gives is what plotting comes
    to. -/
theorem plots_plotTo? (jumps : JumpRange) (hstart : start ∈ c.systems)
    (hgoal : goal ∈ c.systems) :
    ∃ stops?, c.Plots jumps goal start stops? ∧
      c.plotTo? jumps start.waypoint goal = stops?.map (List.map StarSystem.waypoint) := by
  rw [plotTo?, start.position?_waypoint, start.address_waypoint, Option.bind_some,
    Option.bind_some, systemAt?_eq_some_iff.2 ⟨hstart, rfl⟩]
  dsimp only
  split
  · next here => exact ⟨_, .here (beq_iff_eq.1 here), rfl⟩
  · next away =>
    refine ⟨_, plots_of_away hgoal fun same => away (beq_iff_eq.2 same), ?_⟩
    rw [Option.map_map]
    rfl

/-- What is plotted is what plotting comes to, unless the range is not positive. -/
theorem plots_plot? (hstart : start ∈ c.systems) (from_start : request.start = start.waypoint)
    (hgoal : c.find? request.destination = some goal) :
    ∃ stops?, c.Plots request.jumps goal start stops? ∧
      (c.plot? request = stops?.map (List.map StarSystem.waypoint) ∨
        request.jumps.base ≤ 0 ∧ c.plot? request = none) := by
  have onChart := (find?_eq_some_iff.1 hgoal).1
  rw [plot?, hgoal, Option.bind_some]
  cases request with
  | neutron w destination jumpRange =>
    obtain rfl : w = start.waypoint := from_start
    obtain ⟨stops?, plots, plotted⟩ := plots_plotTo? ⟨jumpRange, true⟩ hstart onChart
    refine ⟨stops?, plots, ?_⟩
    dsimp only
    split
    · next refused => exact .inr ⟨refused, rfl⟩
    · exact .inl plotted
  | carrier w destination capacity =>
    obtain rfl : w = start.waypoint := from_start
    obtain ⟨stops?, plots, plotted⟩ :=
      plots_plotTo? ⟨carrierJumpRange, false⟩ hstart onChart
    exact ⟨stops?, plots, .inl plotted⟩

theorem isPlan_of_plot? (hstart : start ∈ c.systems) (from_start : request.start = start.waypoint)
    {plan : List Waypoint} (h : c.plot? request = some plan) :
    ∃ goal stops, c.find? request.destination = some goal ∧
      plan = stops.map StarSystem.waypoint ∧ c.IsPlan request.jumps goal start stops := by
  obtain ⟨goal, hgoal, -⟩ := Option.bind_eq_some_iff.1 h
  obtain ⟨stops?, plots, plotted | ⟨-, refused⟩⟩ := plots_plot? hstart from_start hgoal
  · rw [plotted] at h
    obtain ⟨stops, hstops, rfl⟩ := Option.map_eq_some_iff.1 h
    exact ⟨goal, stops, hgoal, rfl,
      plots.isPlan (find?_eq_some_iff.1 hgoal).1 hstart hstops⟩
  · rw [refused] at h
    cases h

/-! ## Routes along plans -/

/-- The route along a plan has the stops of the plan. -/
theorem map_bare_alongPlot (plan : c.IsPlan jumps goal start stops) :
    (Route.alongPlot start.waypoint (stops.map StarSystem.waypoint)).waypoints.map Waypoint.bare =
      stops.map StarSystem.waypoint := by
  have apart := nodup_addresses_map_waypoint plan.onChart plan.nodup
  have known : ∀ w ∈ stops.map StarSystem.waypoint, w.address.isSome := by
    intro w hw
    obtain ⟨s, -, rfl⟩ := List.mem_map.1 hw
    rfl
  obtain ⟨rest, rfl⟩ := List.head?_eq_some_iff.1 plan.begins
  rw [List.map_cons] at known apart ⊢
  rw [Route.map_bare_alongPlot known apart, List.map_cons, List.map_map]
  rfl

/-- The route of an answer, and its count, are those of a plan. -/
theorem answer_alongPlot (hstart : start ∈ c.systems) (type : QueryType)
    (from_start : request.start = start.waypoint) {plan : List Waypoint}
    (h : c.plot? request = some plan) :
    let answer := Answer.ofJumps type (.alongPlot start.waypoint plan)
    answer.route.waypoints.map Waypoint.bare = plan ∧ answer.count + 1 = plan.length := by
  obtain ⟨goal, stops, -, rfl, hplan⟩ := isPlan_of_plot? hstart from_start h
  have same := map_bare_alongPlot hplan
  have size : (Route.alongPlot start.waypoint (stops.map StarSystem.waypoint)).size =
      stops.length := by
    rw [Route.size, ← List.length_map Waypoint.bare, same, List.length_map]
  have some_stop : 0 < stops.length :=
    List.length_pos_of_mem (List.mem_of_mem_head? (Option.mem_def.2 hplan.begins))
  refine ⟨same, ?_⟩
  show Route.jumps _ + 1 = _
  rw [Route.jumps, size, List.length_map]
  exact Nat.sub_add_cancel some_stop

/-- From a system of the chart, plotting comes to an end by itself, and what it gives is
    a plan: it begins with the start and ends with the system that is looked up for the
    destination, nowhere twice, each hop within the range available where it leaves, and
    each but the last closer to the destination. The routes by way of neutron stars and
    of fleet carriers have exactly the stops of what is plotted for them, and count its
    hops. -/
theorem plotting_sound (hstart : start ∈ c.systems) :
    (∀ request : PlotRequest, request.start = start.waypoint →
      (∀ goal, c.find? request.destination = some goal →
        ∃ stops?, c.Plots request.jumps goal start stops? ∧
          (c.plot? request = stops?.map (List.map StarSystem.waypoint) ∨
            request.jumps.base ≤ 0 ∧ c.plot? request = none)) ∧
      ∀ plan, c.plot? request = some plan →
        ∃ goal stops, c.find? request.destination = some goal ∧
          plan = stops.map StarSystem.waypoint ∧ c.IsPlan request.jumps goal start stops) ∧
    ∀ (traveller : Traveller) (missions : List Mission) (config : Config) (query : Query)
        (answer : Answer),
      let ctx : Context := ⟨c.atlas, traveller, missions, config⟩
      ((Resolver.neutron.resolve query start.waypoint ctx).outcome = .ok (some answer) →
        ∃ destination range plan, query.first? = some destination ∧
          (ctx.jumpRange query).outcome = .ok (some range) ∧
          c.plot? (.neutron start.waypoint destination range) = some plan ∧
          answer.route.waypoints.map Waypoint.bare = plan ∧ answer.count + 1 = plan.length) ∧
      ((Resolver.carrier.resolve query start.waypoint ctx).outcome = .ok (some answer) →
        ∃ destination capacity plan,
          query.first?.or config.lastCarrierDestination = some destination ∧
          c.plot? (.carrier start.waypoint destination capacity) = some plan ∧
          answer.route.waypoints.map Waypoint.bare = plan ∧ answer.count + 1 = plan.length) := by
  refine ⟨fun request from_start => ⟨fun goal hgoal => plots_plot? hstart from_start hgoal,
    fun plan h => isPlan_of_plot? hstart from_start h⟩, ?_⟩
  intro traveller missions config query answer ctx
  refine ⟨fun answered => ?_, fun answered => ?_⟩
  · obtain ⟨destination, range, plan, hdestination, hrange, hplot, rfl⟩ :=
      Resolver.answer_neutron answered
    have hplot : c.plot? (.neutron start.waypoint destination range) = some plan :=
      Call.reply.inj hplot
    exact ⟨destination, range, plan, hdestination, hrange, hplot,
      answer_alongPlot hstart .neutron rfl hplot⟩
  · obtain ⟨destination, capacity, plan, hdestination, hplot, rfl⟩ :=
      Resolver.answer_carrier answered
    have hplot : c.plot? (.carrier start.waypoint destination capacity) = some plan :=
      Call.reply.inj hplot
    exact ⟨destination, capacity, plan, hdestination, hplot,
      answer_alongPlot hstart .carrier rfl hplot⟩

/-- A ship which jumps six light-years gets from Sol to Colonia by way of the neutron
    star, whatever the case and the blanks of the name. -/
theorem plot_sol_colonia :
    let query : Query := { type := .neutron, arg0 := some " colonia", numeric := some 6 }
    let ctx : Context := ⟨frontier.atlas, TravellerState.traveller {}, [], {}⟩
    sol ∈ frontier.systems ∧ frontier.find? "colonia" = some colonia ∧
      ∃ stops answer, frontier.IsPlan ⟨6, true⟩ colonia sol stops ∧
        frontier.plot? (.neutron sol.waypoint "colonia" 6) =
          some (stops.map StarSystem.waypoint) ∧
        stops.map (·.name) = ["Sol", "Jackson", "Colonia"] ∧
        (Resolver.neutron.resolve query sol.waypoint ctx).outcome = .ok (some answer) ∧
        answer.route.waypoints.map Waypoint.bare = stops.map StarSystem.waypoint ∧
        answer.count = 2 := by
  intro query ctx
  have onChart : sol ∈ frontier.systems := List.mem_cons_self
  have found : frontier.find? "colonia" = some colonia := rfl
  have names : (frontier.plot? (.neutron sol.waypoint "colonia" 6)).map
      (·.map (·.systemName)) = some ["Sol", "Jackson", "Colonia"] := by
    decide +kernel
  obtain ⟨plan, plotted, names⟩ := Option.map_eq_some_iff.1 names
  obtain ⟨plans, answers⟩ := plotting_sound onChart
  obtain ⟨goal, stops, hgoal, rfl, isPlan⟩ := (plans _ rfl).2 plan plotted
  obtain rfl := Option.some.inj (found.symm.trans hgoal)
  have answered : (Resolver.neutron.resolve query sol.waypoint ctx).outcome =
      .ok (some (.ofJumps .neutron (.alongPlot sol.waypoint (stops.map StarSystem.waypoint)))) := by
    show Except.ok ((frontier.plot? (.neutron sol.waypoint "colonia" 6)).map _) = _
    rw [plotted]
    rfl
  obtain ⟨destination, range, plan, hdestination, hrange, plotted', same, count⟩ :=
    (answers _ _ _ _ _).1 answered
  cases hdestination
  cases hrange
  obtain rfl := Option.some.inj (plotted.symm.trans plotted')
  rw [List.map_map] at names
  refine ⟨onChart, found, stops, _, isPlan, plotted, names, answered, same, ?_⟩
  have three := congrArg List.length names
  rw [List.length_map] at three
  rw [List.length_map, three] at count
  exact Nat.succ.inj count

end Chart

end Astrogation
