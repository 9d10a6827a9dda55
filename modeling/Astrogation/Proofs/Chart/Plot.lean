import Astrogation.Proofs.Chart.Systems
import Mathlib.Data.List.Chain

/-!
# Plotting

The hops of a plot are made one by one, until one of them is the goal or none can be
made (`Chart.Hops`). Each hop but the goal is a system of the chart which was not
visited before, so a bound of as many hops as the chart has systems makes no
difference (`Chart.hops_hopsFrom?`): plotting comes to an end by itself.

If the hops arrive, they are a plan (`Chart.IsPlan`): they lead from the start to the
goal, nowhere twice, each within the range that is available where it leaves, and
closer and closer to the goal (`Chart.Plots.isPlan`).
-/

namespace Astrogation

/-- Where a plot starts. -/
def PlotRequest.start : PlotRequest → Waypoint
  | neutron start _ _ | carrier start _ _ => start

/-- How far the hops of a plot may reach. -/
def PlotRequest.jumps : PlotRequest → JumpRange
  | neutron _ _ jumpRange => ⟨jumpRange, true⟩
  | carrier _ _ _ => ⟨carrierJumpRange, false⟩

namespace Chart

variable (c : Chart) (jumps : JumpRange) (goal : StarSystem)

/-- The hops to a goal from a position, as many as it takes; none if after some of
    them no other can be made. -/
inductive Hops : Position → Float → List Address → Option (List StarSystem) → Prop
  | stuck {position range visited} :
    c.nextHop? goal position range visited = none → Hops position range visited none
  | arrive {position range visited next} :
    c.nextHop? goal position range visited = some next → next.address = goal.address →
      Hops position range visited (some [next])
  | jump {position range visited next hops?} :
    c.nextHop? goal position range visited = some next → next.address ≠ goal.address →
      Hops next.position (jumps.leaving next) (next.address :: visited) hops? →
        Hops position range visited (hops?.map (next :: ·))

/-- What plotting from one system of the chart to another comes to. -/
inductive Plots (start : StarSystem) : Option (List StarSystem) → Prop
  | here : start.address = goal.address → Plots start (some [start])
  | away {hops?} : start.address ≠ goal.address →
      c.Hops jumps goal start.position (jumps.leaving start) [start.address] hops? →
        Plots start (hops?.map (start :: ·))

/-- Systems of the chart in the order in which a plot from a start to a goal goes
    through them. -/
structure IsPlan (start : StarSystem) (stops : List StarSystem) : Prop where
  onChart : ∀ s ∈ stops, s ∈ c.systems
  begins : stops.head? = some start
  ends : stops.getLast? = some goal
  nodup : stops.Nodup
  reached : stops.IsChain fun s t => s.position.distanceTo t.position ≤ jumps.leaving s
  approaches : stops.dropLast.IsChain fun s t =>
    t.position.distanceTo goal.position < s.position.distanceTo goal.position

variable {c jumps goal} {position : Position} {range : Float} {visited : List Address}
  {start next : StarSystem} {stops : List StarSystem} {hops? stops? : Option (List StarSystem)}

/-! ## A single hop -/

/-- A hop is the goal if that is in range, and otherwise a system in range which is
    closer to the goal and has not been visited. -/
theorem nextHop?_cases (h : c.nextHop? goal position range visited = some next) :
    (next = goal ∧ position.distanceTo goal.position ≤ range) ∨
      (next ∈ c.systems ∧ position.distanceTo next.position ≤ range ∧ next.address ∉ visited ∧
        next.position.distanceTo goal.position < position.distanceTo goal.position) := by
  rw [nextHop?] at h
  split at h
  · next near => exact .inl ⟨(Option.some.inj h).symm, near⟩
  · obtain ⟨around, closer⟩ := List.mem_filter.1 (mem_of_champion? h)
    obtain ⟨found, hfound, rfl⟩ := List.mem_map.1 around
    obtain ⟨onChart, near⟩ := mem_withinRadius hfound
    rw [Bool.and_eq_true, Bool.not_eq_true', decide_eq_true_eq] at closer
    refine .inr ⟨onChart, near, fun seen => ?_, closer.2⟩
    rw [List.contains_iff_mem.2 seen] at closer
    exact absurd closer.1 Bool.noConfusion

theorem mem_systems_of_nextHop? (hgoal : goal ∈ c.systems)
    (h : c.nextHop? goal position range visited = some next) : next ∈ c.systems := by
  rcases nextHop?_cases h with ⟨rfl, -⟩ | ⟨onChart, -⟩
  · exact hgoal
  · exact onChart

theorem reached_of_nextHop? (h : c.nextHop? goal position range visited = some next) :
    position.distanceTo next.position ≤ range := by
  rcases nextHop?_cases h with ⟨rfl, near⟩ | ⟨-, near, -⟩
  · exact near
  · exact near

/-- A hop which is not the goal is new, and closer to the goal. -/
theorem progress_of_nextHop? (h : c.nextHop? goal position range visited = some next)
    (other : next.address ≠ goal.address) : next.address ∉ visited ∧
      next.position.distanceTo goal.position < position.distanceTo goal.position := by
  rcases nextHop?_cases h with ⟨rfl, -⟩ | ⟨-, -, new, closer⟩
  · exact absurd rfl other
  · exact ⟨new, closer⟩

/-! ## Coming to an end -/

/-- The systems of a chart which have not been visited. -/
def unvisited (c : Chart) (visited : List Address) : List StarSystem :=
  c.systems.filter fun s => !visited.contains s.address

theorem mem_unvisited {s : StarSystem} :
    s ∈ c.unvisited visited ↔ s ∈ c.systems ∧ s.address ∉ visited := by
  rw [unvisited, List.mem_filter, Bool.not_eq_true', ← Bool.not_eq_true, List.contains_iff_mem]

/-- With every system that is visited there are fewer left. -/
theorem length_unvisited_cons_lt {s : StarSystem} (h : s ∈ c.unvisited visited) :
    (c.unvisited (s.address :: visited)).length < (c.unvisited visited).length := by
  have fewer : c.unvisited (s.address :: visited) =
      (c.unvisited visited).filter fun t => !t.address == s.address := by
    rw [unvisited, unvisited, List.filter_filter]
    refine List.filter_congr fun t _ => ?_
    rw [List.contains_cons, Bool.not_or]
  rw [fewer]
  exact List.length_filter_lt_length_iff_exists.2 ⟨s, h, by simp⟩

/-- A bound on the hops makes no difference if it leaves one for each system which has
    not been visited. -/
theorem hops_hopsFrom? {bound : Nat} (hgoal : goal ∈ c.unvisited visited)
    (enough : (c.unvisited visited).length ≤ bound) :
    c.Hops jumps goal position range visited
      (c.hopsFrom? jumps goal bound position range visited) := by
  -- The goal is among the systems which have not been visited, so as long as there
  -- is a hop to be made the bound leaves one.
  induction bound generalizing position range visited with
  | zero => exact absurd (List.length_pos_of_mem hgoal) (Nat.not_lt.2 enough)
  | succ bound ih =>
    rw [hopsFrom?]
    cases h : c.nextHop? goal position range visited with
    | none => exact .stuck h
    | some next =>
      rw [Option.bind_some]
      split
      · next here => exact .arrive h (beq_iff_eq.1 here)
      · next away =>
        have other : next.address ≠ goal.address := fun same => away (beq_iff_eq.2 same)
        obtain ⟨new, -⟩ := progress_of_nextHop? h other
        obtain ⟨onChart, ahead⟩ := mem_unvisited.1 hgoal
        have left := length_unvisited_cons_lt
          (mem_unvisited.2 ⟨mem_systems_of_nextHop? onChart h, new⟩)
        refine .jump h other (ih (mem_unvisited.2 ⟨onChart, fun seen => ?_⟩) (by omega))
        rcases List.mem_cons.1 seen with same | seen
        · exact other same.symm
        · exact ahead seen

theorem plots_of_away (hgoal : goal ∈ c.systems) (away : start.address ≠ goal.address) :
    c.Plots jumps goal start ((c.hopsFrom? jumps goal c.systems.length start.position
      (jumps.leaving start) [start.address]).map (start :: ·)) := by
  refine .away away (hops_hopsFrom? (mem_unvisited.2 ⟨hgoal, fun seen => ?_⟩) ?_)
  · exact away (List.mem_singleton.1 seen).symm
  · exact List.length_filter_le _ _

/-! ## Plans -/

theorem isPlan_singleton (h : start ∈ c.systems) : c.IsPlan jumps start start [start] where
  onChart s hs := by
    obtain rfl := List.mem_singleton.1 hs
    exact h
  begins := rfl
  ends := rfl
  nodup := List.nodup_singleton start
  reached := List.isChain_singleton start
  approaches := List.isChain_nil

/-- A plan may begin one hop earlier, at a system which is not on it. If that hop is not
    the last, it has to come closer to the goal. -/
theorem IsPlan.cons (h : c.IsPlan jumps goal next stops) (hstart : start ∈ c.systems)
    (new : start ∉ stops)
    (reached : start.position.distanceTo next.position ≤ jumps.leaving start)
    (closer : next ≠ goal →
      next.position.distanceTo goal.position < start.position.distanceTo goal.position) :
    c.IsPlan jumps goal start (start :: stops) where
  onChart s hs := by
    rcases List.mem_cons.1 hs with rfl | hs
    · exact hstart
    · exact h.onChart s hs
  begins := rfl
  ends := by
    rw [List.getLast?_cons, h.ends]
    rfl
  nodup := List.nodup_cons.2 ⟨new, h.nodup⟩
  reached := List.isChain_cons.2 ⟨fun t ht => by
    rw [h.begins] at ht
    exact Option.some.inj ht ▸ reached, h.reached⟩
  approaches := by
    -- The last hop need not come closer, and it is the only one if the plan to which
    -- the start is added has a single stop.
    match stops, h with
    | [], _ => exact List.isChain_nil
    | [t], _ => exact List.isChain_singleton start
    | t :: u :: rest, h =>
      obtain rfl : t = next := Option.some.inj h.begins
      have last : goal ∈ u :: rest := List.mem_of_getLast? (by rw [← h.ends]; rfl)
      have other : t ≠ goal := fun same => (List.nodup_cons.1 h.nodup).1 (same ▸ last)
      exact List.isChain_cons_cons.2 ⟨closer other, h.approaches⟩

/-- Hops which leave a system that is visited make up a plan with it. -/
theorem Hops.isPlan (h : c.Hops jumps goal position range visited hops?) (hgoal : goal ∈ c.systems)
    (hstart : start ∈ c.systems) (away : start.address ≠ goal.address)
    (left : position = start.position) (leaving : range = jumps.leaving start)
    (seen : start.address ∈ visited) {hops : List StarSystem} (hhops : hops? = some hops) :
    c.IsPlan jumps goal start (start :: hops) ∧ ∀ s ∈ hops, s = goal ∨ s.address ∉ visited := by
  -- The systems on the rest of the plan are new also with respect to the hop which has
  -- just been made, and so the start is not among them.
  induction h generalizing start hops with
  | stuck => cases hhops
  | @arrive position range visited next hnext here =>
    obtain rfl := Option.some.inj hhops
    obtain rfl := eq_of_address (mem_systems_of_nextHop? hgoal hnext) hgoal here
    subst left leaving
    refine ⟨(isPlan_singleton hgoal).cons hstart (fun same => ?_) (reached_of_nextHop? hnext)
      fun other => absurd rfl other, fun s hs => .inl (List.mem_singleton.1 hs)⟩
    exact away (congrArg StarSystem.address (List.mem_singleton.1 same))
  | @jump position range visited next hops? hnext other _ ih =>
    obtain ⟨rest, hrest, rfl⟩ := Option.map_eq_some_iff.1 hhops
    have onChart := mem_systems_of_nextHop? hgoal hnext
    obtain ⟨new, closer⟩ := progress_of_nextHop? hnext other
    obtain ⟨plan, unseen⟩ := ih onChart other rfl rfl List.mem_cons_self hrest
    have fresh : ∀ s ∈ next :: rest, s = goal ∨ s.address ∉ visited := by
      intro s hs
      rcases List.mem_cons.1 hs with rfl | hs
      · exact .inr new
      · exact (unseen s hs).imp id fun h again => h (List.mem_cons_of_mem _ again)
    subst left leaving
    refine ⟨plan.cons hstart (fun again => ?_) (reached_of_nextHop? hnext) fun _ => closer, fresh⟩
    rcases fresh start again with same | unseen
    · exact away (congrArg StarSystem.address same)
    · exact unseen seen

/-- If plotting arrives, it has made a plan. -/
theorem Plots.isPlan (h : c.Plots jumps goal start stops?) (hgoal : goal ∈ c.systems)
    (hstart : start ∈ c.systems) (hstops : stops? = some stops) :
    c.IsPlan jumps goal start stops := by
  cases h with
  | here same =>
    obtain rfl := Option.some.inj hstops
    obtain rfl := eq_of_address hstart hgoal same
    exact isPlan_singleton hstart
  | away away hops =>
    obtain ⟨rest, hrest, rfl⟩ := Option.map_eq_some_iff.1 hstops
    exact (hops.isPlan hgoal hstart away rfl rfl List.mem_cons_self hrest).1

end Chart

end Astrogation
