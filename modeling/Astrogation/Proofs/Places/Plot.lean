import Astrogation.Proofs.Chart.Plot
import Astrogation.Proofs.Places.Chart

/-!
# Plots by places

In a gazetteer, a plot goes from place to place until it is at the place of the goal, and marks
the places where it has been (`Gazetteer.plotFrom`). Going on for longer than there are systems
is a crash as well.

On a chart which the gazetteer describes, neither this happens, nor does a plot go out of range
(`Gazetteer.Describes.plot?_eq`): the places where it has been are those of the addresses that
the chart has marked (`Chart.SamePlaces`), and with each hop there are fewer left. With what is
looked up and searched for, the atlas of a gazetteer is that of the chart
(`Gazetteer.Describes.atlas_eq`).
-/

namespace Astrogation

/-- Where a plot is, if that is on the chart, where it has been, and its hops so far. -/
structure Course where
  current : Option Nat
  position : Position
  visited : List Nat
  hops : List Waypoint

namespace Gazetteer

open Chart (yieldsTo)

variable (g : Gazetteer)

/-- How far the next jump may reach. -/
def rangeFrom (jumps : JumpRange) : (current : Option Nat) → Call Float
  | none => return jumps.base
  | some place =>
    if jumps.boosted then do
      let s ← g.system place
      return jumps.leaving s
    else return jumps.base

/-- The place of the next hop towards a goal. -/
def nextHop? (goal : Nat) (goalPosition position : Position) (range : Float)
    (visited : List Nat) : Call (Option Nat) :=
  if position.distanceTo goalPosition ≤ range then return some goal
  else do
    let around ← g.withinRadius position range
    let measured ← ((around.filter fun found => !visited.contains found.1).map (·.1)).mapM
      (g.measure (·.position.distanceTo goalPosition))
    let best? := champion? (fun best s => yieldsTo best.2 s.2)
      (measured.filter (·.2 < position.distanceTo goalPosition))
    return best?.map (·.1)

/-- The hops to a goal. They have to arrive there or stop after so many. -/
def plotFrom (jumps : JumpRange) (goal : Nat) (goalPosition : Position) :
    (bound : Nat) → Course → Call (Option (List Waypoint))
  | 0, course => if course.current == some goal then return some course.hops else .crash
  | bound + 1, course =>
    if course.current == some goal then return some course.hops
    else do
      let range ← g.rangeFrom jumps course.current
      match ← g.nextHop? goal goalPosition course.position range course.visited with
      | none => return none
      | some next =>
        let s ← g.system next
        plotFrom jumps goal goalPosition bound
          ⟨some next, s.position, next :: course.visited, course.hops ++ [s.waypoint]⟩

/-- The plot to a goal. A start which is on the chart is taken from there. -/
def plotTo? (jumps : JumpRange) (start : Waypoint) (goal : Nat) : Call (Option (List Waypoint)) :=
  match start.position? with
  | none => return none
  | some position => do
    let there ← g.system goal
    let current := start.address.bind fun address => g.addresses.lookup address
    let here? ← current.mapM g.system
    let first := (here?.map StarSystem.waypoint).getD start
    g.plotFrom jumps goal there.position g.systems.length
      ⟨current, position, current.toList, [first]⟩

/-- The plot that is requested. -/
def plot? (request : PlotRequest) : Call (Option (List Waypoint)) :=
  match g.placeOf? request.destination, request with
  | none, _ => return none
  | some goal, .neutron start _ jumpRange =>
    if jumpRange ≤ 0 then return none else g.plotTo? ⟨jumpRange, true⟩ start goal
  | some goal, .carrier start _ _ => g.plotTo? ⟨carrierJumpRange, false⟩ start goal

/-- The atlas which answers from a gazetteer. -/
def atlas : Atlas where
  systemNamed name := return (← g.find? name).map StarSystem.waypoint
  systemAt address := return (← g.systemAt? address).map StarSystem.waypoint
  stationNamed system station := return g.stations.find? (·.isNamed system station)
  stationOf market := return g.stations.find? (·.marketId == some market)
  nearest start filter := g.nearestMatch? start filter
  plot request := g.plot? request

end Gazetteer

namespace Chart

variable {c : Chart} {i : Nat} {s : StarSystem} {places : List Nat} {addresses : List Address}

/-- Places of a chart which are those of some addresses. -/
def SamePlaces (c : Chart) (places : List Nat) (addresses : List Address) : Prop :=
  ∀ i s, c.IsAt i s → (i ∈ places ↔ s.address ∈ addresses)

theorem samePlaces_nil : c.SamePlaces [] [] := fun _ _ _ => by simp

theorem SamePlaces.cons (h : c.SamePlaces places addresses) (hs : c.IsAt i s) :
    c.SamePlaces (i :: places) (s.address :: addresses) := fun j t ht => by
  rw [List.mem_cons, List.mem_cons, h j t ht, ht.address_inj hs]

/-- What comes closer to a goal, if places are marked instead of addresses. -/
theorem SamePlaces.progress_eq (h : c.SamePlaces places addresses) (goal : StarSystem)
    (position : Position) (range : Float) :
    c.progress goal position range addresses =
      (((c.withinRadius position range).filter fun found => !places.contains found.index).filter
        fun found => found.system.position.distanceTo goal.position <
          position.distanceTo goal.position).map (·.system) := by
  rw [progress, List.filter_map, List.filter_filter]
  refine congrArg (List.map _) (List.filter_congr fun found hfound => ?_)
  have agree : found.index ∈ places ↔ found.system.address ∈ addresses :=
    h _ _ (isAt_of_mem_withinRadius hfound)
  rw [Bool.and_comm, Function.comp_apply, List.contains_eq_mem, List.contains_eq_mem,
    decide_eq_decide.2 agree]

end Chart

namespace Gazetteer.Describes

open Chart (yieldsTo)

variable {g : Gazetteer} {c : Chart} (h : g.Describes c) {jumps : JumpRange} {goal : Nat}
  {goalSystem : StarSystem} {position : Position} {range : Float} {places : List Nat}
  {addresses : List Address}
include h

theorem rangeFrom_eq {i : Nat} {s : StarSystem} (hs : c.IsAt i s) :
    g.rangeFrom jumps (some i) = .reply (jumps.leaving s) := by
  rw [rangeFrom]
  split
  · rw [h.system_eq hs]
    rfl
  · next unaided =>
    rw [JumpRange.leaving, Bool.eq_false_iff.2 unaided]
    rfl

/-- The place of the next hop is where its system is. -/
theorem nextHop?_rel (hgoal : c.IsAt goal goalSystem) (same : c.SamePlaces places addresses)
    (position : Position) (range : Float) :
    ∃ next?, g.nextHop? goal goalSystem.position position range places = .reply next? ∧
      Option.Rel c.IsAt next? (c.nextHop? goalSystem position range addresses) := by
  rw [nextHop?, Chart.nextHop?]
  split
  · exact ⟨some goal, rfl, .some hgoal⟩
  · let new := (c.withinRadius position range).filter fun found => !places.contains found.index
    have located : ∀ found ∈ new, c.IsAt found.index found.system := fun found hfound =>
      Chart.isAt_of_mem_withinRadius (List.mem_filter.1 hfound).1
    have unvisited : ((c.withinRadius position range).map fun found =>
        (found.index, found.distance)).filter (fun found => !places.contains found.1) =
          new.map fun found => (found.index, found.distance) := List.filter_map
    have measured : (new.map (·.index)).mapM
        (g.measure (·.position.distanceTo goalSystem.position)) =
          .reply (new.map fun found =>
            (found.index, found.system.position.distanceTo goalSystem.position)) :=
      Call.mapM_reply _ fun found hfound => h.measure_eq _ (located found hfound)
    rw [same.progress_eq, champion?_map, h.withinRadius_eq, Call.reply_bind, unvisited,
      List.map_map]
    refine ⟨_, (congrArg (· >>= _) measured).trans ?_, Chart.rel_isAt_map fun found best =>
      located found (List.mem_filter.1 (mem_of_champion? best)).1⟩
    rw [Call.reply_bind, List.filter_map, champion?_map]
    exact congrArg Call.reply (Option.map_map ..)

omit h in
/-- A plot which is at the goal stays there. -/
theorem plotFrom_here (goalPosition : Position) (bound : Nat) (course : Course)
    (here : course.current = some goal) :
    g.plotFrom jumps goal goalPosition bound course = .reply (some course.hops) := by
  have arrived : (course.current == some goal) = true := beq_iff_eq.2 here
  cases bound with
  | zero => exact if_pos arrived
  | succ bound => exact if_pos arrived

/-- A plot goes on to the places of the hops, and with each there are fewer that it can go to. -/
theorem plotFrom_eq (hgoal : c.IsAt goal goalSystem) {current : Option Nat}
    (away : current ≠ some goal) (ranges : g.rangeFrom jumps current = .reply range)
    (same : c.SamePlaces places addresses) {bound : Nat}
    (ahead : goalSystem ∈ c.unvisited addresses)
    (enough : (c.unvisited addresses).length ≤ bound) (hops : List Waypoint) :
    g.plotFrom jumps goal goalSystem.position bound ⟨current, position, places, hops⟩ =
      .reply ((c.hopsFrom? jumps goalSystem bound position range addresses).map fun rest =>
        hops ++ rest.map StarSystem.waypoint) := by
  -- The goal is not visited before the plot is there, so the bound is never used up.
  induction bound generalizing current position range places addresses hops with
  | zero => exact absurd (List.length_pos_of_mem ahead) (Nat.not_lt.2 enough)
  | succ bound ih =>
    obtain ⟨next?, replied, located⟩ := h.nextHop?_rel hgoal same position range
    have onward : (current == some goal) = false := beq_eq_false_iff_ne.2 away
    rw [plotFrom, Chart.hopsFrom?]
    dsimp only
    rw [onward, if_neg Bool.false_ne_true, ranges, Call.reply_bind, replied, Call.reply_bind]
    cases hnext : c.nextHop? goalSystem position range addresses with
    | none =>
      rw [hnext] at located
      cases located
      rfl
    | some nextSystem =>
      rw [hnext] at located
      obtain @⟨next, _, hs⟩ := located
      dsimp only
      rw [h.system_eq hs, Call.reply_bind, Option.bind_some]
      split
      · next arrived => exact plotFrom_here _ _ ⟨_, _, _, _⟩ ((hs.some_eq_iff hgoal).2 arrived)
      · next elsewhere =>
        have other : nextSystem.address ≠ goalSystem.address :=
          fun same => elsewhere (beq_iff_eq.2 same)
        obtain ⟨new, -⟩ := Chart.progress_of_nextHop? hnext other
        obtain ⟨onChart, notSeen⟩ := Chart.mem_unvisited.1 ahead
        have left := Chart.length_unvisited_cons_lt (Chart.mem_unvisited.2 ⟨hs.mem, new⟩)
        have ahead' : goalSystem ∈ c.unvisited (nextSystem.address :: addresses) :=
          Chart.mem_unvisited.2 ⟨onChart, fun seen =>
            (List.mem_cons.1 seen).elim (fun same => other same.symm) notSeen⟩
        have away' : some next ≠ some goal := mt (hs.some_eq_iff hgoal).1 elsewhere
        rw [ih away' (h.rangeFrom_eq hs) (same.cons hs) ahead' (by omega), Option.map_map]
        simp only [Function.comp_def, List.map_cons, List.append_assoc, List.singleton_append]

/-- Plotting to a goal never goes out of range, and comes to an end. -/
theorem plotTo?_eq (hgoal : c.IsAt goal goalSystem) (start : Waypoint) :
    g.plotTo? jumps start goal = .reply (c.plotTo? jumps start goalSystem) := by
  rw [plotTo?, Chart.plotTo?]
  cases start.position? with
  | none => rfl
  | some position =>
    have located : Option.Rel c.IsAt (start.address.bind fun address => g.addresses.lookup address)
        (start.address.bind c.systemAt?) := by
      cases start.address with
      | none => exact .none
      | some address => exact h.address_rel address
    dsimp only
    rw [h.system_eq hgoal, Call.reply_bind, h.mapM_system located, Call.reply_bind,
      Option.bind_some, h.systems]
    revert located
    generalize (start.address.bind fun address => g.addresses.lookup address) = current
    generalize start.address.bind c.systemAt? = here?
    rintro (@⟨place, s, hs⟩ | _)
    · dsimp only [Option.map_some, Option.getD_some]
      split
      · next arrived => exact plotFrom_here _ _ ⟨_, _, _, _⟩ ((hs.some_eq_iff hgoal).2 arrived)
      · next elsewhere =>
        have away : s.address ≠ goalSystem.address := fun same => elsewhere (beq_iff_eq.2 same)
        have ahead : goalSystem ∈ c.unvisited [s.address] :=
          Chart.mem_unvisited.2 ⟨hgoal.mem, fun seen => away (List.mem_singleton.1 seen).symm⟩
        have notThere : some place ≠ some goal := mt (hs.some_eq_iff hgoal).1 elsewhere
        exact h.plotFrom_eq hgoal notThere (h.rangeFrom_eq hs) (Chart.samePlaces_nil.cons hs)
          ahead (List.length_filter_le ..) _
    · have ahead : goalSystem ∈ c.unvisited [] :=
        Chart.mem_unvisited.2 ⟨hgoal.mem, List.not_mem_nil⟩
      exact h.plotFrom_eq hgoal (Option.some_ne_none goal).symm rfl Chart.samePlaces_nil ahead
        (List.length_filter_le ..) _

/-- Plotting never goes out of range. -/
theorem plot?_eq (request : PlotRequest) : g.plot? request = .reply (c.plot? request) := by
  have located := h.placeOf?_rel request.destination
  unfold plot? Chart.plot?
  revert located
  generalize g.placeOf? request.destination = place?
  generalize c.find? request.destination = goal?
  rintro (@⟨goal, goalSystem, hgoal⟩ | _)
  · cases request with
    | neutron start destination jumpRange =>
      dsimp only [Option.bind_some]
      split
      · rfl
      · exact h.plotTo?_eq hgoal start
    | carrier start destination usedCapacity => exact h.plotTo?_eq hgoal start
  · rfl

/-- The atlas of a gazetteer never goes out of range, and answers like that of the chart which
    the gazetteer describes. -/
theorem atlas_eq : g.atlas = c.atlas := by
  have named : g.atlas.systemNamed = c.atlas.systemNamed := funext fun name => by
    show g.find? name >>= _ = _
    rw [h.find?_eq]
    rfl
  have at_address : g.atlas.systemAt = c.atlas.systemAt := funext fun address => by
    show g.systemAt? address >>= _ = _
    rw [h.systemAt?_eq]
    rfl
  have station : g.atlas.stationNamed = c.atlas.stationNamed := by
    funext system station
    show Call.reply (g.stations.find? _) = _
    rw [h.stations]
    rfl
  have market : g.atlas.stationOf = c.atlas.stationOf := funext fun market => by
    show Call.reply (g.stations.find? _) = _
    rw [h.stations]
    rfl
  have nearest : g.atlas.nearest = c.atlas.nearest :=
    funext fun start => funext fun filter => h.nearestMatch?_eq start filter
  have plot : g.atlas.plot = c.atlas.plot := funext fun request => h.plot?_eq request
  have several : g.atlas.systemsNamed = c.atlas.systemsNamed := congrArg Call.gather named
  calc g.atlas
      = ⟨g.atlas.systemNamed, g.atlas.systemsNamed, g.atlas.systemAt, g.atlas.stationNamed,
          g.atlas.stationOf, g.atlas.nearest, g.atlas.plot⟩ := rfl
    _ = c.atlas := by
      rw [named, several, at_address, station, market, nearest, plot]

end Gazetteer.Describes

end Astrogation
