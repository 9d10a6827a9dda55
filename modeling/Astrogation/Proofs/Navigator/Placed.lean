import Astrogation.Proofs.Document.Routes
import Astrogation.Proofs.Navigator.Beginning

/-!
# Where routes lead

Distances along a route overflow if its stops are far enough apart, but its coordinates are those
of the waypoints that it was made of. So, as long as atlas and traveller only report coordinates
which are finite, all routes that a navigator comes to are placed (`Resolver.isPlaced_of_builtIn`),
and so are those that it remembers (`Config.IsPlaced.remember`). Of these the origin and the
coordinates of the stops have to be numbers in a document, but the distances may be absent.
-/

namespace Astrogation

/-! ## Routes -/

/-- Coordinates which are all known and finite are those of a finite position. -/
theorem Coordinates.IsFinite.position {c : Coordinates} (h : c.IsFinite) {p : Position}
    (complete : c.position? = some p) : Floating.IsFinite p := by
  obtain ⟨x, y, z⟩ := c
  cases x <;> cases y <;> cases z <;> cases complete
  exact ⟨h.x _ rfl, h.y _ rfl, h.z _ rfl⟩

theorem Position.isFinite_coordinates {p : Position} (h : Floating.IsFinite p) :
    p.coordinates.IsFinite :=
  ⟨fun _ same => Option.some.inj same ▸ h.x, fun _ same => Option.some.inj same ▸ h.y,
    fun _ same => Option.some.inj same ▸ h.z⟩

namespace Route

variable {r s : Route} {start destination : Waypoint} {ws : List Waypoint} {address : Address}

theorem isPlaced_empty : ({} : Route).IsPlaced :=
  ⟨fun _ hw => absurd hw List.not_mem_nil, fun _ none => (nomatch none)⟩

/-- The origin of a route is the position of its start. -/
theorem isPlaced_from (hstart : start.coordinates.IsFinite)
    (hws : ∀ w ∈ ws, w.coordinates.IsFinite) :
    ({ waypoints := start.intoVisited :: ws, origin := start.position? } : Route).IsPlaced :=
  ⟨List.forall_mem_cons.2 ⟨hstart, hws⟩, fun _ => hstart.position⟩

theorem IsPlaced.stamped (h : r.IsPlaced) : r.stamped.IsPlaced where
  waypoints w hw := by
    have same := r.map_stamped (f := fun w => w.coordinates) fun _ _ _ => rfl
    have among : w.coordinates ∈ r.waypoints.map fun w => w.coordinates :=
      same ▸ List.mem_map_of_mem hw
    obtain ⟨v, hv, here⟩ := List.mem_map.1 among
    exact here ▸ h.waypoints v hv
  origin := by
    rw [r.origin_stamped]
    exact h.origin

/-- A route is still placed without its repeated stops. -/
theorem IsPlaced.distinct (h : r.IsPlaced) : r.distinct.IsPlaced :=
  ⟨fun w hw => h.waypoints w ((distinctFrom_sublist [] [] r.waypoints).subset hw), h.origin⟩

theorem isPlaced_toDestination (hstart : start.coordinates.IsFinite)
    (hdestination : destination.coordinates.IsFinite) :
    (toDestination start destination).IsPlaced := by
  refine (isPlaced_from hstart fun w hw => ?_).stamped
  split at hw
  · exact absurd hw List.not_mem_nil
  · exact List.mem_singleton.1 hw ▸ hdestination

theorem isPlaced_alongPlot (hstart : start.coordinates.IsFinite)
    (hws : ∀ w ∈ ws, w.coordinates.IsFinite) : (alongPlot start ws).IsPlaced :=
  (isPlaced_from hstart fun w hw => hws w ((List.dropWhile_sublist _).subset hw)).distinct.stamped

theorem IsPlaced.markVisitedThrough (h : r.IsPlaced)
    (marked : r.markVisitedThrough? address = some s) : s.IsPlaced := by
  obtain ⟨vs, hvs, rfl⟩ := Option.map_eq_some_iff.1 marked
  obtain ⟨behind, ahead, split, -, rfl⟩ := visitThrough?_eq_append hvs
  -- The stops behind are where they were, if now visited; those ahead are the same.
  refine ⟨fun w hw => ?_, h.origin⟩
  rcases List.mem_append.1 hw with hw | hw
  · obtain ⟨v, hv, rfl⟩ := List.mem_map.1 hw
    exact h.waypoints v (split ▸ List.mem_append_left ahead hv)
  · exact h.waypoints w (split ▸ List.mem_append_right behind hw)

end Route

/-! ## Circuits -/

namespace Circuit

variable {missions : List Mission} {start w : Waypoint} {stops : List CircuitStop}
  {P : Waypoint → Prop}

theorem forall_insertStop (h : ∀ s ∈ stops, P s.waypoint) (hw : P w) :
    ∀ s ∈ insertStop stops w, P s.waypoint := by
  rcases insertStop_cases stops w with there | ⟨⟨position, added⟩, -⟩
  · rwa [there]
  · rw [added]
    exact List.forall_mem_append.2 ⟨h, List.forall_mem_singleton.2 hw⟩

/-- All stops of a circuit are the start, or have been looked up. -/
theorem forall_withHome {systems : List Waypoint} {home : Option Waypoint} (hstart : P start)
    (hsystems : ∀ w ∈ systems, P w) (hhome : ∀ w, home = some w → P w) :
    ∀ s ∈ (withHome start (gather start systems) home).1, P s.waypoint := by
  have gathered : ∀ s ∈ gather start systems, P s.waypoint := by
    refine List.foldlRecOn (motive := fun stops => ∀ s ∈ stops, P s.waypoint) systems insertStop ?_
      fun stops h w hw => forall_insertStop h (hsystems w hw)
    intro s hs
    obtain ⟨p, -, rfl⟩ := Option.map_eq_some_iff.1 (Option.mem_toList.1 hs)
    exact hstart
  cases home with
  | none => exact gathered
  | some w =>
    rw [withHome]
    split
    · exact gathered
    · dsimp only
      split
      · exact forall_insertStop gathered (hhome w rfl)
      · exact forall_insertStop gathered (hhome w rfl)

theorem isPlaced_layOut {order : List Waypoint} (hstart : start.coordinates.IsFinite)
    (horder : ∀ w ∈ order, w.coordinates.IsFinite) :
    ({ waypoints := layOut start order, origin := start.position? } : Route).IsPlaced := by
  cases order with
  | nil => exact Route.isPlaced_from hstart horder
  | cons w ws =>
    rw [layOut]
    split
    · obtain ⟨first, rest⟩ := List.forall_mem_cons.1 horder
      exact ⟨List.forall_mem_cons.2 ⟨first, rest⟩, fun _ => hstart.position⟩
    · exact Route.isPlaced_from hstart horder

theorem isPlaced_route {order : List Waypoint} (hstart : start.coordinates.IsFinite)
    (horder : ∀ w ∈ order, w.coordinates.IsFinite) : (route missions start order).IsPlaced := by
  have placed := (isPlaced_layOut hstart horder).distinct
  -- Missions are added to the stops, which stay where they are.
  refine Route.IsPlaced.stamped ⟨fun w hw => ?_, placed.origin⟩
  obtain ⟨v, hv, rfl⟩ := List.mem_map.1 hw
  exact placed.waypoints v hv

/-- A circuit leads through stops which were looked up, so it is placed if these are. -/
theorem isPlaced_of_plan? {systems : List Waypoint} {home : Option Waypoint} {answer : Answer}
    (hstart : start.coordinates.IsFinite) (hsystems : ∀ w ∈ systems, w.coordinates.IsFinite)
    (hhome : ∀ w, home = some w → w.coordinates.IsFinite)
    (h : plan? missions start systems home = some answer) : answer.route.IsPlaced := by
  have placed := forall_withHome (P := fun w => w.coordinates.IsFinite) hstart hsystems hhome
  rcases hstops : withHome start (gather start systems) home with ⟨stops, shape⟩
  rw [hstops] at placed
  obtain ⟨places, -, hroute, -, -⟩ := answer_plan? hstops h
  rw [hroute]
  refine isPlaced_route hstart fun w hw => ?_
  obtain ⟨i, -, rfl⟩ := List.mem_map.1 hw
  exact placed _ (List.get_mem stops i)

end Circuit

/-! ## What is reported -/

/-- An atlas which only reports waypoints whose coordinates are finite or absent, if those of the
    start are. -/
structure Atlas.IsPlaced (atlas : Atlas) : Prop where
  systemNamed : ∀ name w, atlas.systemNamed name = .reply (some w) → w.coordinates.IsFinite
  systemsNamed : ∀ names ws, atlas.systemsNamed names = .reply ws →
    ∀ w ∈ ws, w.coordinates.IsFinite
  nearest : ∀ start filter found, start.coordinates.IsFinite →
    atlas.nearest start filter = .reply (some found) → found.waypoint.coordinates.IsFinite
  plot : ∀ request ws, request.start.coordinates.IsFinite →
    atlas.plot request = .reply (some ws) → ∀ w ∈ ws, w.coordinates.IsFinite

namespace Chart

variable {c : Chart} {jumps : JumpRange} {goal : StarSystem} {position : Position} {range : Float}
  {visited : List Address} {start : Waypoint} {ws : List Waypoint}

theorem mem_systems_of_hopsFrom? {bound : Nat} {hops : List StarSystem} (hgoal : goal ∈ c.systems)
    (h : c.hopsFrom? jumps goal bound position range visited = some hops) :
    ∀ s ∈ hops, s ∈ c.systems := by
  induction bound generalizing position range visited hops with
  | zero => cases h
  | succ bound ih =>
    obtain ⟨next, hnext, h⟩ := Option.bind_eq_some_iff.1 h
    have onChart := mem_systems_of_nextHop? hgoal hnext
    split at h
    · exact Option.some.inj h ▸ List.forall_mem_singleton.2 onChart
    · obtain ⟨rest, hrest, rfl⟩ := Option.map_eq_some_iff.1 h
      exact List.forall_mem_cons.2 ⟨onChart, ih hrest⟩

/-- A plot goes through the start, if that is not on the chart, and through systems of the
    chart. -/
theorem forall_plotTo? {P : Waypoint → Prop} (hgoal : goal ∈ c.systems) (hstart : P start)
    (onChart : ∀ s ∈ c.systems, P s.waypoint) (h : c.plotTo? jumps start goal = some ws) :
    ∀ w ∈ ws, P w := by
  have along : ∀ {bound : Nat} {position : Position} {range : Float} {visited : List Address}
      {hops : List StarSystem}, c.hopsFrom? jumps goal bound position range visited = some hops →
      ∀ w ∈ hops.map StarSystem.waypoint, P w := by
    intro bound position range visited hops hhops w hw
    obtain ⟨s, hs, rfl⟩ := List.mem_map.1 hw
    exact onChart s (mem_systems_of_hopsFrom? hgoal hhops s hs)
  obtain ⟨position, -, h⟩ := Option.bind_eq_some_iff.1 h
  dsimp only at h
  split at h
  · next s here =>
    -- The start is on the chart, and taken from there.
    obtain ⟨address, -, hs⟩ := Option.bind_eq_some_iff.1 here
    have first := onChart s (systemAt?_eq_some_iff.1 hs).1
    split at h
    · exact Option.some.inj h ▸ List.forall_mem_singleton.2 first
    · obtain ⟨hops, hhops, rfl⟩ := Option.map_eq_some_iff.1 h
      exact List.forall_mem_cons.2 ⟨first, along hhops⟩
  · obtain ⟨hops, hhops, rfl⟩ := Option.map_eq_some_iff.1 h
    exact List.forall_mem_cons.2 ⟨hstart, along hhops⟩

/-- A search finds a system of the chart, or a station in one. -/
theorem exists_of_nearestMatch? {filter : SearchFilter} {found : SearchMatch}
    (h : c.nearestMatch? start filter = some found) :
    ∃ s ∈ c.systems, found.waypoint.coordinates = s.waypoint.coordinates := by
  obtain ⟨point, -, h⟩ := Option.bind_eq_some_iff.1 h
  split at h
  · obtain ⟨s, hs, rfl⟩ := Option.map_eq_some_iff.1 h
    refine ⟨s, ?_, rfl⟩
    rw [nearestScoopable?.eq_def] at hs
    split at hs
    · obtain ⟨near, hnear, rfl⟩ := Option.map_eq_some_iff.1 hs
      exact (mem_withinRadius (List.mem_of_find?_eq_some hnear)).1
    · exact List.mem_of_mem_filter (mem_of_champion? hs)
  · obtain ⟨candidate, hcandidate, rfl⟩ := Option.map_eq_some_iff.1 h
    refine ⟨candidate.system, ?_, rfl⟩
    have among := List.mem_of_mem_filter (mem_of_champion? hcandidate)
    obtain ⟨station, -, here⟩ := List.mem_filterMap.1 among
    obtain ⟨s, hs, rfl⟩ := Option.map_eq_some_iff.1 here
    exact (find?_eq_some_iff.1 hs).1

/-- A chart of systems whose positions are finite reports nothing else. -/
theorem isPlaced_atlas (finite : ∀ s ∈ c.systems, Floating.IsFinite s.position) :
    c.atlas.IsPlaced := by
  have onChart : ∀ s ∈ c.systems, s.waypoint.coordinates.IsFinite :=
    fun s hs => s.position.isFinite_coordinates (finite s hs)
  have named : ∀ name w, (c.find? name).map StarSystem.waypoint = some w →
      w.coordinates.IsFinite := by
    intro name w h
    obtain ⟨s, hs, rfl⟩ := Option.map_eq_some_iff.1 h
    exact onChart s (find?_eq_some_iff.1 hs).1
  refine ⟨fun name w h => named name w (Call.reply.inj h), fun names ws h w hw => ?_,
    fun start filter found _ h => ?_, fun request ws hstart h => ?_⟩
  · have h : Call.gather (fun name => .reply ((c.find? name).map StarSystem.waypoint)) names =
        .reply ws := h
    rw [Call.gather_reply] at h
    obtain ⟨name, -, h⟩ := List.mem_filterMap.1 (Call.reply.inj h ▸ hw)
    exact named name w h
  · obtain ⟨s, hs, same⟩ := exists_of_nearestMatch? (Call.reply.inj h)
    exact same ▸ onChart s hs
  · obtain ⟨goal, hgoal, h⟩ := Option.bind_eq_some_iff.1 (Call.reply.inj h)
    have leads := (find?_eq_some_iff.1 hgoal).1
    cases request with
    | neutron start destination jumpRange =>
      dsimp only at h
      split at h
      · cases h
      · exact forall_plotTo? leads hstart onChart h
    | carrier start destination capacity => exact forall_plotTo? leads hstart onChart h

end Chart

theorem Atlas.IsPlaced.tells {atlas : Atlas} (h : atlas.IsPlaced) {start w : Waypoint}
    (hstart : start.coordinates.IsFinite) (told : atlas.Tells start w) :
    w.coordinates.IsFinite := by
  cases told with
  | named reply => exact h.systemNamed _ w reply
  | among reply mem => exact h.systemsNamed _ _ reply w mem
  | nearest reply => exact h.nearest start _ _ hstart reply

/-- From what is placed, a built-in resolver comes to a placed route. -/
theorem Resolver.isPlaced_of_builtIn {resolver : Resolver} {query : Query} {start : Waypoint}
    {ctx : Context} {answer : Answer} (builtIn : resolver ∈ Registry.builtIn)
    (atlas : ctx.atlas.IsPlaced) (hstart : start.coordinates.IsFinite)
    (config : ctx.config.IsPlaced)
    (h : (resolver.resolve query start ctx).outcome = .ok (some answer)) :
    answer.route.IsPlaced := by
  cases responds_of_builtIn builtIn h with
  | leads told route _ coordinates =>
    rw [route]
    exact Route.isPlaced_toDestination hstart (coordinates ▸ atlas.tells hstart told)
  | plots starts reply route =>
    rw [route]
    exact Route.isPlaced_alongPlot hstart (atlas.plot _ _ (starts ▸ hstart) reply)
  | circles told toldHome planned =>
    exact Circuit.isPlaced_of_plan? hstart (fun w hw => atlas.tells hstart (told w hw))
      (fun w hw => atlas.tells hstart (toldHome w hw)) planned
  | cancels _ route =>
    rw [route]
    exact Route.isPlaced_empty
  | updates _ stored marked => exact (config.plotted _ stored).markVisitedThrough marked

/-! ## What is remembered -/

/-- The built-in resolvers work for a navigator to whom only finite coordinates are reported. -/
structure Navigator.IsPlaced {σ : Type} (n : Navigator σ) : Prop where
  standard : n.registry = .standard
  atlas : n.atlas.IsPlaced
  system : ∀ w, n.traveller.system = .reply (some w) → w.coordinates.IsFinite

/-- A navigator starts where the traveller is, or the fleet carrier. -/
theorem Navigator.IsPlaced.startOf {σ : Type} {n : Navigator σ} (placed : n.IsPlaced)
    {type : QueryType} {start : Waypoint} (h : n.startOf type = .reply (some start)) :
    start.coordinates.IsFinite := by
  rw [Navigator.startOf] at h
  split at h
  · cases hcarrier : n.traveller.carrier with
    | crash =>
      rw [hcarrier] at h
      cases h
    | reply carrier =>
      rw [hcarrier, Call.bind_reply] at h
      split at h
      · exact placed.atlas.systemNamed _ start h
      · cases h
  · exact placed.system start h

namespace Config

variable {σ : Type} {n : Navigator σ} {config config' : Config} {query : Query} {route : Route}
  {type : QueryType} {fresh answer : Answer}

theorem IsPlaced.stored (h : config.IsPlaced) (stored : config.storedRoute? type = some route) :
    route.IsPlaced := by
  by_cases carrier : type = .carrier
  · rw [carrier] at stored
    exact h.carrier route stored
  · exact h.plotted route (plottedRoute_of_storedRoute? carrier stored)

theorem IsPlaced.settle (h : config.IsPlaced) (placed : fresh.route.IsPlaced) :
    (config.settle type fresh).route.IsPlaced := by
  rcases config.route_settle type fresh with same | stored
  · exact same ▸ placed
  · exact h.stored stored

theorem maxStationDistance_remember (config : Config) (query : Query) (route : Route) :
    (config.remember query route).maxStationDistance = config.maxStationDistance := by
  have kept : (config.rememberQuery query).maxStationDistance = config.maxStationDistance := by
    rw [rememberQuery]
    split
    · rfl
    · rfl
  rw [remember, rememberRoute.eq_def, ← kept]
  split
  · rfl
  · rfl
  · rfl
  · rfl

theorem IsPlaced.remember (h : config.IsPlaced) (placed : route.IsPlaced) (query : Query) :
    (config.remember query route).IsPlaced where
  plotted r hr := by
    obtain ⟨-, kept⟩ | ⟨-, -, rfl⟩ := plottedRoute_remember hr
    · exact h.plotted r kept
    · exact placed
  carrier r hr := by
    obtain ⟨-, kept⟩ | ⟨-, rfl⟩ := carrierRoute_remember hr
    · exact h.carrier r kept
    · exact placed
  maxStationDistance := by
    rw [maxStationDistance_remember]
    exact h.maxStationDistance

/-- The route of an answer that a consultation comes to is placed. -/
theorem IsPlaced.consult (h : config.IsPlaced) (placed : n.IsPlaced)
    (consulted : (n.consult query config).outcome = .ok (some answer)) :
    answer.route.IsPlaced := by
  obtain ⟨start, resolver, missions, fresh, hstart, registered, -, answered, rfl⟩ :=
    Navigator.exists_of_consult consulted
  rw [placed.standard] at registered
  exact h.settle (Resolver.isPlaced_of_builtIn (Registry.mem_of_ofResolvers registered) placed.atlas
    (placed.startOf hstart) h answered)

end Config

end Astrogation
