import Astrogation.Proofs.Navigator.Notified
import Astrogation.Proofs.Navigator.Remembered

/-!
# Where answers begin

A route *begins* at a place if its first stop is there and visited (`Route.Begins`). Whatever
the atlas replies, a built-in resolver which does not manage the plotted route answers with a
route that begins in the system where the query starts (`Resolver.begins_of_builtIn`). The
answer that is given has this route, or the stored one, if that leads to the same system and
has no more stops. The stored route begins where a query started that was asked before, which
may be elsewhere (`Chart.begins_elsewhere`).

Updating the plotted route leaves its first stop alone. So, as long as all plotted routes are
asked for at one place, and those of the fleet carrier at another, all answers begin there;
and wherever they are asked for, their first stops are visited (`Session.answers_begin`).
-/

namespace Astrogation

/-! ## Routes which begin at a place -/

/-- A route whose first stop is at a place, and visited. -/
def Route.Begins (place : Waypoint → Prop) (r : Route) : Prop :=
  ∃ w ws, r.waypoints = w :: ws ∧ w.visited = true ∧ place w

namespace Route

variable {place place' : Waypoint → Prop} {r s : Route} {start : Waypoint} {address : Address}

theorem Begins.imp (h : r.Begins place) (wider : ∀ w, place w → place' w) : r.Begins place' := by
  obtain ⟨w, ws, hr, visited, here⟩ := h
  exact ⟨w, ws, hr, visited, wider w here⟩

theorem Begins.stamped (h : r.Begins (·.sameSystem start)) :
    r.stamped.Begins (·.sameSystem start) := by
  obtain ⟨w, ws, hr, visited, here⟩ := h
  have same := r.map_stamped (f := fun w => (w.visited, w.sameSystem start)) fun _ _ _ => rfl
  rw [hr, List.map_cons] at same
  obtain ⟨v, vs, hv, first, -⟩ := List.map_eq_cons_iff.1 same
  obtain ⟨visited', here'⟩ := Prod.mk.inj first
  exact ⟨v, vs, hv, visited'.trans visited, here'.trans here⟩

theorem Begins.distinct (h : r.Begins place) : r.distinct.Begins place := by
  obtain ⟨w, ws, hr, visited, here⟩ := h
  obtain ⟨rest, kept, -⟩ := exists_distinctFrom_cons w ws
  refine ⟨w, rest, ?_, visited, here⟩
  rw [Route.distinct, hr]
  exact kept

theorem begins_toDestination (start destination : Waypoint) :
    (toDestination start destination).Begins (·.sameSystem start) :=
  Begins.stamped ⟨start.intoVisited, _, rfl, start.visited_intoVisited, start.sameSystem_refl⟩

theorem begins_alongPlot (start : Waypoint) (plot : List Waypoint) :
    (alongPlot start plot).Begins (·.sameSystem start) :=
  Begins.stamped <| Begins.distinct
    ⟨start.intoVisited, _, rfl, start.visited_intoVisited, start.sameSystem_refl⟩

/-- The first stop, which is visited, stays the same when more stops are visited. -/
theorem Begins.markVisitedThrough (h : r.Begins place)
    (marked : r.markVisitedThrough? address = some s) : s.Begins place := by
  obtain ⟨w, ws, hr, visited, here⟩ := h
  obtain ⟨vs, hvs, rfl⟩ := Option.map_eq_some_iff.1 marked
  -- Visiting it again changes nothing.
  have again : w.intoVisited = w := by
    rw [Waypoint.intoVisited, ← visited]
  rw [hr, visitThrough?, again] at hvs
  split at hvs
  · exact ⟨w, ws, (Option.some.inj hvs).symm, visited, here⟩
  · obtain ⟨rest, -, same⟩ := Option.map_eq_some_iff.1 hvs
    exact ⟨w, rest, same.symm, visited, here⟩

end Route

namespace Circuit

variable {missions : List Mission} {start : Waypoint} {r : Route}

theorem begins_layOut (start : Waypoint) (order : List Waypoint) (origin : Option Position) :
    ({ waypoints := layOut start order, origin } : Route).Begins (·.sameSystem start) := by
  -- Unless a stop in its system leads the order, the start is put in front.
  have leads : ∀ ws, ({ waypoints := start.intoVisited :: ws, origin } : Route).Begins
      (·.sameSystem start) :=
    fun ws => ⟨start.intoVisited, ws, rfl, start.visited_intoVisited, start.sameSystem_refl⟩
  cases order with
  | nil => exact leads []
  | cons w ws =>
    rw [layOut]
    split
    · next here => exact ⟨w.intoVisited, ws, rfl, w.visited_intoVisited, here⟩
    · exact leads (w :: ws)

/-- In whichever order the stops of a circuit are visited, its route begins at the start. -/
theorem begins_route (missions : List Mission) (start : Waypoint) (order : List Waypoint) :
    (route missions start order).Begins (·.sameSystem start) := by
  obtain ⟨w, ws, hr, visited, here⟩ := (begins_layOut start order start.position?).distinct
  refine Route.Begins.stamped ⟨assignMissions missions w, ws.map (assignMissions missions), ?_,
    visited, here⟩
  dsimp only
  rw [hr, List.map_cons]

theorem begins_of_plan? {systems : List Waypoint} {home : Option Waypoint} {answer : Answer}
    (h : plan? missions start systems home = some answer) :
    answer.route.Begins (·.sameSystem start) := by
  rcases hstops : withHome start (gather start systems) home with ⟨stops, shape⟩
  obtain ⟨places, -, hroute, -, -⟩ := answer_plan? hstops h
  rw [hroute]
  exact begins_route missions start _

end Circuit

/-! ## What resolvers answer -/

namespace Resolver

open Consultation

variable {query : Query} {start : Waypoint} {ctx : Context} {answer : Answer} {type : QueryType}

/-- Whatever it is told, a built-in resolver which does not manage the plotted route answers
    with a route that begins at the start. -/
theorem begins_of_builtIn {resolver : Resolver} (builtIn : resolver ∈ Registry.builtIn)
    (cancels : resolver.type ≠ .cancel) (updates : resolver.type ≠ .update)
    (h : (resolver.resolve query start ctx).outcome = .ok (some answer)) :
    answer.route.Begins (·.sameSystem start) := by
  cases responds_of_builtIn builtIn h with
  | leads _ route =>
    rw [route]
    exact Route.begins_toDestination start _
  | plots _ _ route =>
    rw [route]
    exact Route.begins_alongPlot start _
  | circles _ _ planned => exact Circuit.begins_of_plan? planned
  | cancels type => exact absurd type cancels
  | updates type => exact absurd type updates

end Resolver

/-! ## What is remembered -/

/-- Where the routes that answer queries of a type begin, if those of the fleet carrier begin
    `there` and all others `here`. -/
def QueryType.Beginning (here there : Waypoint → Prop) (type : QueryType) : Waypoint → Prop :=
  if type = .carrier then there else here

theorem QueryType.beginning_of_both {here there : Waypoint → Prop} {w : Waypoint} (h : here w)
    (h' : there w) (type : QueryType) : type.Beginning here there w := by
  rw [Beginning]
  split
  · exact h'
  · exact h

/-- A configuration whose plotted route begins `here`, and the route of the fleet carrier
    `there`. -/
structure Config.Begins (here there : Waypoint → Prop) (config : Config) : Prop where
  plotted : ∀ r, config.plottedRoute = some r → r.Begins here
  carrier : ∀ r, config.carrierRoute = some r → r.Begins there

namespace Config

variable {here there : Waypoint → Prop} {config : Config} {query : Query} {route : Route}
  {type : QueryType} {fresh : Answer}

theorem begins_default (here there : Waypoint → Prop) : ({} : Config).Begins here there :=
  ⟨fun _ h => (nomatch h), fun _ h => (nomatch h)⟩

theorem Begins.stored (h : config.Begins here there)
    (stored : config.storedRoute? type = some route) :
    route.Begins (type.Beginning here there) := by
  by_cases carrier : type = .carrier
  · rw [QueryType.Beginning, if_pos carrier]
    rw [carrier] at stored
    exact h.carrier route stored
  · rw [QueryType.Beginning, if_neg carrier]
    exact h.plotted route (plottedRoute_of_storedRoute? carrier stored)

theorem Begins.settle (h : config.Begins here there)
    (begins : fresh.route.Begins (type.Beginning here there)) :
    (config.settle type fresh).route.Begins (type.Beginning here there) := by
  rcases config.route_settle type fresh with same | stored
  · exact same ▸ begins
  · exact h.stored stored

theorem Begins.remember (h : config.Begins here there)
    (begins : query.type ≠ .cancel → route.Begins (query.type.Beginning here there)) :
    (config.remember query route).Begins here there where
  plotted r hr := by
    obtain ⟨-, stored⟩ | ⟨carrier, cancel, rfl⟩ := plottedRoute_remember hr
    · exact h.plotted r stored
    · have given := begins cancel
      rwa [QueryType.Beginning, if_neg carrier] at given
  carrier r hr := by
    obtain ⟨-, stored⟩ | ⟨carrier, rfl⟩ := carrierRoute_remember hr
    · exact h.carrier r stored
    · have given := begins (by rw [carrier]; decide)
      rwa [QueryType.Beginning, if_pos carrier] at given

end Config

/-! ## Answers and runs -/

section Runs

variable {σ : Type} {here there : Waypoint → Prop} {config config' : Config} {answer : Answer}
  {r : Request σ}

/-- A request of the built-in resolvers which, if it is for a route, starts at a place: `there`
    if the route is for the fleet carrier, and `here` otherwise. -/
structure Request.Starts (here there : Waypoint → Prop) (r : Request σ) : Prop where
  standard : r.navigator.registry = .standard
  begins : r.query.type ≠ .cancel → r.query.type ≠ .update →
    ∀ start, r.navigator.startOf r.query.type = .reply (some start) →
      ∀ w, w.sameSystem start = true → r.query.type.Beginning here there w

/-- The route which is answered begins where it should. -/
theorem Request.Starts.begins_answer (starts : r.Starts here there) (h : config.Begins here there)
    (routed : r.query.type ≠ .cancel)
    (consulted : (r.navigator.consult r.query config).outcome = .ok (some answer)) :
    answer.route.Begins (r.query.type.Beginning here there) := by
  obtain ⟨start, resolver, missions, fresh, hstart, registered, -, answered, rfl⟩ :=
    Navigator.exists_of_consult consulted
  have type := r.navigator.registry.type_eq _ _ registered
  rw [starts.standard] at registered
  have builtIn := Registry.mem_of_ofResolvers registered
  refine h.settle ?_
  by_cases update : r.query.type = .update
  · -- The plotted route is updated, wherever the query starts.
    rw [Resolver.eq_update_of_builtIn builtIn (type.trans update)] at answered
    obtain ⟨plotted, address, updated, hplotted, -, visited, rfl⟩ := Resolver.answer_update answered
    rw [QueryType.Beginning, if_neg (by rw [update]; decide)]
    exact (h.plotted plotted hplotted).markVisitedThrough visited
  · have begins := Resolver.begins_of_builtIn builtIn (type ▸ routed) (type ▸ update) answered
    exact begins.imp (starts.begins routed update start hstart)

theorem Config.Begins.evolves (h : config.Begins here there) (starts : r.Starts here there)
    (evolves : r.navigator.Evolves r.query config config') : config'.Begins here there := by
  rcases evolves with rfl | ⟨answer, consulted, rfl⟩
  · exact h
  · exact h.remember fun routed => starts.begins_answer h routed consulted

theorem Config.Begins.after {s : Session σ} {requests : List (Request σ)}
    (h : s.published.config.Begins here there) (starts : ∀ r ∈ requests, r.Starts here there) :
    (s.after requests).published.config.Begins here there := by
  induction requests generalizing s with
  | nil => exact h
  | cons r rest ih =>
    refine ih ?_ fun r' hr' => starts r' (List.mem_cons_of_mem r hr')
    exact h.evolves (starts r List.mem_cons_self) (r.navigator.evolves_resolve r.query s)

/-- Along a run, the answers begin where the queries start. -/
theorem Config.Begins.begins_answer {s : Session σ} {earlier : List (Request σ)}
    {last : Request σ} (h : s.published.config.Begins here there)
    (starts : ∀ r ∈ last :: earlier, r.Starts here there) (routed : last.query.type ≠ .cancel)
    (answered : (last.navigator.resolve last.query (s.after earlier)).outcome = .ok (some answer)) :
    answer.route.Begins (last.query.type.Beginning here there) := by
  have before := h.after fun r hr => starts r (List.mem_cons_of_mem last hr)
  exact (starts last List.mem_cons_self).begins_answer before routed
    (Navigator.consulted_of_answered answered)

/-- Whatever is stored and whatever the atlas replies: if a query for a route is answered, then
    the built-in resolver has answered with a fresh route which begins where the query starts.
    The answer is this one, unless a route is stored which may take its place, leads to the same
    system and has no more stops. Then the answer has the stored route.

    Along a run in which the routes that are asked for start at one place, and those of the
    fleet carrier at another, every answer but to cancel has a route which begins there, if
    those that were stored in the beginning do. Wherever they start, the first stop of every
    route has been visited, if nothing was stored in the beginning. -/
theorem Session.answers_begin :
    (∀ (r : Request σ) (s : Session σ) (answer : Answer), r.navigator.registry = .standard →
      r.query.type ≠ .cancel → r.query.type ≠ .update →
      (r.navigator.resolve r.query s).outcome = .ok (some answer) →
      ∃ start resolver missions fresh,
        r.navigator.startOf r.query.type = .reply (some start) ∧
        Registry.standard.get? r.query.type = some resolver ∧
        (resolver.resolve r.query start
          ⟨r.navigator.atlas, r.navigator.traveller, missions, s.published.config⟩).outcome =
            .ok (some fresh) ∧
        fresh.route.Begins (·.sameSystem start) ∧
        (answer = fresh ∨ ∃ stored,
          s.published.config.storedRoute? r.query.type = some stored ∧
          answer = fresh.withRoute stored ∧
          stored.sameGoal fresh.route = true ∧ stored.size ≤ fresh.route.size)) ∧
    (∀ (here there : Waypoint → Prop) (s : Session σ) (earlier : List (Request σ))
      (last : Request σ) (answer : Answer), s.published.config.Begins here there →
      (∀ r ∈ last :: earlier, r.Starts here there) → last.query.type ≠ .cancel →
      (last.navigator.resolve last.query (s.after earlier)).outcome = .ok (some answer) →
      answer.route.Begins (last.query.type.Beginning here there)) ∧
    ∀ (vault : σ) (earlier : List (Request σ)) (last : Request σ) (answer : Answer),
      (∀ r ∈ last :: earlier, r.navigator.registry = .standard) → last.query.type ≠ .cancel →
      (last.navigator.resolve last.query
        (Session.after { published := {}, vault } earlier)).outcome = .ok (some answer) →
      answer.route.Begins fun _ => True := by
  refine ⟨fun r s answer standard cancels updates answered => ?_,
    fun _ _ _ _ _ _ h starts cancels answered => h.begins_answer starts cancels answered,
    fun vault earlier last answer standard cancels answered => ?_⟩
  · obtain ⟨start, resolver, missions, fresh, hstart, registered, -, planned, rfl⟩ :=
      Navigator.exists_of_consult (Navigator.consulted_of_answered answered)
    have type := r.navigator.registry.type_eq _ _ registered
    rw [standard] at registered
    have begins := Resolver.begins_of_builtIn (Registry.mem_of_ofResolvers registered)
      (type ▸ cancels) (type ▸ updates) planned
    exact ⟨start, resolver, missions, fresh, hstart, registered, planned, begins,
      s.published.config.settle_cases r.query.type fresh⟩
  · -- Every stop is at a place which is anywhere.
    have anywhere : ∀ r ∈ last :: earlier, r.Starts (fun _ => True) fun _ => True :=
      fun r hr => ⟨standard r hr, fun _ _ _ _ _ _ => QueryType.beginning_of_both trivial trivial _⟩
    have begins := (Config.begins_default (fun _ => True) fun _ => True).begins_answer
      (s := { published := {}, vault }) anywhere cancels answered
    exact begins.imp fun _ _ => trivial

namespace Chart

/-- A query of a traveller who is at a system of the frontier. -/
def askedAt (here : StarSystem) (query : Query) : Request Unit where
  navigator :=
    { atlas := frontier.atlas
      traveller := TravellerState.traveller { system := some here.waypoint }
      store := { load := fun _ => .ok {}, save := fun _ _ => (.reply (.ok ()), ()) } }
  query

/-- A route by way of neutron stars, plotted at Sol, begins there, and so it does when it is
    updated at Jackson. -/
theorem begins_at_sol :
    let s : Session Unit := { published := {}, vault := () }
    let plot := askedAt sol { type := .neutron, arg0 := some "Colonia", numeric := some 6 }
    let update := askedAt jackson { type := .update }
    (∃ answer, (plot.navigator.resolve plot.query s).outcome = .ok (some answer) ∧
      answer.route.Begins (·.sameSystem sol.waypoint)) ∧
    ∃ answer, (update.navigator.resolve update.query (s.after [plot])).outcome =
        .ok (some answer) ∧
      answer.route.Begins (·.sameSystem sol.waypoint) ∧ answer.route.Begins fun _ => True := by
  intro s plot update
  obtain ⟨fresh, run, anywhere⟩ := @Session.answers_begin Unit
  have starts : ∀ r ∈ [update, plot], r.Starts (·.sameSystem sol.waypoint) fun _ => True := by
    intro r hr
    rcases List.mem_cons.1 hr with rfl | hr
    · exact ⟨rfl, fun _ updates => absurd rfl updates⟩
    · obtain rfl := List.mem_singleton.1 hr
      refine ⟨rfl, fun _ _ start here w hw => QueryType.beginning_of_both ?_ trivial _⟩
      obtain rfl := Option.some.inj (Call.reply.inj here)
      exact hw
  obtain ⟨plotted, plots, -⟩ : ∃ answer,
      (plot.navigator.resolve plot.query s).outcome = .ok (some answer) ∧
        answer.type == .neutron :=
    Answer.exists_of_any (by decide +kernel)
  obtain ⟨updated, updates, -⟩ : ∃ answer,
      (update.navigator.resolve update.query (s.after [plot])).outcome = .ok (some answer) ∧
        answer.type == .update :=
    Answer.exists_of_any (by decide +kernel)
  refine ⟨⟨plotted, plots, ?_⟩, updated, updates, ?_, ?_⟩
  · obtain ⟨start, resolver, missions, route, here, -, -, begins, rfl | ⟨stored, kept, -⟩⟩ :=
      fresh plot s plotted rfl (by decide) (by decide) plots
    · obtain rfl := Option.some.inj (Call.reply.inj here)
      exact begins
    · cases kept
  · exact run _ _ s [plot] update updated (Config.begins_default _ _) starts (by decide) updates
  · exact anywhere () [plot] update updated (fun r hr => (starts r hr).standard) (by decide) updates

/-- A route to Colonia which was set at Sol is kept when it is set again at Jackson, and does
    not begin there. -/
theorem begins_elsewhere :
    let s : Session Unit := { published := {}, vault := () }
    let query : Query := { type := .set, arg0 := some "Colonia" }
    let again := askedAt jackson query
    ∃ answer, (again.navigator.resolve query (s.after [askedAt sol query])).outcome =
        .ok (some answer) ∧
      again.navigator.startOf .set = .reply (some jackson.waypoint) ∧
      ¬answer.route.Begins (·.sameSystem jackson.waypoint) := by
  intro s query again
  obtain ⟨answer, answered, elsewhere⟩ : ∃ answer,
      (again.navigator.resolve query (s.after [askedAt sol query])).outcome = .ok (some answer) ∧
        answer.route.waypoints.head?.all (fun w => !w.sameSystem jackson.waypoint) = true :=
    Answer.exists_of_any (by decide +kernel)
  refine ⟨answer, answered, rfl, ?_⟩
  rintro ⟨w, ws, begins, -, here⟩
  rw [begins, List.head?_cons, Option.all_some, here] at elsewhere
  cases elsewhere

end Chart

end Runs

end Astrogation
