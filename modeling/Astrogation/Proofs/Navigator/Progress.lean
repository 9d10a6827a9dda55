import Astrogation.Proofs.Navigator.Recalled
import Astrogation.Proofs.Route.Progress

/-!
# Updating the plotted route

A query to update the plotted route is answered by that route with the stops up to the system of
the traveller visited, and leaves this route plotted (`Request.Updates`). So after updates in any
order, the furthest of the systems in which they were asked for decides which stops are visited,
and to ask again in one of them changes nothing (`Session.progress_in_any_order`). A traveller
who is not in a system on the route gets no answer.
-/

namespace Astrogation

variable {σ : Type}

/-! ## Queries which end -/

namespace Navigator

variable (n : Navigator σ) {ask : Asking σ} {query : Query} {s : Session σ}
  {answer? : Option Answer}

/-- The consultation comes to what the resolver answers, compared with the stored route. -/
theorem consult_of_answered {start : Waypoint} {resolver : Resolver} {missions : List Mission}
    {config : Config} (hstart : n.startOf query.type = .reply (some start))
    (registered : n.registry.get? query.type = some resolver)
    (hmissions : n.traveller.missions = .reply missions)
    (answered : (resolver.resolve query start
      ⟨n.atlas, n.traveller, missions, config⟩).outcome = .ok answer?) :
    (n.consult query config).outcome = .ok (answer?.map (config.settle query.type)) := by
  have attempted : (attempt (resolver.resolve query start
      ⟨n.atlas, n.traveller, missions, config⟩)).outcome = .ok answer? := by
    rw [attempt, answered]
  simp only [consult, hstart, registered, hmissions, attempted, Consultation.outcome_bind,
    Consultation.outcome_ofCall_reply, Consultation.outcome_pure, Except.bind]

theorem work_returns (refuses : ask.Refuses) (attended : n.Attended) (working : s.resolving = true)
    (consulted : (n.consult query s.published.config).outcome = .ok answer?) :
    (n.work ask query s).outcome = .ok answer? := by
  rcases answer? with _ | answer
  · rw [n.work_of_none consulted]
    rfl
  · obtain ⟨system, station, announced⟩ := n.publish_announces ask query answer
      (n.afterConsult query s) (attended.store _ _) attended.others.looksUp
    obtain ⟨entries, -, told⟩ := n.notify_delivers refuses attended.observers
      (s := n.announced query answer system station (n.afterConsult query s)) working
    rw [n.work_of_some consulted, announced, told]
    rfl

/-- If all who are called reply and the observers return, a query at the top ends with what the
    consultation comes to. -/
theorem resolve_returns (attended : n.Attended) (top : s.resolving = false)
    (consulted : (n.consult query s.published.config).outcome = .ok answer?) :
    (n.resolve query s).outcome = .ok answer? := by
  obtain ⟨ask, b, refuses, begun, config, resolved⟩ :=
    n.resolve_of_returns attended.observers query top
  have working := (n.work_cases refuses query begun).1
  have worked := n.work_returns refuses attended begun (config.symm ▸ consulted)
  rw [resolved, n.release_returns refuses attended.observers working, worked]

end Navigator

theorem Session.after_append (s : Session σ) (earlier later : List (Request σ)) :
    s.after (earlier ++ later) = (s.after earlier).after later := by
  induction earlier generalizing s with
  | nil => rfl
  | cons r rest ih => exact ih _

/-! ## Updates -/

/-- A query to update the plotted route, asked by a traveller who is at `w`. -/
structure Request.UpdatesFrom (r : Request σ) (w : Waypoint) : Prop where
  standard : r.navigator.registry = .standard
  attended : r.navigator.Attended
  type : r.query.type = .update
  here : r.navigator.traveller.system = .reply (some w)

/-- A query to update the plotted route, asked in the system of an address. -/
def Request.UpdatesAt (r : Request σ) (a : Address) : Prop :=
  ∃ w, r.UpdatesFrom w ∧ w.address = some a

/-- An update is answered by a route, with the number of its stops which are not visited yet, and
    leaves this route plotted, and nothing else of the configuration changed. -/
structure Request.Updates (r : Request σ) (s : Session σ) (route : Route) : Prop where
  answered : (r.navigator.resolve r.query s).outcome =
    .ok (some (.ofRoute .update route (route.waypoints.countP (!·.visited))))
  config : (r.navigator.resolve r.query s).session.published.config =
    { s.published.config with plottedRoute := some route }
  top : (r.navigator.resolve r.query s).session.resolving = false

theorem Config.remember_update {query : Query} (type : query.type = .update) (config : Config)
    (route : Route) :
    config.remember query route = { config with plottedRoute := some route } := by
  rw [remember, rememberQuery, type]
  simp only [rememberRoute.eq_def, type]
  rfl

namespace Request

variable {r : Request σ} {s : Session σ} {w : Waypoint} {a : Address} {plotted : Route} {n : Nat}

/-- The resolver is asked for the plotted route with the system of the traveller visited, and what
    it answers is not compared with the route that is stored. -/
theorem UpdatesFrom.consult (u : r.UpdatesFrom w) {config : Config}
    (stored : config.plottedRoute = some plotted) :
    (r.navigator.consult r.query config).outcome =
      .ok ((w.address.bind plotted.markVisitedThrough?).map fun updated =>
        .ofRoute .update updated (Resolver.stopsAhead updated)) := by
  obtain ⟨missions, hmissions⟩ := u.attended.others.missions
  have start : r.navigator.startOf r.query.type = .reply (some w) := by
    rw [u.type]
    exact u.here
  have registered : r.navigator.registry.get? r.query.type = some Resolver.update := by
    rw [u.standard, u.type]
    rfl
  have answered : (Resolver.update.resolve r.query w
      ⟨r.navigator.atlas, r.navigator.traveller, missions, config⟩).outcome =
        .ok ((w.address.bind plotted.markVisitedThrough?).map fun updated =>
          .ofRoute .update updated (Resolver.stopsAhead updated)) := by
    simp [Resolver.update, stored]
  rw [r.navigator.consult_of_answered start registered hmissions answered, u.type]
  rcases w.address.bind plotted.markVisitedThrough? with _ | updated <;> rfl

/-- An update in a system on the plotted route does what it should. -/
theorem UpdatesAt.updates (u : r.UpdatesAt a) (top : s.resolving = false)
    (stored : s.published.config.plottedRoute = some plotted)
    (first : plotted.firstAt? a = some n) :
    r.Updates s (plotted.visitedThrough n) := by
  obtain ⟨w, u, here⟩ := u
  have consulted := u.consult stored
  rw [here, Option.bind_some, Route.markVisitedThrough?_eq, first] at consulted
  have answered := r.navigator.resolve_returns u.attended top consulted
  rcases r.navigator.resolve_cases r.query top with ⟨ended, -⟩ | ⟨answer, ended, published, idle⟩ |
    ⟨ending, ended, -⟩
  · cases answered.symm.trans ended
  · obtain rfl := Option.some.inj (Except.ok.inj (answered.symm.trans ended))
    refine ⟨?_, ?_, idle⟩
    · rw [answered, List.countP_eq_length_filter]
      rfl
    · rw [published.config, Config.remember_update u.type]
      rfl
  · cases answered.symm.trans ended

/-- A traveller who is not in a system on the plotted route gets no answer, and nothing changes. -/
theorem UpdatesFrom.declined (u : r.UpdatesFrom w) (top : s.resolving = false)
    (stored : s.published.config.plottedRoute = some plotted)
    (off : ∀ a, w.address = some a → plotted.contains a = false) :
    (r.navigator.resolve r.query s).outcome = .ok none ∧
      (s.flagged false).Kept (r.navigator.resolve r.query s).session := by
  have consulted := u.consult stored
  have nothing : w.address.bind plotted.markVisitedThrough? = none := by
    rcases here : w.address with _ | a
    · rfl
    · rw [Option.bind_some, Route.markVisitedThrough?, Option.map_eq_none_iff,
        Route.visitThrough?_eq_none_iff]
      exact off a here
  rw [nothing] at consulted
  have unanswered := r.navigator.resolve_returns u.attended top consulted
  rcases r.navigator.resolve_cases r.query top with ⟨ended, kept⟩ | ⟨answer, ended, -⟩ |
    ⟨ending, ended, -⟩
  · exact ⟨ended, kept⟩
  · cases unanswered.symm.trans ended
  · cases unanswered.symm.trans ended

end Request

/-! ## Updates one after the other -/

namespace Session

variable {s : Session σ} {plotted : Route} {requests : List (Request σ)} {as : List Address}

/-- After updates in systems on the plotted route, those systems have been marked as visited one
    after the other, and nothing else of the configuration has changed. -/
theorem exists_after_updates (updates : List.Forall₂ Request.UpdatesAt requests as)
    (top : s.resolving = false) (stored : s.published.config.plottedRoute = some plotted)
    (on : ∀ a ∈ as, plotted.contains a = true) :
    ∃ route, plotted.markAll? as = some route ∧ (s.after requests).resolving = false ∧
      (s.after requests).published.config =
        { s.published.config with plottedRoute := some route } := by
  induction updates generalizing s plotted with
  | nil => exact ⟨plotted, rfl, top, by rw [← stored]; rfl⟩
  | @cons r a rest as u _ ih =>
    rw [List.forall_mem_cons] at on
    obtain ⟨n, first⟩ := Route.contains_iff_exists_firstAt?.1 on.1
    have updated := u.updates top stored first
    -- The other systems are still on the route.
    have on' : ∀ a ∈ as, (plotted.visitedThrough n).contains a = true := by simpa using on.2
    obtain ⟨route, marked, top', config⟩ := ih updated.top (by rw [updated.config]) on'
    refine ⟨route, ?_, top', ?_⟩
    · rw [Route.markAll?_cons, Route.markVisitedThrough?_eq, first]
      exact marked
    · rw [after, config, updated.config]

/-- The last of several updates is answered by the plotted route with the stops up to the furthest
    system visited, and leaves this route plotted. -/
theorem updates_last {earlier : List (Request σ)} {last : Request σ} {a : Address} {n : Nat}
    (updates : List.Forall₂ Request.UpdatesAt earlier as) (u : last.UpdatesAt a)
    (top : s.resolving = false) (stored : s.published.config.plottedRoute = some plotted)
    (on : ∀ b ∈ as ++ [a], plotted.contains b = true) (furthest : plotted.Furthest (as ++ [a]) n) :
    last.Updates (s.after earlier) (plotted.visitedThrough n) ∧
      (s.after (earlier ++ [last])).published.config =
        { s.published.config with plottedRoute := some (plotted.visitedThrough n) } := by
  obtain ⟨route, marked, top', config⟩ := exists_after_updates updates top stored fun b hb =>
    on b (List.mem_append_left [a] hb)
  -- The last update does to the route what it does to mark its system after the others.
  obtain ⟨n', furthest', marked'⟩ := Route.exists_furthest (by simp) on
  obtain rfl := furthest'.unique furthest
  rw [Route.markAll?_append, marked, Option.bind_some, Route.markAll?_cons,
    Route.markVisitedThrough?_eq] at marked'
  obtain ⟨updated, hupdated, same⟩ := Option.bind_eq_some_iff.1 marked'
  obtain rfl := Option.some.inj same
  obtain ⟨m, first, visited⟩ := Option.map_eq_some_iff.1 hupdated
  have stored' : (s.after earlier).published.config.plottedRoute = some route := by rw [config]
  have does := u.updates top' stored' first
  rw [visited] at does
  refine ⟨does, ?_⟩
  rw [after_append, after, after, does.config, config]

/-- An update in a system through which the plotted route is visited leaves it as it is. -/
theorem updates_again {again : Request σ} {a : Address} {m n : Nat} (u : again.UpdatesAt a)
    (top : s.resolving = false)
    (stored : s.published.config.plottedRoute = some (plotted.visitedThrough n))
    (first : plotted.firstAt? a = some m) (le : m ≤ n) :
    again.Updates s (plotted.visitedThrough n) ∧
      (again.navigator.resolve again.query s).session.published.config = s.published.config := by
  have updated := u.updates top stored (n := m) (by simpa using first)
  rw [Route.visitedThrough_visitedThrough, max_eq_left le] at updated
  exact ⟨updated, by rw [updated.config, ← stored]⟩

/-- If several systems on a route are marked as visited one after the other, in whatever order and
    however often, then its stops up to the furthest of them have been visited besides those that
    were, and nothing else has changed.

    So it is with updates of the plotted route, asked in these systems one after the other by
    whomever: the last one is answered by this route and the number of its stops which are not
    visited yet, and leaves it plotted; and if another is asked in one of these systems, it is
    answered by the same and leaves the configuration as it is. A traveller whose system has no
    address or is not on the plotted route gets no answer, and nothing is changed or saved. -/
theorem progress_in_any_order :
    (∀ (r : Route) (as : List Address), as ≠ [] → (∀ a ∈ as, r.contains a = true) →
      ∃ n, r.Furthest as n ∧ ∀ bs, (∀ a, a ∈ bs ↔ a ∈ as) →
        r.markAll? bs = some (r.visitedThrough n)) ∧
    ∀ (s : Session σ) (plotted : Route), s.resolving = false →
      s.published.config.plottedRoute = some plotted →
      (∀ as, as ≠ [] → (∀ a ∈ as, plotted.contains a = true) → ∃ n, plotted.Furthest as n ∧
        ∀ (earlier : List (Request σ)) (last : Request σ) (bs : List Address) (b : Address),
          List.Forall₂ Request.UpdatesAt earlier bs → last.UpdatesAt b →
          (∀ a, a ∈ bs ++ [b] ↔ a ∈ as) →
          let t := s.after (earlier ++ [last])
          last.Updates (s.after earlier) (plotted.visitedThrough n) ∧
          t.published.config =
            { s.published.config with plottedRoute := some (plotted.visitedThrough n) } ∧
          ∀ (again : Request σ) (a : Address), a ∈ as → again.UpdatesAt a →
            again.Updates t (plotted.visitedThrough n) ∧
            (again.navigator.resolve again.query t).session.published.config =
              t.published.config) ∧
      ∀ (r : Request σ) (w : Waypoint), r.UpdatesFrom w →
        (∀ a, w.address = some a → plotted.contains a = false) →
        (r.navigator.resolve r.query s).outcome = .ok none ∧
          (s.flagged false).Kept (r.navigator.resolve r.query s).session := by
  refine ⟨fun r as ne on => ?_, fun s plotted top stored => ⟨fun as ne on => ?_,
    fun r w u off => u.declined top stored off⟩⟩
  · obtain ⟨n, furthest, -⟩ := Route.exists_furthest ne on
    refine ⟨n, furthest, fun bs same => ?_⟩
    have ne' : bs ≠ [] := fun none => ne (List.eq_nil_iff_forall_not_mem.2 fun a ha => by
      simpa [none] using (same a).2 ha)
    obtain ⟨n', furthest', marked⟩ := Route.exists_furthest ne' fun b hb => on b ((same b).1 hb)
    rwa [furthest'.unique (furthest.congr same)] at marked
  · obtain ⟨n, furthest, -⟩ := Route.exists_furthest ne on
    refine ⟨n, furthest, fun earlier last bs b updates u same => ?_⟩
    obtain ⟨does, config⟩ := updates_last updates u top stored
      (fun c hc => on c ((same c).1 hc)) (furthest.congr same)
    refine ⟨does, config, fun again a ha u' => ?_⟩
    obtain ⟨m, first⟩ := Route.contains_iff_exists_firstAt?.1 (on a ha)
    refine updates_again u' ?_ (by rw [config]) first (furthest.bound a ha m first)
    rw [after_append]
    exact does.top

/-- A route which comes to Sol twice, and on which Colonia was visited before Jackson. -/
def wandering : Route :=
  .ofWaypoints [Chart.sol.waypoint, Chart.jackson.waypoint, Chart.sol.waypoint,
    Chart.colonia.waypoint.intoVisited]

/-- A castaway's query to update the route, asked somewhere else. -/
def updateAt (here : Waypoint) : Request Nat where
  navigator :=
    { Navigator.castaway with traveller := TravellerState.traveller { system := some here } }
  query := { type := .update }

theorem updatesFrom_updateAt (here : Waypoint) : (updateAt here).UpdatesFrom here where
  standard := rfl
  attended :=
    { others := ⟨⟨_, rfl⟩, ⟨_, rfl⟩, ⟨_, rfl⟩, fun _ => ⟨_, rfl⟩, fun _ => ⟨_, rfl⟩,
        fun _ => ⟨_, rfl⟩⟩
      store := Navigator.castaway_attended.store
      observers := Navigator.castaway_attended.observers }
  type := rfl
  here := rfl

/-- Updates at Jackson and then at Sol, where the route has been before, leave the second stop at
    Sol ahead; another one at Jackson changes nothing, and nowhere there is no answer. -/
theorem progress_wandering :
    let s : Session Nat :=
      { published := { config := { plottedRoute := some wandering } }, vault := 0 }
    let t := s.after ([updateAt Chart.jackson.waypoint] ++ [updateAt Chart.sol.waypoint])
    wandering.markAll? [1, 2, 1] = some (wandering.visitedThrough 1) ∧
      (updateAt Chart.sol.waypoint).Updates (s.after [updateAt Chart.jackson.waypoint])
        (wandering.visitedThrough 1) ∧
      t.published.config = { plottedRoute := some (wandering.visitedThrough 1) } ∧
      (updateAt Chart.jackson.waypoint).Updates t (wandering.visitedThrough 1) ∧
      ((updateAt { systemName := "Nowhere" }).navigator.resolve { type := .update } s).outcome =
        .ok none := by
  intro s t
  have atJackson : wandering.firstAt? 2 = some 1 := by decide +kernel
  have atSol : wandering.firstAt? 1 = some 0 := by decide +kernel
  have on : ∀ a ∈ [2, 1], wandering.contains a = true := by
    simp [Route.contains_iff_exists_firstAt?, atJackson, atSol]
  have furthest : wandering.Furthest [2, 1] 1 :=
    ⟨⟨2, by simp, atJackson⟩, by simp [atJackson, atSol]⟩
  have updates (here : StarSystem) : (updateAt here.waypoint).UpdatesAt here.address :=
    ⟨here.waypoint, updatesFrom_updateAt here.waypoint, rfl⟩
  obtain ⟨marks, run⟩ := @progress_in_any_order Nat
  obtain ⟨serves, declines⟩ := run s wandering rfl rfl
  obtain ⟨n, furthest', marked⟩ := marks wandering [2, 1] (by simp) on
  obtain rfl := furthest'.unique furthest
  obtain ⟨n, furthest', served⟩ := serves [2, 1] (by simp) on
  obtain rfl := furthest'.unique furthest
  obtain ⟨does, config, repeats⟩ := served [updateAt Chart.jackson.waypoint]
    (updateAt Chart.sol.waypoint) [2] 1 (.cons (updates Chart.jackson) .nil) (updates Chart.sol)
    (by simp)
  have again := repeats (updateAt Chart.jackson.waypoint) 2 (by simp) (updates Chart.jackson)
  have declined := declines (updateAt { systemName := "Nowhere" }) { systemName := "Nowhere" }
    (updatesFrom_updateAt _) (fun a none => nomatch none)
  exact ⟨marked [1, 2, 1] (by simp), does, config, again.1, declined.1⟩

end Session

end Astrogation
