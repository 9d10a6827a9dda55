import Astrogation.Proofs.Navigator.Outcome
import Astrogation.Proofs.Resolver.Fresh

/-!
# What is remembered stays sound

The configuration is *sound* (`Config.Sound`) if the plotted route is, the route of the
fleet carrier is fresh, and a query is remembered for the plotted route if and only if
there is one. Remembering the answer to a query keeps a configuration sound
(`Config.Sound.evolves`), be the answer fresh, the stored route put back, or the plotted
route updated.

Hence, with a chart and the built-in resolvers, the configuration is sound after every
run of queries (`Chart.sound_run`), whoever asks them and whatever becomes of them.
-/

namespace Astrogation

/-- A configuration whose routes are being travelled, and whose plotted route is
    remembered together with the type of the query which it answered. -/
structure Config.Sound (config : Config) : Prop where
  plotted : ∀ r, config.plottedRoute = some r → r.Sound
  carrier : ∀ r, config.carrierRoute = some r → r.Fresh
  paired : config.plottedQuery.isSome = config.plottedRoute.isSome
  unmanaged : ∀ q, config.plottedQuery = some q → q ≠ .carrier ∧ q ≠ .cancel ∧ q ≠ .update

namespace Config

variable {config : Config} {type : QueryType} {fresh : Answer} {query : Query} {route : Route}

theorem sound_default : ({} : Config).Sound where
  plotted _ h := nomatch h
  carrier _ h := nomatch h
  paired := rfl
  unmanaged _ h := nomatch h

/-! ## Comparing with the stored route -/

/-- A fresh answer is given as it is, or it gives way to the stored route, which leads to the
    same system and has no more stops. -/
theorem settle_cases (config : Config) (type : QueryType) (fresh : Answer) :
    config.settle type fresh = fresh ∨
      ∃ stored, config.storedRoute? type = some stored ∧
        config.settle type fresh = fresh.withRoute stored ∧
        stored.sameGoal fresh.route = true ∧ stored.size ≤ fresh.route.size := by
  rw [settle]
  split
  · next stored here =>
    split
    · exact .inl rfl
    · next stays =>
      rw [Route.supersedes, Bool.or_eq_true, not_or, Bool.not_eq_true', Bool.not_eq_false,
        decide_eq_true_eq, not_lt] at stays
      exact .inr ⟨stored, here, rfl, stays⟩
  · exact .inl rfl

/-- The route that is given is the fresh one, or the stored one. -/
theorem route_settle (config : Config) (type : QueryType) (fresh : Answer) :
    (config.settle type fresh).route = fresh.route ∨
      config.storedRoute? type = some (config.settle type fresh).route := by
  rcases config.settle_cases type fresh with same | ⟨stored, here, same, -⟩
  · exact .inl (congrArg Answer.route same)
  · exact .inr (here.trans (congrArg (some ·.route) same).symm)

theorem plottedRoute_of_storedRoute? (other : type ≠ .carrier)
    (h : config.storedRoute? type = some route) : config.plottedRoute = some route := by
  rw [storedRoute?] at h
  split at h
  · rw [if_neg fun same => other (beq_iff_eq.1 same)] at h
    split at h
    · exact h
    · cases h
  · cases h

theorem Sound.settle_carrier (h : config.Sound) (hfresh : fresh.route.Fresh) :
    (config.settle .carrier fresh).route.Fresh := by
  rcases config.route_settle .carrier fresh with same | stored
  · exact same ▸ hfresh
  · exact h.carrier _ stored

theorem Sound.settle (h : config.Sound) (other : type ≠ .carrier) (hfresh : fresh.route.Sound) :
    (config.settle type fresh).route.Sound := by
  rcases config.route_settle type fresh with same | stored
  · exact same ▸ hfresh
  · exact h.plotted _ (plottedRoute_of_storedRoute? other stored)

/-! ## Remembering -/

theorem plottedRoute_rememberQuery (config : Config) (query : Query) :
    (config.rememberQuery query).plottedRoute = config.plottedRoute := by
  rw [rememberQuery]
  split
  · rfl
  · rfl

theorem carrierRoute_rememberQuery (config : Config) (query : Query) :
    (config.rememberQuery query).carrierRoute = config.carrierRoute := by
  rw [rememberQuery]
  split
  · rfl
  · rfl

/-- The plotted route is the one from before, or the one that has just been given. -/
theorem plottedRoute_remember {r : Route}
    (h : (config.remember query route).plottedRoute = some r) :
    query.type = .carrier ∧ config.plottedRoute = some r ∨
      query.type ≠ .carrier ∧ query.type ≠ .cancel ∧ route = r := by
  rw [remember, rememberRoute.eq_def] at h
  split at h
  · next carrier => exact .inl ⟨carrier, config.plottedRoute_rememberQuery query ▸ h⟩
  · cases h
  · next update => exact .inr ⟨by rw [update]; decide, by rw [update]; decide, Option.some.inj h⟩
  · next carrier cancel _ => exact .inr ⟨carrier, cancel, Option.some.inj h⟩

/-- So is the route of the fleet carrier. -/
theorem carrierRoute_remember {r : Route}
    (h : (config.remember query route).carrierRoute = some r) :
    query.type ≠ .carrier ∧ config.carrierRoute = some r ∨
      query.type = .carrier ∧ route = r := by
  have kept := config.carrierRoute_rememberQuery query
  rw [remember, rememberRoute.eq_def] at h
  split at h
  · next carrier => exact .inr ⟨carrier, Option.some.inj h⟩
  · next cancel => exact .inl ⟨by rw [cancel]; decide, kept ▸ h⟩
  · next update => exact .inl ⟨by rw [update]; decide, kept ▸ h⟩
  · next carrier _ _ => exact .inl ⟨carrier, kept ▸ h⟩

/-- Of a query, only what is not about routes is remembered. -/
theorem Sound.rememberQuery (h : config.Sound) (query : Query) :
    (config.rememberQuery query).Sound := by
  rw [Config.rememberQuery]
  split
  · exact ⟨h.plotted, h.carrier, h.paired, h.unmanaged⟩
  · exact h

theorem Sound.rememberRoute (h : config.Sound)
    (carried : query.type = .carrier → route.Fresh)
    (plotted : query.type ≠ .carrier → query.type ≠ .cancel → route.Sound)
    (updated : query.type = .update → config.plottedRoute.isSome = true) :
    (config.rememberRoute query route).Sound := by
  rw [Config.rememberRoute.eq_def]
  split
  · next carrier =>
    refine ⟨h.plotted, fun r hr => ?_, h.paired, h.unmanaged⟩
    exact Option.some.inj hr ▸ carried carrier
  · exact ⟨fun r hr => (nomatch hr), h.carrier, rfl, fun q hq => (nomatch hq)⟩
  · next update =>
    refine ⟨fun r hr => ?_, h.carrier, h.paired.trans (updated update), h.unmanaged⟩
    exact Option.some.inj hr ▸ plotted (by rw [update]; decide) (by rw [update]; decide)
  · next carrier cancel update =>
    refine ⟨fun r hr => ?_, h.carrier, rfl, fun q hq => ?_⟩
    · exact Option.some.inj hr ▸ plotted carrier cancel
    · obtain rfl := Option.some.inj hq
      exact ⟨carrier, cancel, update⟩

end Config

/-! ## Answering a query -/

section Answering

variable {σ : Type}

/-- A query which is answered has been asked at the top, and its consultation has come to
    the answer. -/
theorem Navigator.consulted_of_answered {n : Navigator σ} {query : Query} {answer : Answer}
    {s : Session σ} (h : (n.resolve query s).outcome = .ok (some answer)) :
    (n.consult query s.published.config).outcome = .ok (some answer) := by
  cases top : s.resolving with
  | true =>
    rw [resolve, n.resolveWithin_of_resolving _ query s top] at h
    cases h
  | false =>
    rcases n.resolve_cases query top with ⟨ended, -⟩ | ⟨answer', ended, published, -⟩ |
      ⟨ending, ended, -⟩
    · rw [h] at ended
      cases ended
    · rw [h] at ended
      cases ended
      exact published.consulted
    · rw [h] at ended
      cases ended

/-- An answer is what the resolver of the type has come to, compared with the stored
    route. -/
theorem Navigator.exists_of_consult {n : Navigator σ} {query : Query} {config : Config}
    {answer : Answer} (h : (n.consult query config).outcome = .ok (some answer)) :
    ∃ start resolver missions fresh, n.startOf query.type = .reply (some start) ∧
      n.registry.get? query.type = some resolver ∧ n.traveller.missions = .reply missions ∧
      (resolver.resolve query start ⟨n.atlas, n.traveller, missions, config⟩).outcome =
        .ok (some fresh) ∧
      answer = config.settle query.type fresh := by
  obtain ⟨start?, hstart, h⟩ := Consultation.outcome_bind_eq_ok_iff.1 h
  cases start? with
  | none => exact nomatch Consultation.outcome_pure_eq_ok_iff.1 h
  | some start =>
    dsimp only at h
    cases registered : n.registry.get? query.type with
    | none =>
      rw [registered] at h
      exact nomatch Consultation.outcome_pure_eq_ok_iff.1 h
    | some resolver =>
      rw [registered] at h
      obtain ⟨missions, hmissions, h⟩ := Consultation.outcome_bind_eq_ok_iff.1 h
      obtain ⟨fresh?, hfresh, h⟩ := Consultation.outcome_bind_eq_ok_iff.1 h
      obtain ⟨fresh, rfl, rfl⟩ := Option.map_eq_some_iff.1
        (Consultation.outcome_pure_eq_ok_iff.1 h)
      refine ⟨start, resolver, missions, fresh, Consultation.outcome_ofCall_eq_ok_iff.1 hstart, rfl,
        Consultation.outcome_ofCall_eq_ok_iff.1 hmissions, ?_, rfl⟩
      rw [attempt] at hfresh
      split at hfresh
      · next outcome => exact outcome.trans hfresh
      · -- If the resolver breaks down there is no answer.
        cases hfresh

/-- An updated route is the plotted route after some more stops have been visited. -/
theorem Config.Sound.update {c : Chart} {query : Query} {start : Waypoint} {traveller : Traveller}
    {missions : List Mission} {config : Config} {fresh : Answer} (h : config.Sound)
    (answered : (Resolver.update.resolve query start ⟨c.atlas, traveller, missions, config⟩).outcome
      = .ok (some fresh)) :
    config.plottedRoute.isSome = true ∧ (config.settle .update fresh).route.Sound := by
  obtain ⟨plotted, address, updated, hplotted, -, visited, rfl⟩ := Resolver.answer_update answered
  refine ⟨Option.isSome_of_eq_some hplotted, ?_⟩
  exact (h.plotted plotted hplotted).markVisitedThrough visited

/-- Whatever a query makes of the configuration, it stays sound. -/
theorem Config.Sound.evolves {c : Chart} {n : Navigator σ} {query : Query}
    {config config' : Config} (h : config.Sound) (registry : n.registry = .standard)
    (atlas : n.atlas = c.atlas) (evolves : n.Evolves query config config') : config'.Sound := by
  rcases evolves with rfl | ⟨answer, consulted, rfl⟩
  · exact h
  obtain ⟨start, resolver, missions, fresh, -, registered, -, answered, rfl⟩ :=
    Navigator.exists_of_consult consulted
  -- Only the resolver that updates is given a route which may have been visited.
  have type := n.registry.type_eq _ _ registered
  rw [registry] at registered
  rw [atlas] at answered
  have builtIn := Registry.mem_of_ofResolvers registered
  have routed : query.type ≠ .cancel → query.type ≠ .update → fresh.route.Fresh := by
    intro cancel update
    rw [← type] at cancel update
    exact Resolver.fresh_of_builtIn builtIn cancel update answered
  have updated : query.type = .update → config.plottedRoute.isSome = true ∧
      (config.settle query.type fresh).route.Sound := by
    intro update
    rw [Resolver.eq_update_of_builtIn builtIn (type.trans update)] at answered
    rw [update]
    exact h.update answered
  refine (h.rememberQuery query).rememberRoute (fun carrier => ?_) (fun carrier cancel => ?_)
    fun update => ?_
  · rw [carrier]
    exact h.settle_carrier (routed (by rw [carrier]; decide) (by rw [carrier]; decide))
  · by_cases update : query.type = .update
    · exact (updated update).2
    · exact h.settle carrier (routed cancel update).sound
  · rw [Config.plottedRoute_rememberQuery]
    exact (updated update).1

end Answering

/-! ## Runs -/

section Runs

variable {σ : Type}

/-- A query, and who is there when it is asked: the traveller, the store and the
    observers. -/
structure Occasion (σ : Type) where
  query : Query
  traveller : Traveller
  store : ConfigStore σ
  observers : List Observer

/-- The navigator of an occasion, which has a chart and the built-in resolvers. -/
def Chart.navigator (c : Chart) (o : Occasion σ) : Navigator σ where
  atlas := c.atlas
  traveller := o.traveller
  store := o.store
  observers := o.observers

/-- The session after queries have been asked one after the other. -/
def Chart.run (c : Chart) : List (Occasion σ) → Session σ → Session σ
  | [], s => s
  | o :: rest, s => c.run rest ((c.navigator o).resolve o.query s).session

/-- A query makes of the configuration what it may, also if it is refused. -/
theorem Navigator.evolves_resolve (n : Navigator σ) (query : Query) (s : Session σ) :
    n.Evolves query s.published.config (n.resolve query s).session.published.config := by
  cases top : s.resolving with
  | true =>
    rw [resolve, n.resolveWithin_of_resolving _ query s top]
    exact .inl rfl
  | false =>
    rcases n.resolve_cases query top with ⟨-, kept⟩ | ⟨answer, -, published, -⟩ | ⟨-, -, evolves⟩
    · exact .inl (by rw [kept.published]; rfl)
    · exact .inr ⟨answer, published.consulted, published.config⟩
    · exact evolves

namespace Chart

theorem sound_run_of_sound (c : Chart) (occasions : List (Occasion σ)) {s : Session σ}
    (h : s.published.config.Sound) : (c.run occasions s).published.config.Sound := by
  induction occasions generalizing s with
  | nil => exact h
  | cons o rest ih => exact ih (h.evolves rfl rfl ((c.navigator o).evolves_resolve o.query s))

/-- From the default configuration, whatever is asked, by whomever, in whatever order:
    the plotted route is sound, of the route of the fleet carrier exactly the first stop
    is visited, and the plotted route is remembered together with its query, which never
    manages it. -/
theorem sound_run (c : Chart) (vault : σ) (occasions : List (Occasion σ)) :
    (c.run occasions { published := {}, vault }).published.config.Sound :=
  c.sound_run_of_sound occasions Config.sound_default

/-- On the way from Sol to Colonia, updating the route at the neutron star leaves only
    Colonia ahead. -/
example :
    let asked (s : StarSystem) (query : Query) : Occasion Unit :=
      { query
        traveller := TravellerState.traveller { system := some s.waypoint }
        store := { load := fun _ => .ok {}, save := fun _ _ => (.reply (.ok ()), ()) }
        observers := [] }
    let s := frontier.run
      [asked sol { type := .neutron, arg0 := some "colonia", numeric := some 6 },
        asked jackson { type := .update }] { published := {}, vault := () }
    s.published.config.plottedRoute.map (·.waypoints.map (·.visited)) =
      some [true, true, false] := by
  decide +kernel

end Chart

end Runs

end Astrogation
