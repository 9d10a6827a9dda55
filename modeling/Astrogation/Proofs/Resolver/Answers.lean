import Astrogation.Resolver.Destinations
import Astrogation.Resolver.Facility
import Astrogation.Resolver.Plots

/-!
# What resolvers answer

If a resolver comes to an answer, then the replies of its collaborators have led to it.
For each resolver but that of mission circuits this says where the route of the answer
comes from: a search (`answer_scoop`, `answer_facility`), a look-up (`answer_set`,
`FromMissions`), a plot (`answer_neutron`, `answer_carrier`), or the plotted route
(`answer_cancel`, `answer_update`).
-/

namespace Astrogation

variable {α β : Type}

namespace Consultation

/-- A consultation which goes on comes to a result if both of its parts do. -/
theorem outcome_bind_eq_ok_iff {c : Consultation α} {next : α → Consultation β} {b : β} :
    (c >>= next).outcome = .ok b ↔ ∃ a, c.outcome = .ok a ∧ (next a).outcome = .ok b := by
  rw [outcome_bind]
  cases c.outcome with
  | error breakdown => exact ⟨fun h => (nomatch h), fun ⟨_, h, _⟩ => (nomatch h)⟩
  | ok a =>
    constructor
    · exact fun h => ⟨a, rfl, h⟩
    · rintro ⟨a', ha', h⟩
      cases ha'
      exact h

theorem outcome_ofCall_eq_ok_iff {call : Call α} {a : α} :
    (ofCall call).outcome = .ok a ↔ call = .reply a := by
  cases call with
  | reply value =>
    rw [outcome_ofCall_reply, Except.ok.injEq, Call.reply.injEq]
  | crash => exact ⟨fun h => (nomatch h), fun h => (nomatch h)⟩

theorem outcome_inquire_eq_ok_iff {inquiry : Inquiry} {call : Call α} {a : α} :
    (inquire inquiry call).outcome = .ok a ↔ call = .reply a :=
  outcome_ofCall_eq_ok_iff

theorem outcome_pure_eq_ok_iff {a b : α} : (pure a : Consultation α).outcome = .ok b ↔ a = b := by
  rw [outcome_pure, Except.ok.injEq]

end Consultation

/-- An outcome which can be tested is an answer which passes the test. -/
theorem Answer.exists_of_any {ε : Type} {outcome : Except ε (Option Answer)} {p : Answer → Bool}
    (h : outcome.toOption.join.any p = true) :
    ∃ answer, outcome = .ok (some answer) ∧ p answer = true := by
  obtain ⟨answer, answered, passes⟩ := (Option.any_eq_true _ _).1 h
  refine ⟨answer, ?_, passes⟩
  cases outcome with
  | error failure => cases answered
  | ok answer? => exact congrArg Except.ok answered

open Consultation

namespace Resolver

variable {query : Query} {start : Waypoint} {ctx : Context} {answer : Answer} {type : QueryType}

/-! ## Searches and look-ups -/

/-- The route to fuel leads to what a search finds. -/
theorem answer_scoop (h : (scoop.resolve query start ctx).outcome = .ok (some answer)) :
    ∃ filter found, ctx.atlas.nearest start filter = .reply (some found) ∧
      answer = .ofJumps .scoop (.toDestination start found.waypoint) := by
  obtain ⟨radius, -, h⟩ := outcome_bind_eq_ok_iff.1 h
  obtain ⟨found?, hfound, h⟩ := outcome_bind_eq_ok_iff.1 h
  obtain ⟨found, rfl, rfl⟩ := Option.map_eq_some_iff.1 (outcome_pure_eq_ok_iff.1 h)
  exact ⟨_, found, outcome_inquire_eq_ok_iff.1 hfound, rfl⟩

theorem answer_facility {service : Service}
    (h : ((facility type service).resolve query start ctx).outcome = .ok (some answer)) :
    ∃ filter found, ctx.atlas.nearest start filter = .reply (some found) ∧
      answer = .ofStation type start found := by
  obtain ⟨ship, -, h⟩ := outcome_bind_eq_ok_iff.1 h
  obtain ⟨found?, hfound, h⟩ := outcome_bind_eq_ok_iff.1 h
  obtain ⟨found, rfl, rfl⟩ := Option.map_eq_some_iff.1 (outcome_pure_eq_ok_iff.1 h)
  exact ⟨_, found, outcome_inquire_eq_ok_iff.1 hfound, rfl⟩

/-- A route which is set leads to the system of a name, or to a station in it. -/
theorem answer_set (h : (set.resolve query start ctx).outcome = .ok (some answer)) :
    ∃ system found destination, ctx.atlas.systemNamed system = .reply (some found) ∧
      (destination = found ∨ ∃ station market, destination = found.atStation station market) ∧
      answer = .ofJumps .set (.toDestination start destination) := by
  rw [set] at h
  dsimp only at h
  cases hsystem : query.first? with
  | none =>
    rw [hsystem] at h
    exact nomatch outcome_pure_eq_ok_iff.1 h
  | some system =>
    rw [hsystem] at h
    obtain ⟨found?, hfound, h⟩ := outcome_bind_eq_ok_iff.1 h
    cases found? with
    | none => exact nomatch outcome_pure_eq_ok_iff.1 h
    | some found =>
      dsimp only at h
      have hfound := outcome_ofCall_eq_ok_iff.1 hfound
      -- The destination is the system, a station that is known, or one that is named.
      split at h
      · obtain ⟨destination, hdestination, h⟩ := outcome_bind_eq_ok_iff.1 h
        exact ⟨system, found, destination, hfound,
          .inl (outcome_pure_eq_ok_iff.1 hdestination).symm,
          (Option.some.inj (outcome_pure_eq_ok_iff.1 h)).symm⟩
      · obtain ⟨station?, -, h⟩ := outcome_bind_eq_ok_iff.1 h
        cases station? with
        | none =>
          obtain ⟨destination, hdestination, h⟩ := outcome_bind_eq_ok_iff.1 h
          exact ⟨system, found, destination, hfound,
            .inr ⟨_, _, (outcome_pure_eq_ok_iff.1 hdestination).symm⟩,
            (Option.some.inj (outcome_pure_eq_ok_iff.1 h)).symm⟩
        | some station =>
          obtain ⟨destination, hdestination, h⟩ := outcome_bind_eq_ok_iff.1 h
          exact ⟨system, found, destination, hfound,
            .inr ⟨_, _, (outcome_pure_eq_ok_iff.1 hdestination).symm⟩,
            (Option.some.inj (outcome_pure_eq_ok_iff.1 h)).symm⟩

/-! ## Destinations of missions -/

/-- An answer which leads to a system that was looked up for missions. -/
def FromMissions (type : QueryType) (start : Waypoint) (ctx : Context) (answer : Answer) : Prop :=
  ∃ names candidates found ids, ctx.atlas.systemsNamed names = .reply candidates ∧
    found ∈ candidates ∧ answer = .ofMissions type start found ids

/-- The choice by distance is one of the candidates. -/
theorem mem_of_chooseByDistance {policy : UnknownDistance} {extreme : Extreme}
    {candidates : List Waypoint} {found : Waypoint}
    (h : chooseByDistance start policy extreme candidates = some found) : found ∈ candidates := by
  obtain ⟨⟨distance, w⟩, chosen, rfl⟩ := Option.map_eq_some_iff.1 h
  obtain ⟨v, hv, measured⟩ := List.mem_filterMap.1 (mem_of_champion? chosen)
  obtain ⟨d, -, same⟩ := Option.map_eq_some_iff.1 measured
  cases same
  exact hv

/-- A choice among the systems of some names, if there are any names. -/
theorem exists_found_of_choice {names : List String} {policy : UnknownDistance}
    {extreme : Extreme} {ids : Waypoint → List MissionId}
    (h : (if names.isEmpty then pure none else do
      let candidates ← ctx.systemsNamed names
      return (chooseByDistance start policy extreme candidates).map fun found =>
        Answer.ofMissions type start found (ids found) : Consultation (Option Answer)).outcome =
      .ok (some answer)) :
    ∃ candidates found, ctx.atlas.systemsNamed names = .reply candidates ∧
      found ∈ candidates ∧ answer = .ofMissions type start found (ids found) := by
  split at h
  · exact nomatch outcome_pure_eq_ok_iff.1 h
  · obtain ⟨candidates, hcandidates, h⟩ := outcome_bind_eq_ok_iff.1 h
    obtain ⟨found, chosen, rfl⟩ := Option.map_eq_some_iff.1 (outcome_pure_eq_ok_iff.1 h)
    exact ⟨candidates, found, outcome_inquire_eq_ok_iff.1 hcandidates,
      mem_of_chooseByDistance chosen, rfl⟩

theorem fromMissions_of_choice {names : List String} {policy : UnknownDistance}
    {extreme : Extreme} {ids : Waypoint → List MissionId}
    (h : (if names.isEmpty then pure none else do
      let candidates ← ctx.systemsNamed names
      return (chooseByDistance start policy extreme candidates).map fun found =>
        Answer.ofMissions type start found (ids found) : Consultation (Option Answer)).outcome =
      .ok (some answer)) : FromMissions type start ctx answer := by
  obtain ⟨candidates, found, hcandidates, mem, same⟩ := exists_found_of_choice h
  exact ⟨names, candidates, found, ids found, hcandidates, mem, same⟩

theorem answer_byDistance {extreme : Extreme}
    (h : ((byDistance type extreme).resolve query start ctx).outcome = .ok (some answer)) :
    FromMissions type start ctx answer :=
  fromMissions_of_choice h

theorem answer_most (h : (most.resolve query start ctx).outcome = .ok (some answer)) :
    FromMissions .most start ctx answer :=
  fromMissions_of_choice h

/-- The route to the source of missions leads to a system that was looked up for them. -/
theorem answer_source (h : (source.resolve query start ctx).outcome = .ok (some answer)) :
    FromMissions .source start ctx answer :=
  fromMissions_of_choice h

/-- What is chosen for the missions that expire is a destination of one of them. -/
theorem mem_of_firstReachable {missions : List Mission} {found : Waypoint}
    (h : (firstReachable start ctx missions).outcome = .ok (some found)) :
    ∃ m ∈ missions, ∃ candidates,
      ctx.atlas.systemsNamed m.destinations = .reply candidates ∧ found ∈ candidates := by
  induction missions with
  | nil => exact nomatch outcome_pure_eq_ok_iff.1 h
  | cons m rest ih =>
    obtain ⟨candidates, hcandidates, h⟩ := outcome_bind_eq_ok_iff.1 h
    split at h
    · next chosen =>
      obtain rfl := Option.some.inj (outcome_pure_eq_ok_iff.1 h)
      exact ⟨m, List.mem_cons_self, candidates, outcome_inquire_eq_ok_iff.1 hcandidates,
        mem_of_chooseByDistance chosen⟩
    · obtain ⟨m', hm, reached⟩ := ih h
      exact ⟨m', List.mem_cons_of_mem m hm, reached⟩

/-- The answer leads to a destination of one of the missions that expire. -/
theorem exists_found_of_expiring
    (h : (expiring.resolve query start ctx).outcome = .ok (some answer)) :
    ∃ m ∈ Mission.byExpiry ctx.missions, ∃ candidates found,
      ctx.atlas.systemsNamed m.destinations = .reply candidates ∧ found ∈ candidates ∧
        answer = .ofMissions .expiring start found
          (Mission.idsBoundFor ctx.missions found.systemName) := by
  obtain ⟨found?, hfound, h⟩ := outcome_bind_eq_ok_iff.1 h
  obtain ⟨found, rfl, rfl⟩ := Option.map_eq_some_iff.1 (outcome_pure_eq_ok_iff.1 h)
  obtain ⟨m, hm, candidates, hcandidates, mem⟩ := mem_of_firstReachable hfound
  exact ⟨m, hm, candidates, found, hcandidates, mem, rfl⟩

theorem answer_expiring (h : (expiring.resolve query start ctx).outcome = .ok (some answer)) :
    FromMissions .expiring start ctx answer := by
  obtain ⟨m, -, candidates, found, hcandidates, mem, same⟩ := exists_found_of_expiring h
  exact ⟨m.destinations, candidates, found, _, hcandidates, mem, same⟩

/-! ## Plots -/

/-- A route along neutron stars follows the plot for the range of the query or of the ship. -/
theorem answer_neutron (h : (neutron.resolve query start ctx).outcome = .ok (some answer)) :
    ∃ destination range plot, query.first? = some destination ∧
      (ctx.jumpRange query).outcome = .ok (some range) ∧
      ctx.atlas.plot (.neutron start destination range) = .reply (some plot) ∧
      answer = .ofJumps .neutron (.alongPlot start plot) := by
  rw [neutron] at h
  dsimp only at h
  cases hdestination : query.first? with
  | none =>
    rw [hdestination] at h
    exact nomatch outcome_pure_eq_ok_iff.1 h
  | some destination =>
    rw [hdestination] at h
    obtain ⟨range?, hrange, h⟩ := outcome_bind_eq_ok_iff.1 h
    cases range? with
    | none => exact nomatch outcome_pure_eq_ok_iff.1 h
    | some range =>
      obtain ⟨plot?, hplot, h⟩ := outcome_bind_eq_ok_iff.1 h
      obtain ⟨plot, rfl, rfl⟩ := Option.map_eq_some_iff.1 (outcome_pure_eq_ok_iff.1 h)
      exact ⟨destination, range, plot, rfl, hrange, outcome_inquire_eq_ok_iff.1 hplot, rfl⟩

/-- A route of the fleet carrier follows the plot to the goal of the query, or to the last one. -/
theorem answer_carrier (h : (carrier.resolve query start ctx).outcome = .ok (some answer)) :
    ∃ destination capacity plot,
      query.first?.or ctx.config.lastCarrierDestination = some destination ∧
      ctx.atlas.plot (.carrier start destination capacity) = .reply (some plot) ∧
      answer = .ofJumps .carrier (.alongPlot start plot) := by
  rw [carrier] at h
  dsimp only at h
  cases hdestination : query.first?.or ctx.config.lastCarrierDestination with
  | none =>
    rw [hdestination] at h
    exact nomatch outcome_pure_eq_ok_iff.1 h
  | some destination =>
    rw [hdestination] at h
    obtain ⟨capacity, -, h⟩ := outcome_bind_eq_ok_iff.1 h
    obtain ⟨plot?, hplot, h⟩ := outcome_bind_eq_ok_iff.1 h
    obtain ⟨plot, rfl, rfl⟩ := Option.map_eq_some_iff.1 (outcome_pure_eq_ok_iff.1 h)
    exact ⟨destination, capacity, plot, rfl, outcome_inquire_eq_ok_iff.1 hplot, rfl⟩

/-! ## The plotted route -/

theorem answer_cancel (h : (cancel.resolve query start ctx).outcome = .ok (some answer)) :
    answer = .ofRoute .cancel {} 0 :=
  (Option.some.inj (outcome_pure_eq_ok_iff.1 h)).symm

/-- An update marks stops of the plotted route as visited, up to where the traveller is. -/
theorem answer_update (h : (update.resolve query start ctx).outcome = .ok (some answer)) :
    ∃ plotted address updated, ctx.config.plottedRoute = some plotted ∧
      start.address = some address ∧ plotted.markVisitedThrough? address = some updated ∧
      answer = .ofRoute .update updated (stopsAhead updated) := by
  obtain ⟨updated, hupdated, rfl⟩ := Option.map_eq_some_iff.1 (outcome_pure_eq_ok_iff.1 h)
  obtain ⟨plotted, hplotted, h⟩ := Option.bind_eq_some_iff.1 hupdated
  obtain ⟨address, haddress, h⟩ := Option.bind_eq_some_iff.1 h
  exact ⟨plotted, address, updated, hplotted, haddress, h, rfl⟩

end Resolver

end Astrogation
