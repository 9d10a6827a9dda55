import Astrogation.Proofs.Navigator.Released
import Astrogation.Proofs.Navigator.Remembered
import Astrogation.Proofs.Text.Trimmed

/-!
# The destination of the fleet carrier

The last destination to which the fleet carrier was sent is remembered, and it is where a query for
its route leads that has no first argument. Such a query ends as the same one with the remembered
destination as its argument would (`Session.destination_remembered`): with the same answer, and
with the same state published but for the argument which is remembered of the query itself.

* What a query comes to is told by its consultation, if saving replies and the observers return
  (`Verdict`, `Navigator.resolve_verdict`). The two queries come to the same by their consultations
  (`Navigator.consult_carrier`).
* An argument is remembered without the blanks around it, so a destination which has been remembered
  says as an argument just what it is (`Session.tidy_after`).
-/

namespace Astrogation

variable {σ : Type} {s : Session σ}

/-! ## What a query comes to -/

/-- An answer, with the system and the station that it leads to. -/
structure Verdict where
  answer : Answer
  searchSystem : Option Waypoint
  searchStation : Option Station

/-- How a query ends which comes to a verdict, to none, or to a crash. -/
def Verdict.outcome : Call (Option Verdict) → Except Ending (Option Answer)
  | .reply verdict? => .ok (verdict?.map (·.answer))
  | .crash => .error .unwound

/-- What is published then: what the verdict says, or else what was published before. -/
def Verdict.published (query : Query) (p : Snapshot) : Call (Option Verdict) → Snapshot
  | .reply (some v) =>
    { config := p.config.remember query v.answer.route
      searchSystem := v.searchSystem
      searchStation := v.searchStation }
  | .reply none | .crash => { p with isWorking := false }

theorem Verdict.published_of_unanswered {v : Call (Option Verdict)} {query : Query} {p : Snapshot}
    (unanswered : ∀ answer, outcome v ≠ .ok (some answer)) :
    published query p v = { p with isWorking := false } := by
  rcases v with (_ | w) | _
  · rfl
  · exact absurd rfl (unanswered w.answer)
  · rfl

theorem Verdict.exists_of_answered {v : Call (Option Verdict)} {answer : Answer}
    (answered : outcome v = .ok (some answer)) : ∃ w, v = .reply (some w) := by
  rcases v with (_ | w) | _
  · cases answered
  · exact ⟨w, rfl⟩
  · cases answered

namespace Navigator

variable (n : Navigator σ) {query : Query}

/-- The verdict that a consultation leads to: its answer, and what the look-ups reply. -/
def verdict (consulted : Except Breakdown (Option Answer)) : Call (Option Verdict) :=
  match consulted with
  | .error _ => .crash
  | .ok none => .reply none
  | .ok (some answer) =>
    (n.searchSystem answer).bind fun searchSystem =>
      (n.searchStation searchSystem answer).bind fun searchStation =>
        .reply (some { answer, searchSystem, searchStation })

/-- If a look-up crashes, an answer is not shown to the observers. -/
theorem publish_of_crash (ask : Asking σ) {answer : Answer}
    (h : n.verdict (.ok (some answer)) = .crash) :
    n.publish ask query answer s =
      .unwound (n.afterSave (s.published.config.remember query answer.route) s) := by
  rcases n.publish_cases ask query answer s with ⟨system, station, hsystem, hstation, -⟩ | crashed
  · rw [verdict, hsystem, Call.bind_reply, hstation] at h
    cases h
  · exact crashed

/-- The work on a query comes to the verdict that the consultation leads to. -/
theorem work_verdict (query : Query) {ask : Asking σ} (refuses : ask.Refuses)
    (saves : n.store.Responsive) (returns : ∀ o ∈ n.observers, Observer.Returns o)
    (working : s.resolving = true) {v : Call (Option Verdict)}
    (hv : n.verdict (n.consult query s.published.config).outcome = v) :
    (n.work ask query s).outcome = Verdict.outcome v ∧
      { (n.work ask query s).session.published with isWorking := false } =
        Verdict.published query s.published v := by
  subst hv
  cases consulted : (n.consult query s.published.config).outcome with
  | error breakdown =>
    rw [n.work_of_error consulted]
    exact ⟨rfl, rfl⟩
  | ok answer? =>
    cases answer? with
    | none =>
      rw [n.work_of_none consulted]
      exact ⟨rfl, rfl⟩
    | some answer =>
      rw [n.work_of_some consulted]
      -- Saving replies, so only the look-ups may crash before the observers are told.
      cases hsystem : n.searchSystem answer with
      | crash =>
        have crashed : n.verdict (.ok (some answer)) = .crash := by
          rw [verdict, hsystem, Call.bind_crash]
        rw [n.publish_of_crash ask crashed, crashed]
        exact ⟨rfl, rfl⟩
      | reply system =>
        cases hstation : n.searchStation system answer with
        | crash =>
          have crashed : n.verdict (.ok (some answer)) = .crash := by
            rw [verdict, hsystem, Call.bind_reply, hstation, Call.bind_crash]
          rw [n.publish_of_crash ask crashed, crashed]
          exact ⟨rfl, rfl⟩
        | reply station =>
          obtain ⟨entries, -, told⟩ := n.notify_delivers refuses returns
            (s := n.announced query answer system station (n.afterConsult query s)) working
          rw [n.publish_of_replies ask (saves _ _) hsystem hstation, told, verdict, hsystem,
            Call.bind_reply, hstation]
          exact ⟨rfl, rfl⟩

/-- If saving replies and the observers return, a query at the top comes to the verdict that its
    consultation leads to. -/
theorem resolve_verdict (query : Query) (saves : n.store.Responsive)
    (returns : ∀ o ∈ n.observers, Observer.Returns o) (top : s.resolving = false)
    {v : Call (Option Verdict)}
    (hv : n.verdict (n.consult query s.published.config).outcome = v) :
    (n.resolve query s).outcome = Verdict.outcome v ∧
      (n.resolve query s).session.published = Verdict.published query s.published v := by
  have begun := n.opening_observed s
  have published : (n.opening s).session.published = { s.published with isWorking := true } :=
    begun.published
  obtain ⟨ended, shown⟩ := n.work_verdict query Asking.refuses_refusing saves returns
    begun.resolving (v := v) (by rw [published, ← hv])
  rw [n.resolve_of_closing_ok top (n.opening_returns returns s) (n.closing_returns returns s)]
  refine ⟨ended, ?_⟩
  show (n.closing query s).session.published = _
  rw [(n.closing_observed s).published, Session.published_flagged]
  refine shown.trans ?_
  rw [published]
  rcases v with (_ | v) | _
  · rfl
  · rfl
  · rfl

end Navigator

/-! ## Queries without a destination -/

/-- A query with this as its first argument. -/
def Query.withFirst (query : Query) (argument : String) : Query :=
  { query with arg0 := some argument }

@[simp]
theorem Query.type_withFirst (query : Query) (argument : String) :
    (query.withFirst argument).type = query.type := rfl

@[simp]
theorem Query.second?_withFirst (query : Query) (argument : String) :
    (query.withFirst argument).second? = query.second? := rfl

section Bare

variable {bare : Query} {config : Config} {d : String}

/-- With a destination as its argument, a query is consulted about as without one if this is the
    one which is remembered. -/
theorem Navigator.consult_carrier (n : Navigator σ)
    (builtIn : ∀ r, n.registry.get? .carrier = some r → r = .carrier) (type : bare.type = .carrier)
    (blank : bare.first? = none) (remembered : config.lastCarrierDestination = some d)
    (said : Text.nonBlank? d = some d) :
    n.consult (bare.withFirst d) config = n.consult bare config := by
  have named : (bare.withFirst d).first? = some d := said
  -- The destination is found in the argument or in the configuration, and nothing else of the
  -- query depends on the argument.
  have resolved (start : Waypoint) (missions : List Mission) :
      Resolver.carrier.resolve (bare.withFirst d) start
          ⟨n.atlas, n.traveller, missions, config⟩ =
        Resolver.carrier.resolve bare start ⟨n.atlas, n.traveller, missions, config⟩ := by
    simp only [Resolver.carrier, named, blank, remembered, Option.some_or, Option.none_or]
    rfl
  cases registered : n.registry.get? .carrier with
  | none => simp only [consult, Query.type_withFirst, type, registered]
  | some resolver =>
    obtain rfl := builtIn resolver registered
    simp only [consult, Query.type_withFirst, type, registered, resolved]

/-- With this destination as its argument, it is remembered as without, but for the argument. -/
theorem Config.remember_carrier (type : bare.type = .carrier) (blank : bare.first? = none)
    (remembered : config.lastCarrierDestination = some d) (said : Text.nonBlank? d = some d)
    (route : Route) :
    config.remember (bare.withFirst d) route =
        { config.remember bare route with lastArg0 := some d } ∧
      (config.remember bare route).lastArg0 = none := by
  have named : (bare.withFirst d).first? = some d := said
  have grouped : (QueryType.group? .carrier).isSome = true := rfl
  simp only [remember, rememberQuery, rememberRoute, Query.type_withFirst, Query.second?_withFirst,
    type, grouped, if_true, named, blank, remembered, Option.some_or, Option.none_or, and_self]

end Bare

/-! ## The remembered destination -/

/-- Two queries which end alike when they are asked of a session `s`: both are not answered, or
    something crashes in both, and nothing changes in what is published; or both are answered by the
    same, and what is published then differs in the first argument which is remembered, which is
    `d` of the second query and none of the first. -/
structure Session.Alike (s : Session σ) (d : String) (t u : Turn σ (Option Answer)) : Prop where
  outcome : u.outcome = t.outcome
  unchanged : (∀ answer, t.outcome ≠ .ok (some answer)) →
    t.session.published = s.published ∧ u.session.published = s.published
  unanswered : t.outcome = .ok none → s.Kept t.session ∧ s.Kept u.session
  answered : ∀ answer, t.outcome = .ok (some answer) →
    t.session.published.config.lastArg0 = none ∧
      u.session.published =
        { t.session.published with
          config := { t.session.published.config with lastArg0 := some d } }

/-- A configuration whose destination says as an argument just what it is. -/
def Config.Tidy (config : Config) : Prop :=
  ∀ d, config.lastCarrierDestination = some d → Text.nonBlank? d = some d

theorem Config.tidy_default : ({} : Config).Tidy := fun _ h => nomatch h

/-- Whatever a query makes of the configuration, it stays tidy. -/
theorem Config.Tidy.evolves {n : Navigator σ} {query : Query} {config config' : Config}
    (tidy : config.Tidy) (evolves : n.Evolves query config config') : config'.Tidy := by
  rcases evolves with rfl | ⟨answer, -, rfl⟩
  · exact tidy
  intro d remembered
  rw [config.remember_eq ⟨query, answer⟩] at remembered
  dsimp only at remembered
  split at remembered
  · -- It is what the argument of the query has said.
    obtain ⟨argument, -, said⟩ := Option.bind_eq_some_iff.1 remembered
    exact Text.nonBlank?_of_nonBlank? said
  · exact tidy d remembered

namespace Session

theorem tidy_after (tidy : s.published.config.Tidy) (requests : List (Request σ)) :
    (s.after requests).published.config.Tidy := by
  induction requests generalizing s with
  | nil => exact tidy
  | cons r rest ih => exact ih (tidy.evolves (r.navigator.evolves_resolve r.query s))

theorem Kept.refl (s : Session σ) : s.Kept s := ⟨rfl, rfl, rfl, rfl⟩

theorem Idle.flagged_eq (idle : s.Idle) : s.flagged false = s := by
  rw [← idle.unflagged]
  rfl

theorem Idle.kept_of_unanswered (idle : s.Idle) {n : Navigator σ} {query : Query}
    (unanswered : (n.resolve query s).outcome = .ok none) :
    s.Kept (n.resolve query s).session := by
  rcases n.resolve_cases query idle.unmarked with ⟨-, kept⟩ | ⟨answer, answered, -⟩ |
    ⟨ending, crashed, -⟩
  · exact idle.flagged_eq ▸ kept
  · cases unanswered.symm.trans answered
  · cases unanswered.symm.trans crashed

/-- After any queries from the default configuration, whatever became of them, a query for the route
    of the fleet carrier without a first argument ends as the same one would with the remembered
    destination as its argument. -/
theorem destination_remembered (s₀ : Session σ) (earlier : List (Request σ)) (n : Navigator σ)
    (bare : Query) (d : String) (idle : s₀.Idle) (fresh : s₀.published.config = {})
    (builtIn : ∀ r, n.registry.get? .carrier = some r → r = .carrier) (saves : n.store.Responsive)
    (returns : ∀ o ∈ n.observers, Observer.Returns o)
    (remembered : (s₀.after earlier).published.config.lastCarrierDestination = some d)
    (type : bare.type = .carrier) (blank : bare.first? = none) :
    let s := s₀.after earlier
    s.Alike d (n.resolve bare s) (n.resolve (bare.withFirst d) s) := by
  intro s
  have said : Text.nonBlank? d = some d :=
    tidy_after (fresh ▸ Config.tidy_default) earlier d remembered
  cases top : s.resolving with
  | true =>
    -- The mark was left behind, and both are refused.
    rw [Navigator.resolve, n.resolveWithin_of_resolving _ _ s top,
      n.resolveWithin_of_resolving _ _ s top]
    refine ⟨rfl, fun _ => ⟨rfl, rfl⟩, fun _ => ⟨.refl s, .refl s⟩, fun answer answered => ?_⟩
    cases answered
  | false =>
    have idle' : s.Idle := idle.settled.after earlier top
    have consulted := n.consult_carrier builtIn type blank remembered said
    obtain ⟨hto, htp⟩ := n.resolve_verdict bare saves returns top rfl
    obtain ⟨huo, hup⟩ := n.resolve_verdict (bare.withFirst d) saves returns top rfl
    rw [consulted] at huo hup
    have same : (n.resolve (bare.withFirst d) s).outcome = (n.resolve bare s).outcome :=
      huo.trans hto.symm
    have stays : { s.published with isWorking := false } = s.published :=
      congrArg published idle'.flagged_eq
    refine ⟨same, fun unanswered => ?_, fun unanswered => ?_, fun answer answered => ?_⟩
    · have unanswered' := hto ▸ unanswered
      exact ⟨htp.trans ((Verdict.published_of_unanswered unanswered').trans stays),
        hup.trans ((Verdict.published_of_unanswered unanswered').trans stays)⟩
    · exact ⟨idle'.kept_of_unanswered unanswered,
        idle'.kept_of_unanswered (same.trans unanswered)⟩
    · obtain ⟨v, hv⟩ := Verdict.exists_of_answered (hto.symm.trans answered)
      obtain ⟨config, first⟩ := Config.remember_carrier type blank remembered said v.answer.route
      rw [hv] at htp hup
      rw [htp, hup, Verdict.published, Verdict.published, config]
      exact ⟨first, rfl⟩

end Session

/-- After a fleet carrier was sent from Sol to Colonia, a query with a blank argument is answered by
    a route to Colonia as well. -/
theorem Chart.destination_remembered_at_sol :
    let s₀ : Session Nat := { published := {}, vault := 0 }
    let earlier := [atSol { type := .carrier, arg0 := some " Colonia " }]
    let s := s₀.after earlier
    let bare : Query := { type := .carrier, arg0 := some "  ", numeric := some 500 }
    let n := (atSol bare).navigator
    s₀.Idle ∧ (s₀.after earlier).published.config.lastCarrierDestination = some "Colonia" ∧
      bare.first? = none ∧
      ((n.resolve bare s).outcome.toOption.bind id).map (·.system) = some (some "Colonia") ∧
      s.Alike "Colonia" (n.resolve bare s) (n.resolve (bare.withFirst "Colonia") s) := by
  intro s₀ earlier s bare n
  have idle : s₀.Idle := ⟨rfl, rfl⟩
  have remembered :
      (s₀.after earlier).published.config.lastCarrierDestination = some "Colonia" := by
    decide +kernel
  have blank : bare.first? = none := by decide +kernel
  have builtIn : ∀ r, n.registry.get? .carrier = some r → r = .carrier :=
    fun _ h => (Option.some.inj h).symm
  exact ⟨idle, remembered, blank, by decide +kernel,
    Session.destination_remembered s₀ earlier n bare "Colonia" idle rfl builtIn
      Navigator.castaway_attended.store Navigator.castaway_attended.observers remembered rfl blank⟩

end Astrogation
