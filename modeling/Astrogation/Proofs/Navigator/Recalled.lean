import Astrogation.Proofs.Navigator.Notified
import Astrogation.Proofs.Navigator.Remembered
import Mathlib.Data.List.Induction

/-!
# What is recalled of a sequence of queries

Of the queries that were answered each leaves its mark in the configuration, and those that
were not leave none. What comes of it in the end can be told from the *exchanges*, i.e., the
queries which were answered and their answers, field by field (`Config.recalled`): each field
is determined by the last exchange of a kind, and is as it was in the beginning if there was
none. That is what remembering one exchange after the other amounts to
(`Config.rememberAll_eq_recalled`).

So the configuration after a sequence of queries is what is recalled of the exchanges
(`Session.config_recalled`). If an observer crashes when it is told of an answer, then the
query ends without one although the answer has been published. Such a query counts as an
exchange, or it does not, depending on how far it came (`Session.History`).
-/

namespace Astrogation

variable {σ α : Type}

/-! ## Exchanges -/

/-- A query and the answer that it was given. -/
structure Exchange where
  query : Query
  answer : Answer

namespace Exchange

variable (e : Exchange)

/-- Whether the query belongs to a group. -/
def isGrouped : Bool := e.query.type.group?.isSome

/-- Whether the query is about the route of the fleet carrier. -/
def isCarried : Bool := e.query.type == .carrier

/-- Whether the query sends the fleet carrier to a destination. -/
def isDispatched : Bool := e.isCarried && e.query.first?.isSome

/-- Whether the query is about the plotted route. -/
def isPlotted : Bool := !e.isCarried

/-- Whether the query is about the plotted route, and does not update it. -/
def isReplotted : Bool := e.isPlotted && e.query.type != .update

/-- The plotted route after the exchange. -/
def plottedRoute : Option Route :=
  if e.query.type == .cancel then none else some e.answer.route

/-- The type of the query that the plotted route answers after the exchange. -/
def plottedQuery : Option QueryType :=
  if e.query.type == .cancel then none else some e.query.type

end Exchange

/-- The last exchange of a kind. -/
def lastOf (kind : Exchange → Bool) (log : List Exchange) : Option Exchange :=
  (log.filter kind).getLast?

/-- What the last exchange of a kind makes of a value. -/
def recollect (value : α) (kind : Exchange → Bool) (made : Exchange → α)
    (log : List Exchange) : α :=
  (lastOf kind log).elim value made

theorem lastOf_concat (kind : Exchange → Bool) (log : List Exchange) (e : Exchange) :
    lastOf kind (log ++ [e]) = if kind e then some e else lastOf kind log := by
  rw [lastOf, List.filter_append]
  split
  · next h => rw [List.filter_cons_of_pos h, List.filter_nil, List.getLast?_concat]
  · next h => rw [List.filter_cons_of_neg h, List.filter_nil, List.append_nil, lastOf]

theorem recollect_concat (value : α) (kind : Exchange → Bool) (made : Exchange → α)
    (log : List Exchange) (e : Exchange) :
    recollect value kind made (log ++ [e]) =
      if kind e then made e else recollect value kind made log := by
  rw [recollect, lastOf_concat]
  split
  · rfl
  · rfl

namespace Config

variable (c : Config)

/-- What is recalled of exchanges, the earliest first. -/
def recalled (log : List Exchange) : Config :=
  { c with
    lastQuery := recollect c.lastQuery Exchange.isGrouped (some ·.query.type) log
    lastArg0 := recollect c.lastArg0 Exchange.isGrouped (·.query.first?) log
    lastArg1 := recollect c.lastArg1 Exchange.isGrouped (·.query.second?) log
    lastCarrierDestination :=
      recollect c.lastCarrierDestination Exchange.isDispatched (·.query.first?) log
    plottedRoute := recollect c.plottedRoute Exchange.isPlotted Exchange.plottedRoute log
    plottedQuery := recollect c.plottedQuery Exchange.isReplotted Exchange.plottedQuery log
    carrierRoute := recollect c.carrierRoute Exchange.isCarried (some ·.answer.route) log }

/-- The configuration after exchanges have been remembered one after the other. -/
def rememberAll (log : List Exchange) : Config :=
  log.foldl (fun c e => c.remember e.query e.answer.route) c

/-- What an exchange makes of each field. -/
theorem remember_eq (e : Exchange) :
    c.remember e.query e.answer.route =
      { c with
        lastQuery := if e.isGrouped then some e.query.type else c.lastQuery
        lastArg0 := if e.isGrouped then e.query.first? else c.lastArg0
        lastArg1 := if e.isGrouped then e.query.second? else c.lastArg1
        lastCarrierDestination :=
          if e.isDispatched then e.query.first? else c.lastCarrierDestination
        plottedRoute := if e.isPlotted then e.plottedRoute else c.plottedRoute
        plottedQuery := if e.isReplotted then e.plottedQuery else c.plottedQuery
        carrierRoute := if e.isCarried then some e.answer.route else c.carrierRoute } := by
  obtain ⟨query, answer⟩ := e
  obtain ⟨type, arg0, arg1, numeric, flag, fromUi⟩ := query
  cases type with
  | carrier =>
    -- The destination depends not only on the type but also on whether there is an argument.
    simp only [remember, rememberRoute, Option.or_eq_bif, Bool.cond_eq_ite]
    rfl
  | _ => rfl

theorem recalled_concat (log : List Exchange) (e : Exchange) :
    c.recalled (log ++ [e]) = (c.recalled log).remember e.query e.answer.route := by
  rw [remember_eq]
  simp only [recalled, recollect_concat]

/-- To remember exchanges one after the other is to recollect the last ones. -/
theorem rememberAll_eq_recalled (log : List Exchange) : c.rememberAll log = c.recalled log := by
  induction log using List.reverseRecOn with
  | nil => rfl
  | append_singleton log e ih =>
    rw [c.recalled_concat, ← ih, rememberAll, rememberAll, List.foldl_append, List.foldl_cons,
      List.foldl_nil]

end Config

/-! ## Crashes -/

section Crashes

variable {ask : Asking σ} {s : Session σ}

namespace Navigator

variable (n : Navigator σ) {query : Query}

/-- Setting the flag does end, if the observers return. -/
theorem setWorking_returns (refuses : ask.Refuses)
    (returns : ∀ o ∈ n.observers, Observer.Returns o) (flag : Bool) (working : s.resolving = true) :
    (n.setWorking ask flag s).outcome = .ok () := by
  by_cases same : s.published.isWorking = flag
  · rw [n.setWorking_same flag same]
    rfl
  · obtain ⟨entries, -, told⟩ := n.setWorking_delivers refuses returns working flag same
    rw [told]
    rfl

theorem release_returns (refuses : ask.Refuses)
    (returns : ∀ o ∈ n.observers, Observer.Returns o) {t : Turn σ (Option Answer)}
    (working : t.session.resolving = true) : (n.release ask t).outcome = t.outcome := by
  rw [release]
  split
  · rfl
  · dsimp only
    rw [n.setWorking_returns refuses returns false working]

/-- If the observers return, the work on a query at the top does begin, on the configuration as it
    was. -/
theorem resolve_of_returns (returns : ∀ o ∈ n.observers, Observer.Returns o) (query : Query)
    (top : s.resolving = false) :
    ∃ (ask : Asking σ) (b : Session σ), ask.Refuses ∧ b.resolving = true ∧
      b.published.config = s.published.config ∧
      n.resolve query s = n.release ask (n.work ask query b) := by
  obtain ⟨ask, refuses, resolved⟩ := n.resolve_of_top query top
  have begun := n.setWorking_observed refuses true (s := { s with resolving := true }) rfl
  have started :=
    n.setWorking_returns refuses returns true (s := { s with resolving := true }) rfl
  refine ⟨ask, _, refuses, begun.resolving, by rw [begun.published]; rfl, ?_⟩
  rw [resolved, Turn.andThen_of_ok started]

theorem config_of_work_error (refuses : ask.Refuses)
    (returns : ∀ o ∈ n.observers, Observer.Returns o) (working : s.resolving = true)
    {ending : Ending} (crashed : (n.work ask query s).outcome = .error ending) :
    (n.work ask query s).session.published.config = s.published.config := by
  cases consulted : (n.consult query s.published.config).outcome with
  | error breakdown =>
    rw [n.work_of_error consulted]
    rfl
  | ok answer? =>
    cases answer? with
    | none =>
      rw [n.work_of_none consulted] at crashed
      cases crashed
    | some answer =>
      rw [n.work_of_some consulted] at crashed ⊢
      rcases n.publish_cases ask query answer (n.afterConsult query s) with
        ⟨system, station, -, -, announced⟩ | unwound
      · -- Once the answer is published, all observers are told and return.
        obtain ⟨entries, -, told⟩ := n.notify_delivers refuses returns
          (s := n.announced query answer system station (n.afterConsult query s)) working
        rw [announced, told] at crashed
        cases crashed
      · rw [unwound]
        rfl

/-- If the observers return, then nothing is published of a query in which something
    crashes. -/
theorem config_of_resolve_error (returns : ∀ o ∈ n.observers, Observer.Returns o)
    {ending : Ending} (crashed : (n.resolve query s).outcome = .error ending) :
    (n.resolve query s).session.published.config = s.published.config := by
  cases top : s.resolving with
  | true =>
    rw [resolve, n.resolveWithin_of_resolving _ query s top]
    rfl
  | false =>
    obtain ⟨ask, b, refuses, begun, config, resolved⟩ := n.resolve_of_returns returns query top
    have working := (n.work_cases refuses query begun).1
    rw [resolved] at crashed ⊢
    have worked := n.config_of_work_error refuses returns begun
      ((n.release_returns refuses returns working).symm.trans crashed)
    rcases n.release_cases refuses working with ⟨u, cleared, released⟩ | ⟨_, -, kept⟩
    · rw [released]
      exact (congrArg Snapshot.config cleared.published).trans (worked.trans config)
    · exact kept.trans (worked.trans config)

end Navigator

end Crashes

/-! ## Runs -/

/-- The answer that a step ends with. -/
def Turn.answer? (t : Turn σ (Option Answer)) : Option Answer :=
  match t.outcome with
  | .ok answer? => answer?
  | .error _ => none

/-- What comes of a query: an exchange if it is answered. -/
def Query.exchanged (query : Query) (answer? : Option Answer) : List Exchange :=
  (answer?.map (⟨query, ·⟩)).toList

namespace Navigator

variable (n : Navigator σ) {query : Query} {s : Session σ}

/-- What a query may have been given: what it ends with, or, if something crashed, nothing or
    the answer that the consultation has come to. -/
def Gives (query : Query) (s : Session σ) (answer? : Option Answer) : Prop :=
  match (n.resolve query s).outcome with
  | .ok given? => answer? = given?
  | .error _ =>
    ∀ answer, answer? = some answer →
      (n.consult query s.published.config).outcome = .ok (some answer)

/-- A query which ends leaves a mark if it is answered. -/
theorem config_of_resolve_ok {answer? : Option Answer}
    (ended : (n.resolve query s).outcome = .ok answer?) :
    (n.resolve query s).session.published.config =
      s.published.config.rememberAll (query.exchanged answer?) := by
  cases top : s.resolving with
  | true =>
    rw [resolve, n.resolveWithin_of_resolving _ query s top] at ended ⊢
    cases ended
    rfl
  | false =>
    rcases n.resolve_cases query top with ⟨unanswered, kept⟩ | ⟨answer, answered, published, -⟩ |
      ⟨ending, crashed, -⟩
    · cases ended.symm.trans unanswered
      rw [kept.published]
      rfl
    · cases ended.symm.trans answered
      exact published.config
    · cases ended.symm.trans crashed

/-- A query leaves the mark of what it is given, and this is what it ends with, if the
    observers return. -/
theorem exists_given (query : Query) (s : Session σ) :
    ∃ answer?, n.Gives query s answer? ∧
      (n.resolve query s).session.published.config =
        s.published.config.rememberAll (query.exchanged answer?) ∧
      ((∀ o ∈ n.observers, Observer.Returns o) → answer? = (n.resolve query s).answer?) := by
  cases ended : (n.resolve query s).outcome with
  | ok answer? =>
    have given : (n.resolve query s).answer? = answer? := by rw [Turn.answer?, ended]
    refine ⟨answer?, ?_, n.config_of_resolve_ok ended, fun _ => given.symm⟩
    rw [Gives, ended]
  | error ending =>
    have given : (n.resolve query s).answer? = none := by rw [Turn.answer?, ended]
    have gives : ∀ {answer? : Option Answer}, (∀ answer, answer? = some answer →
        (n.consult query s.published.config).outcome = .ok (some answer)) →
        n.Gives query s answer? := by
      intro answer? consulted
      rw [Gives, ended]
      exact consulted
    by_cases returns : ∀ o ∈ n.observers, Observer.Returns o
    · exact ⟨none, gives (fun _ absent => nomatch absent), n.config_of_resolve_error returns ended,
        fun _ => given.symm⟩
    · -- An observer may have crashed when it was told of the answer.
      rcases n.evolves_resolve query s with same | ⟨answer, consulted, config⟩
      · exact ⟨none, gives (fun _ absent => nomatch absent), same, fun h => absurd h returns⟩
      · exact ⟨some answer, gives fun _ same => Option.some.inj same ▸ consulted, config,
          fun h => absurd h returns⟩

end Navigator

namespace Session

variable {s : Session σ} {requests : List (Request σ)}

/-- The exchanges that requests come to which are made one after the other. -/
def exchanges : Session σ → List (Request σ) → List Exchange
  | _, [] => []
  | s, r :: rest =>
    let t := r.navigator.resolve r.query s
    r.query.exchanged t.answer? ++ t.session.exchanges rest

/-- Exchanges that requests may have come to, if something crashed. -/
inductive History : Session σ → List (Request σ) → List Exchange → Prop
  | nothing {s : Session σ} : History s [] []
  | request {s : Session σ} {r : Request σ} {rest : List (Request σ)} {answer? : Option Answer}
      {log : List Exchange} (gives : r.navigator.Gives r.query s answer?)
      (later : History (r.navigator.resolve r.query s).session rest log) :
      History s (r :: rest) (r.query.exchanged answer? ++ log)

/-- Whatever the outcomes of a sequence of queries, the configuration in the end is what is
    recalled of the exchanges that they came to. If all observers return, these are just the
    queries which ended with an answer; otherwise some of those in which something crashed may
    be among them, with the answer that would have been given. -/
theorem config_recalled (s : Session σ) (requests : List (Request σ)) :
    ∃ log, s.History requests log ∧
      (s.after requests).published.config = s.published.config.recalled log ∧
      ((∀ r ∈ requests, ∀ o ∈ r.navigator.observers, Observer.Returns o) →
        log = s.exchanges requests) := by
  -- The log is remembered front to back, as the requests are made.
  simp only [← Config.rememberAll_eq_recalled]
  induction requests generalizing s with
  | nil => exact ⟨[], .nothing, rfl, fun _ => rfl⟩
  | cons r rest ih =>
    obtain ⟨answer?, gives, config, given⟩ := r.navigator.exists_given r.query s
    obtain ⟨log, later, recalled, logged⟩ := ih (r.navigator.resolve r.query s).session
    refine ⟨r.query.exchanged answer? ++ log, .request gives later, ?_, fun returns => ?_⟩
    · rw [after, recalled, config, Config.rememberAll, Config.rememberAll, Config.rememberAll,
        List.foldl_append]
    · rw [exchanges, given (returns r List.mem_cons_self),
        logged fun r' hr' => returns r' (List.mem_cons_of_mem r hr')]

end Session

namespace Chart

/-- A query of a traveller at Sol, where their fleet carrier is as well. -/
def atSol (query : Query) : Request Nat where
  navigator :=
    { atlas := frontier.atlas
      traveller := TravellerState.traveller
        { system := some sol.waypoint, carrier := some { system := some "Sol" } }
      store := Navigator.fullStore
      observers := Navigator.castaway.observers }
  query

/-- Of a plot to Colonia, a plot to nowhere, a route of the fleet carrier to Jackson and an
    update of the plotted route, all but the second leave their marks. -/
theorem config_recalled_at_sol :
    let s : Session Nat := { published := {}, vault := 0 }
    let requests := [{ type := .set, arg0 := some " Colonia " },
      { type := .set, arg0 := some "Atlantis" }, { type := .carrier, arg0 := some "Jackson" },
      { type := .update }].map atSol
    let config := (s.after requests).published.config
    (∀ r ∈ requests, ∀ o ∈ r.navigator.observers, Observer.Returns o) ∧
      config = Config.recalled {} (s.exchanges requests) ∧
      (s.exchanges requests).map (·.query.type) = [.set, .carrier, .update] ∧
      config.lastQuery = some .carrier ∧ config.lastArg0 = some "Jackson" ∧
      config.plottedQuery = some .set := by
  intro s requests config
  have returns : ∀ r ∈ requests, ∀ o ∈ r.navigator.observers, Observer.Returns o := by
    intro r hr
    obtain ⟨query, -, rfl⟩ := List.mem_map.1 hr
    exact Navigator.castaway_attended.observers
  obtain ⟨log, -, recalled, logged⟩ := s.config_recalled requests
  refine ⟨returns, logged returns ▸ recalled, ?_, ?_, ?_, ?_⟩
  · decide +kernel
  · decide +kernel
  · decide +kernel
  · decide +kernel

end Chart

end Astrogation
