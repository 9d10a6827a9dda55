import Astrogation.Navigator.Memory
import Astrogation.Navigator.Session
import Astrogation.Resolver.Registry

/-!
# Navigators

A `Navigator` answers queries. For a query it finds out where to start, lets the
resolver of the type answer, compares the route with the one that is stored, and
then publishes the outcome all at once: what is remembered, the routes, and the
system and station that the answer leads to. A query which is not answered, for
whatever reason, leaves no trace.

Observers are given a snapshot when the work on a query begins and when it ends.
They may read the published state, but a query that they ask meanwhile is refused:
a mark says that a query is being worked on. The mark and the flag of the snapshot
are released on every way out of the work.
-/

namespace Astrogation

/-- What answers queries, and whom it works with. -/
structure Navigator (σ : Type) where
  registry : Registry := .standard
  atlas : Atlas
  traveller : Traveller
  store : ConfigStore σ
  observers : List Observer := []

/-- A way to ask queries of a session. -/
abbrev Asking (σ : Type) := Query → Session σ → Turn σ (Option Answer)

variable {σ : Type}

/-! ## Observers -/

/-- An observer's reaction to a snapshot. -/
def Reaction.perform (ask : Asking σ) (observer : Nat) : Reaction → Session σ → Turn σ Unit
  | done, s => .result () s
  | crash, s => .unwound s
  | readBack next, s =>
    (next s.published).perform ask observer (s.note (.readBack observer s.published))
  | .ask query next, s =>
    (ask query s).andThen fun answer s =>
      (next answer).perform ask observer (s.note (.asked observer query answer))

/-- Observers, the first with this number, are given a snapshot in turn. -/
def notifyFrom (ask : Asking σ) (snapshot : Snapshot) :
    (number : Nat) → List Observer → Session σ → Turn σ Unit
  | _, [], s => .result () s
  | number, observer :: rest, s =>
    ((observer s.journal snapshot).perform ask number (s.note (.notified number snapshot))).andThen
      fun _ s => notifyFrom ask snapshot (number + 1) rest s

namespace Navigator

variable (n : Navigator σ)

/-- All observers are given the published state. -/
def notify (ask : Asking σ) (s : Session σ) : Turn σ Unit :=
  notifyFrom ask s.published 0 n.observers s

/-- The flag of the published state is set, and the observers are given the state
    if that changes it. -/
def setWorking (ask : Asking σ) (working : Bool) (s : Session σ) : Turn σ Unit :=
  if s.published.isWorking == working then .result () s
  else n.notify ask { s with published := { s.published with isWorking := working } }

/-! ## Answers -/

/-- Where a query starts: fleet carriers at their own system, all else where the
    traveller is. -/
def startOf (type : QueryType) : Call (Option Waypoint) :=
  if type == .carrier then
    n.traveller.carrier.bind fun carrier =>
      match carrier.bind (·.system) with
      | some name => n.atlas.systemNamed name
      | none => .reply none
  else n.traveller.system

/-- What a resolver comes to; none if it breaks down. -/
def attempt (c : Consultation (Option Answer)) : Consultation (Option Answer) :=
  match c.outcome with
  | .ok answer => ⟨.ok answer, c.inquiries⟩
  | .error _ => ⟨.ok none, c.inquiries⟩

/-- The answer to a query, compared with the stored route. -/
def consult (query : Query) (config : Config) : Consultation (Option Answer) := do
  match ← Consultation.ofCall (n.startOf query.type) with
  | none => return none
  | some start =>
    match n.registry.get? query.type with
    | none => return none
    | some resolver =>
      let missions ← Consultation.ofCall n.traveller.missions
      let fresh ← attempt (resolver.resolve query start ⟨n.atlas, n.traveller, missions, config⟩)
      return fresh.map (config.settle query.type)

/-- The system that an answer leads to. -/
def searchSystem (answer : Answer) : Call (Option Waypoint) :=
  match answer.address with
  | some address => if address == 0 then .reply none else n.atlas.systemAt address
  | none => .reply none

/-- The station that an answer leads to, if its system is known. -/
def searchStation (system : Option Waypoint) (answer : Answer) : Call (Option Station) :=
  match system, answer.marketId with
  | some _, some market => if market == 0 then .reply none else n.atlas.stationOf market
  | _, _ => .reply none

/-- The configuration is given to the store. Whether it could be saved does not
    matter. -/
def save (config : Config) (s : Session σ) : Turn σ Unit :=
  let (call, vault) := n.store.save config s.vault
  (Turn.ofCall call ({ s with vault }.note (.saved config))).andThen fun _ s => .result () s

/-- An answer is published: its configuration is saved, and the observers are given
    a state in which all has changed at once. -/
def publish (ask : Asking σ) (query : Query) (answer : Answer) (s : Session σ) : Turn σ Unit :=
  let config := s.published.config.remember query answer.route
  (n.save config s).andThen fun _ s =>
    (Turn.ofCall (n.searchSystem answer) s).andThen fun searchSystem s =>
      (Turn.ofCall (n.searchStation searchSystem answer) s).andThen fun searchStation s =>
        n.notify ask
          { s with published := { config, searchSystem, searchStation, isWorking := false } }

/-- The work on a query between its beginning and its end. -/
def work (ask : Asking σ) (query : Query) (s : Session σ) : Turn σ (Option Answer) :=
  let consultation := n.consult query s.published.config
  let s := s.noteAll consultation.inquiries
  match consultation.outcome with
  | .error _ => .unwound s
  | .ok none => .result none s
  | .ok (some answer) =>
    (n.publish ask query answer s).andThen fun _ s => .result (some answer) s

/-! ## Beginning and end -/

/-- The end of the work on a query: the flag is cleared, and then the mark. A crash
    on the way out of a crash ends everything. -/
def release (ask : Asking σ) (t : Turn σ (Option Answer)) : Turn σ (Option Answer) :=
  match t.outcome with
  | .error .aborted => t
  | outcome =>
    let cleared := n.setWorking ask false t.session
    match cleared.outcome, outcome with
    | .ok _, _ => ⟨outcome, { cleared.session with resolving := false }⟩
    | .error ending, .ok _ => ⟨.error ending, cleared.session⟩
    | .error _, .error _ => ⟨.error .aborted, cleared.session⟩

/-- A query is asked, by an observer if the mark is set, and refused then. Queries
    may be asked within queries to this `depth`. -/
def resolveWithin : (depth : Nat) → Asking σ
  | 0, _, s => .result none s
  | depth + 1, query, s =>
    if s.resolving then .result none s
    else
      let ask := resolveWithin depth
      (n.setWorking ask true { s with resolving := true }).andThen fun _ s =>
        n.release ask (n.work ask query s)

/-- How deeply observers may ask queries within each other. As those within the
    first are refused, it does not matter. -/
def nestingDepth : Nat := 8

/-- A query is asked. -/
def resolve : Asking σ := n.resolveWithin nestingDepth

/-- While a query is being worked on, any other is refused. -/
theorem resolveWithin_of_resolving (depth : Nat) (query : Query) (s : Session σ)
    (h : s.resolving = true) : n.resolveWithin depth query s = .result none s := by
  cases depth <;> simp [resolveWithin, h]

end Navigator

end Astrogation
