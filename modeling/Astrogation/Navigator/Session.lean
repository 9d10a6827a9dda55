import Astrogation.Answer
import Astrogation.Atlas.Table
import Astrogation.Fault
import Astrogation.Navigator.Memory

/-!
# Sessions

A session is what a navigator works on: the state it has published, the mark that
it is at work on a query, the store of its configuration, and a journal of what
it has done with the others.

A step of a session gives a result, or it is *unwound*: something crashed, and all
that was begun is released on the way out. If something crashes again on the way
out, everything ends at once (`Ending`). Either way the session stays as the step
has left it.
-/

namespace Astrogation

/-- The state which is published. -/
structure Snapshot where
  config : Config := {}
  /-- The system that the last answer leads to. -/
  searchSystem : Option Waypoint := none
  /-- The station that the last answer leads to. -/
  searchStation : Option Station := none
  /-- Whether a query is being worked on. -/
  isWorking : Bool := false
  deriving BEq, Repr

/-- What happened between a navigator and the others. Observers are told apart by
    their places in the order of subscription. -/
inductive Entry where
  /-- The atlas was asked. -/
  | inquired (inquiry : Inquiry)
  /-- The configuration was given to the store. -/
  | saved (config : Config)
  /-- An observer was given a snapshot. -/
  | notified (observer : Nat) (snapshot : Snapshot)
  /-- An observer read the published state. -/
  | readBack (observer : Nat) (snapshot : Snapshot)
  /-- An observer asked a query and was given this answer. -/
  | asked (observer : Nat) (query : Query) (answer : Option Answer)

/-- What an observer does when it is given a snapshot. -/
inductive Reaction where
  | done
  | crash
  /-- It reads the published state. -/
  | readBack (next : Snapshot → Reaction)
  /-- It asks a query. -/
  | ask (query : Query) (next : Option Answer → Reaction)

/-- One who is given a snapshot after every change. What an observer does may
    depend on all that has happened before. -/
abbrev Observer := (past : List Entry) → Snapshot → Reaction

/-- Where the configuration is kept, by means of a state of type `σ`. -/
structure ConfigStore (σ : Type) where
  load : σ → Except Fault Config
  save : Config → σ → Call (Except Fault Unit) × σ

/-- What a navigator works on. -/
structure Session (σ : Type) where
  published : Snapshot
  /-- The mark that a query is being worked on, whoever asks. -/
  resolving : Bool := false
  /-- The state of the store. -/
  vault : σ
  journal : List Entry := []

/-- Why a step has no result. -/
inductive Ending where
  /-- Something crashed, and what was begun has been released. -/
  | unwound
  /-- Something crashed on the way out of a crash. -/
  | aborted
  deriving DecidableEq

/-- A step of a session: its result, and the session after it. -/
structure Turn (σ α : Type) where
  outcome : Except Ending α
  session : Session σ

variable {σ α β : Type}

namespace Turn

/-- A step which changes nothing. -/
def result (value : α) (s : Session σ) : Turn σ α := ⟨.ok value, s⟩

/-- A step in which something crashed. -/
def unwound (s : Session σ) : Turn σ α := ⟨.error .unwound, s⟩

/-- A step, and another after it unless it ended. -/
def andThen (t : Turn σ α) (next : α → Session σ → Turn σ β) : Turn σ β :=
  match t.outcome with
  | .ok value => next value t.session
  | .error ending => ⟨.error ending, t.session⟩

/-- A step which goes on with the reply to a call. -/
def ofCall : Call α → Session σ → Turn σ α
  | .reply value, s => result value s
  | .crash, s => unwound s

@[simp]
theorem andThen_result (value : α) (s : Session σ) (next : α → Session σ → Turn σ β) :
    (result value s).andThen next = next value s := rfl

@[simp]
theorem andThen_unwound (s : Session σ) (next : α → Session σ → Turn σ β) :
    (unwound s : Turn σ α).andThen next = unwound s := rfl

@[simp]
theorem ofCall_reply (value : α) (s : Session σ) : ofCall (.reply value) s = result value s := rfl

end Turn

namespace Session

/-- The session with one more entry in its journal. -/
def note (s : Session σ) (entry : Entry) : Session σ := { s with journal := s.journal ++ [entry] }

/-- The session with the inquiries of a resolver in its journal. -/
def noteAll (s : Session σ) (inquiries : List Inquiry) : Session σ :=
  { s with journal := s.journal ++ inquiries.map .inquired }

/-- A session with the configuration of a store. -/
def start (store : ConfigStore σ) (vault : σ) : Except Fault (Session σ) :=
  (store.load vault).map fun config => { published := { config }, vault }

@[simp]
theorem published_note (s : Session σ) (entry : Entry) :
    (s.note entry).published = s.published := rfl

@[simp]
theorem resolving_note (s : Session σ) (entry : Entry) :
    (s.note entry).resolving = s.resolving := rfl

@[simp]
theorem vault_note (s : Session σ) (entry : Entry) : (s.note entry).vault = s.vault := rfl

@[simp]
theorem journal_note (s : Session σ) (entry : Entry) :
    (s.note entry).journal = s.journal ++ [entry] := rfl

end Session

end Astrogation
