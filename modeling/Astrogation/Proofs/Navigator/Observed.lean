import Astrogation.Navigator.Resolve

/-!
# What observers may do to a session

While a query is being worked on, an observer who is given a snapshot may read
the published state and may ask queries, which are refused. So a notification
leaves the session as it was, but for entries in the journal which say that the
snapshot was given, that the same snapshot was read back, or that a query was
refused (`Session.Observed`). It comes to an end unless an observer crashes
(`Observer.Calm`).

* `notify_observed`: what a notification leaves alone, whoever observes;
* `setWorking_observed`: setting the flag changes nothing else;
* `notify_calm`, `setWorking_calm`: both end if no observer crashes.
-/

namespace Astrogation

variable {σ α β : Type}

/-! ## The journal -/

/-- The configuration that an entry records as given to the store. -/
def Entry.saved? : Entry → Option Config
  | saved config => some config
  | _ => none

/-- Whether an entry records what an observer does with a snapshot `p`: it is
    given it, it reads it back, or it asks a query and is refused. -/
def Entry.Observes (p : Snapshot) : Entry → Prop
  | notified _ q => q = p
  | readBack _ q => q = p
  | asked _ _ answer => answer = none
  | _ => False

theorem Entry.observes_notified (observer : Nat) (p : Snapshot) :
    (notified observer p).Observes p := rfl

theorem Entry.observes_readBack (observer : Nat) (p : Snapshot) :
    (readBack observer p).Observes p := rfl

theorem Entry.observes_refused (observer : Nat) (query : Query) (p : Snapshot) :
    (asked observer query none).Observes p := rfl

/-- What an observer does is no save. -/
theorem Entry.Observes.saved? {p : Snapshot} {e : Entry} (h : e.Observes p) :
    e.saved? = none := by
  cases e with
  | saved => exact h.elim
  | _ => rfl

namespace Session

/-- The configurations given to the store so far. -/
def saves (s : Session σ) : List Config := s.journal.filterMap Entry.saved?

/-- The session with the flag of its published state set. -/
def flagged (s : Session σ) (working : Bool) : Session σ :=
  { s with published := { s.published with isWorking := working } }

@[simp]
theorem published_flagged (s : Session σ) (working : Bool) :
    (s.flagged working).published = { s.published with isWorking := working } := rfl

@[simp]
theorem resolving_flagged (s : Session σ) (working : Bool) :
    (s.flagged working).resolving = s.resolving := rfl

@[simp]
theorem vault_flagged (s : Session σ) (working : Bool) : (s.flagged working).vault = s.vault := rfl

@[simp]
theorem saves_flagged (s : Session σ) (working : Bool) : (s.flagged working).saves = s.saves := rfl

/-- One more entry tells of a save if it records one. -/
@[simp]
theorem saves_note (s : Session σ) (e : Entry) :
    (s.note e).saves = s.saves ++ e.saved?.toList := by
  simp only [saves, journal_note, List.filterMap_append]
  cases h : e.saved? <;> simp [h]

/-- Inquiries are no saves. -/
@[simp]
theorem saves_noteAll (s : Session σ) (inquiries : List Inquiry) :
    (s.noteAll inquiries).saves = s.saves := by
  have none_saved : (inquiries.map Entry.inquired).filterMap Entry.saved? = [] :=
    List.filterMap_eq_nil_iff.2 fun e he => by
      obtain ⟨inquiry, -, rfl⟩ := List.mem_map.1 he
      rfl
  rw [saves, noteAll, List.filterMap_append, none_saved, List.append_nil, saves]

/-- `t` is `s` but for its journal, which tells of no further save. -/
structure Kept (s t : Session σ) : Prop where
  published : t.published = s.published
  resolving : t.resolving = s.resolving
  vault : t.vault = s.vault
  saves : t.saves = s.saves

/-- To note inquiries keeps the session. -/
theorem Kept.noteAll (s : Session σ) (inquiries : List Inquiry) : s.Kept (s.noteAll inquiries) :=
  ⟨rfl, rfl, rfl, saves_noteAll s inquiries⟩

/-- `t` is `s` after observers have been given the published state. -/
structure Observed (s t : Session σ) : Prop where
  published : t.published = s.published
  resolving : t.resolving = s.resolving
  vault : t.vault = s.vault
  journal : ∃ entries, t.journal = s.journal ++ entries ∧ ∀ e ∈ entries, e.Observes s.published

namespace Observed

variable {s t u : Session σ}

theorem refl (s : Session σ) : s.Observed s :=
  ⟨rfl, rfl, rfl, [], (List.append_nil _).symm, fun _ he => absurd he List.not_mem_nil⟩

theorem note {e : Entry} (he : e.Observes s.published) : s.Observed (s.note e) :=
  ⟨rfl, rfl, rfl, [e], rfl, fun _ h => List.mem_singleton.1 h ▸ he⟩

/-- Observers who are given the state one after the other do no more than one does alone. -/
theorem trans (hst : s.Observed t) (htu : t.Observed u) : s.Observed u := by
  obtain ⟨es, hes, hs⟩ := hst.journal
  obtain ⟨fs, hfs, ht⟩ := htu.journal
  refine ⟨htu.published.trans hst.published, htu.resolving.trans hst.resolving,
    htu.vault.trans hst.vault, es ++ fs, by rw [hfs, hes, List.append_assoc], ?_⟩
  intro e he
  rcases List.mem_append.1 he with he | he
  · exact hs e he
  · exact hst.published ▸ ht e he

/-- Observers save nothing. -/
theorem saves (h : s.Observed t) : t.saves = s.saves := by
  obtain ⟨es, hes, hs⟩ := h.journal
  have none_saved : es.filterMap Entry.saved? = [] :=
    List.filterMap_eq_nil_iff.2 fun e he => (hs e he).saved?
  rw [Session.saves, hes, List.filterMap_append, none_saved, List.append_nil, Session.saves]

/-- A step which observers take, and another after it. -/
theorem andThen {x : Turn σ α} {next : α → Session σ → Turn σ β} (hx : s.Observed x.session)
    (hnext : ∀ value, x.session.Observed (next value x.session).session) :
    s.Observed (x.andThen next).session := by
  rw [Turn.andThen]
  split
  · exact hx.trans (hnext _)
  · exact hx

end Observed

end Session

theorem Turn.andThen_of_ok {x : Turn σ α} {value : α} (h : x.outcome = .ok value)
    (next : α → Session σ → Turn σ β) : x.andThen next = next value x.session := by
  rw [Turn.andThen, h]

/-- Nothing comes after a step that ended. -/
theorem Turn.andThen_of_error {x : Turn σ α} {ending : Ending} (h : x.outcome = .error ending)
    (next : α → Session σ → Turn σ β) : x.andThen next = ⟨.error ending, x.session⟩ := by
  rw [Turn.andThen, h]

/-! ## Reactions -/

/-- Queries are refused while the mark is set. -/
def Asking.Refuses (ask : Asking σ) : Prop :=
  ∀ query s, s.resolving = true → ask query s = .result none s

/-- A navigator refuses queries while it works on one, however deep they are nested. -/
theorem Navigator.refuses_resolveWithin (n : Navigator σ) (depth : Nat) :
    Asking.Refuses (n.resolveWithin depth) :=
  n.resolveWithin_of_resolving depth

/-- A reaction in which nothing crashes. -/
inductive Reaction.Calm : Reaction → Prop
  | done : Calm .done
  | readBack {next : Snapshot → Reaction} : (∀ p, (next p).Calm) → Calm (.readBack next)
  | ask {query : Query} {next : Option Answer → Reaction} :
      (∀ answer, (next answer).Calm) → Calm (.ask query next)

/-- An observer which never crashes. -/
def Observer.Calm (observer : Observer) : Prop := ∀ past p, (observer past p).Calm

variable {ask : Asking σ} {s : Session σ}

/-- Whatever a reaction does, it leaves the session alone: all that it may do is to read, or to
    ask in vain. This is by induction on the reaction, as each step keeps the mark. -/
theorem Reaction.perform_observed (refuses : ask.Refuses) (observer : Nat) (r : Reaction)
    (working : s.resolving = true) : s.Observed (r.perform ask observer s).session := by
  -- The published state is the same at every node of the reaction, and so is the
  -- mark, by which what it asks is refused.
  induction r generalizing s with
  | done => exact .refl s
  | crash => exact .refl s
  | readBack next ih =>
    rw [perform]
    exact (Session.Observed.note (Entry.observes_readBack observer s.published)).trans
      (ih _ working)
  | ask query next ih =>
    rw [perform, refuses query s working, Turn.andThen_result]
    exact (Session.Observed.note (Entry.observes_refused observer query s.published)).trans
      (ih _ working)

/-- A reaction in which nothing crashes comes to its end. -/
theorem Reaction.Calm.perform (refuses : ask.Refuses) (observer : Nat) {r : Reaction}
    (calm : r.Calm) (working : s.resolving = true) :
    (r.perform ask observer s).outcome = .ok () := by
  induction calm generalizing s with
  | done => rfl
  | readBack _ ih =>
    rw [Reaction.perform]
    exact ih _ working
  | ask _ ih =>
    rw [Reaction.perform, refuses _ s working, Turn.andThen_result]
    exact ih _ working

/-! ## Notifications -/

/-- Observers from some place on are given a snapshot in turn, until one crashes. -/
theorem notifyFrom_observed (refuses : ask.Refuses) {p : Snapshot} (observers : List Observer)
    (number : Nat) (working : s.resolving = true) (hp : s.published = p) :
    s.Observed (notifyFrom ask p number observers s).session := by
  induction observers generalizing s number with
  | nil => exact .refl s
  | cons observer rest ih =>
    have given : s.Observed (s.note (.notified number p)) :=
      .note (hp ▸ Entry.observes_notified number s.published)
    have heard : s.Observed ((observer s.journal p).perform ask number
        (s.note (.notified number p))).session :=
      given.trans (Reaction.perform_observed refuses number (observer s.journal p) working)
    rw [notifyFrom]
    exact heard.andThen fun _ =>
      ih (number + 1) (heard.resolving.trans working) (heard.published.trans hp)

theorem notifyFrom_calm (refuses : ask.Refuses) (p : Snapshot) {observers : List Observer}
    (calm : ∀ o ∈ observers, Observer.Calm o) (number : Nat) (working : s.resolving = true) :
    (notifyFrom ask p number observers s).outcome = .ok () := by
  induction observers generalizing s number with
  | nil => rfl
  | cons observer rest ih =>
    have heard := Reaction.perform_observed refuses number (observer s.journal p)
      (s := s.note (.notified number p)) working
    have done := (calm observer List.mem_cons_self s.journal p).perform refuses number
      (s := s.note (.notified number p)) working
    rw [notifyFrom, Turn.andThen_of_ok done]
    exact ih (fun o ho => calm o (List.mem_cons_of_mem _ ho)) (number + 1)
      (heard.resolving.trans working)

namespace Navigator

variable (n : Navigator σ)

/-- A notification leaves the session alone, but for what the journal tells of it. -/
theorem notify_observed (refuses : ask.Refuses) (working : s.resolving = true) :
    s.Observed (n.notify ask s).session :=
  notifyFrom_observed refuses n.observers 0 working rfl

/-- If no observer crashes, all are given the snapshot. -/
theorem notify_calm (refuses : ask.Refuses) (calm : ∀ o ∈ n.observers, Observer.Calm o)
    (working : s.resolving = true) : (n.notify ask s).outcome = .ok () :=
  notifyFrom_calm refuses s.published calm 0 working

/-- Setting the flag changes nothing else, but for what the journal tells of it. -/
theorem setWorking_observed (refuses : ask.Refuses) (flag : Bool) (working : s.resolving = true) :
    (s.flagged flag).Observed (n.setWorking ask flag s).session := by
  rw [setWorking]
  split
  · next same =>
    -- The flag is as it should be, and nobody is told.
    have unchanged : s.flagged flag = s := by rw [← eq_of_beq same]; rfl
    rw [unchanged]
    exact .refl s
  · exact n.notify_observed refuses working

theorem setWorking_calm (refuses : ask.Refuses) (calm : ∀ o ∈ n.observers, Observer.Calm o)
    (flag : Bool) (working : s.resolving = true) :
    (n.setWorking ask flag s).outcome = .ok () := by
  rw [setWorking]
  split
  · rfl
  · exact n.notify_calm refuses calm working

end Navigator

end Astrogation
