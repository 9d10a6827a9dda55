import Astrogation.Proofs.Navigator.Progress

/-!
# How the mark and the flag are released

Before the work on a query the mark and the flag are set, and the observers are told
(`Navigator.opening`). When the work is over, however it ended, the flag is cleared, the observers
are told if it was not cleared before (`Navigator.closing`), and then the mark is. So all is idle
again after a query if and only if no observer crashes when it is told the one or the other
(`idle_resolve_iff`). What else crashes does not matter: a crash of a resolver, of the atlas, the
traveller or the store, and of an observer which is told of an answer, is released.

This is so in particular if the query ends in an orderly way, or if the observers return. There are
two ways to leave the mark behind, apart from a crash on the way out of a crash, which ends
everything: an observer crashes when it is told that the work begins, or when it is told that it
ended without an answer (`resolve_releases`). From then on all queries are refused. Both do happen
(`mark_left_behind`).
-/

namespace Astrogation

variable {σ α β : Type}

/-! ## What does not end everything -/

/-- A step which does not end everything, though something may have crashed. -/
def Turn.Survives (t : Turn σ α) : Prop := t.outcome ≠ .error .aborted

namespace Turn

theorem survives_result (value : α) (s : Session σ) : (result value s).Survives :=
  fun h => nomatch h

theorem survives_unwound (s : Session σ) : (unwound s : Turn σ α).Survives := fun h => nomatch h

theorem Survives.andThen {x : Turn σ α} {next : α → Session σ → Turn σ β} (hx : x.Survives)
    (hnext : ∀ value, (next value x.session).Survives) : (x.andThen next).Survives := by
  cases h : x.outcome with
  | ok value =>
    rw [andThen_of_ok h]
    exact hnext value
  | error ending =>
    rw [andThen_of_error h]
    intro aborted
    obtain rfl : ending = .aborted := Except.error.inj aborted
    exact hx h

theorem Survives.eq_unwound {t : Turn σ α} (h : t.Survives) {ending : Ending}
    (crashed : t.outcome = .error ending) : ending = .unwound := by
  cases ending with
  | unwound => rfl
  | aborted => exact absurd crashed h

end Turn

/-- A way to ask queries by which all are refused. -/
def Asking.refusing : Asking σ := fun _ s => .result none s

theorem Asking.refuses_refusing : (refusing : Asking σ).Refuses := fun _ _ _ => rfl

open Asking (refusing refuses_refusing)

variable {s : Session σ}

theorem Reaction.survives_perform (observer : Nat) (r : Reaction) (s : Session σ) :
    (r.perform refusing observer s).Survives := by
  induction r generalizing s with
  | done => exact Turn.survives_result () s
  | crash => exact Turn.survives_unwound s
  | readBack next ih => exact ih _ _
  | ask query next ih => exact ih _ _

theorem survives_notifyFrom (p : Snapshot) (number : Nat) (observers : List Observer)
    (s : Session σ) : (notifyFrom refusing p number observers s).Survives := by
  induction observers generalizing s number with
  | nil => exact Turn.survives_result () s
  | cons observer rest ih =>
    exact (Reaction.survives_perform number _ _).andThen fun _ => ih _ _

namespace Navigator

variable (n : Navigator σ) (query : Query) {answer : Answer}

theorem survives_setWorking (flag : Bool) (s : Session σ) :
    (n.setWorking refusing flag s).Survives := by
  rw [setWorking]
  split
  · exact Turn.survives_result () s
  · exact survives_notifyFrom _ 0 n.observers _

theorem survives_publish (answer : Answer) (s : Session σ) :
    (n.publish refusing query answer s).Survives := by
  rcases n.publish_cases refusing query answer s with ⟨system, station, -, -, announced⟩ | crashed
  · rw [announced]
    exact survives_notifyFrom _ 0 n.observers _
  · rw [crashed]
    exact Turn.survives_unwound _

theorem survives_work (s : Session σ) : (n.work refusing query s).Survives := by
  cases consulted : (n.consult query s.published.config).outcome with
  | error breakdown =>
    rw [n.work_of_error consulted]
    exact Turn.survives_unwound _
  | ok answer? =>
    cases answer? with
    | none =>
      rw [n.work_of_none consulted]
      exact Turn.survives_result none _
    | some answer =>
      rw [n.work_of_some consulted]
      exact (n.survives_publish query answer _).andThen fun _ => Turn.survives_result _ _

/-! ## Beginning and end -/

/-- The beginning of a query at the top: the mark and the flag are set, and the observers are told
    if the flag was not. -/
def opening (s : Session σ) : Turn σ Unit := n.setWorking refusing true { s with resolving := true }

/-- The work on a query at the top. -/
def worked (s : Session σ) : Turn σ (Option Answer) :=
  n.work refusing query (n.opening s).session

/-- The end of a query at the top, before the mark is cleared: the flag is cleared, and the
    observers are told if it was not. -/
def closing (s : Session σ) : Turn σ Unit := n.setWorking refusing false (n.worked query s).session

variable {query}

theorem opening_observed (s : Session σ) :
    ({ s with resolving := true }.flagged true).Observed (n.opening s).session :=
  n.setWorking_observed refuses_refusing true rfl

theorem resolving_worked (s : Session σ) : (n.worked query s).session.resolving = true :=
  (n.work_cases refuses_refusing query (n.opening_observed s).resolving).1

theorem closing_observed (s : Session σ) :
    ((n.worked query s).session.flagged false).Observed (n.closing query s).session :=
  n.setWorking_observed refuses_refusing false (n.resolving_worked s)

/-- Whatever observers ask is refused, so a query can be told from its beginning, the work and
    the end. -/
theorem resolve_eq (top : s.resolving = false) :
    n.resolve query s =
      (n.opening s).andThen fun _ _ => n.release refusing (n.worked query s) := by
  have flat : n.resolve query s = n.resolveWithin 1 query s := n.resolveWithin_succ 7 query s
  rw [flat, resolveWithin, if_neg (Bool.not_eq_true _ ▸ top)]
  exact Turn.andThen_congr fun _ => rfl

theorem resolve_of_opening_error (top : s.resolving = false) {ending : Ending}
    (crashed : (n.opening s).outcome = .error ending) :
    n.resolve query s = ⟨.error ending, (n.opening s).session⟩ := by
  rw [n.resolve_eq top, Turn.andThen_of_error crashed]

/-- If the observers return at the beginning and at the end, the query ends as the work did, with
    the mark cleared. -/
theorem resolve_of_closing_ok (top : s.resolving = false) (opened : (n.opening s).outcome = .ok ())
    (closed : (n.closing query s).outcome = .ok ()) :
    n.resolve query s =
      ⟨(n.worked query s).outcome, { (n.closing query s).session with resolving := false }⟩ := by
  rw [n.resolve_eq top, Turn.andThen_of_ok opened, release]
  split
  · next aborted => exact absurd aborted (n.survives_work query _)
  · dsimp only
    rw [← closing, closed]

/-- If one crashes at the end, the query ends in the crash, or everything ends if the work already
    did. -/
theorem resolve_of_closing_error (top : s.resolving = false)
    (opened : (n.opening s).outcome = .ok ()) {ending : Ending}
    (crashed : (n.closing query s).outcome = .error ending) :
    n.resolve query s =
      ⟨.error (match (n.worked query s).outcome with
        | .ok _ => ending
        | .error _ => .aborted), (n.closing query s).session⟩ := by
  rw [n.resolve_eq top, Turn.andThen_of_ok opened, release]
  split
  · next aborted => exact absurd aborted (n.survives_work query _)
  · dsimp only
    rw [← closing, crashed]
    cases (n.worked query s).outcome with
    | ok => rfl
    | error => rfl

/-! ## What is left behind -/

theorem idle_of_closing_ok (top : s.resolving = false) (opened : (n.opening s).outcome = .ok ())
    (closed : (n.closing query s).outcome = .ok ()) : (n.resolve query s).session.Idle := by
  rw [n.resolve_of_closing_ok top opened closed]
  refine ⟨rfl, ?_⟩
  show (n.closing query s).session.published.isWorking = false
  rw [(n.closing_observed s).published]
  rfl

theorem resolving_closing (s : Session σ) : (n.closing query s).session.resolving = true :=
  (n.closing_observed s).resolving.trans (n.resolving_worked s)

/-- An observer who crashes at the beginning of a query or at its end leaves the mark behind, and
    the query ends in the crash. -/
theorem marked_of_error (top : s.resolving = false)
    (crashed : ¬((n.opening s).outcome = .ok () ∧ (n.closing query s).outcome = .ok ())) :
    (∃ ending, (n.resolve query s).outcome = .error ending) ∧
      (n.resolve query s).session.resolving = true := by
  cases opened : (n.opening s).outcome with
  | error ending =>
    rw [n.resolve_of_opening_error top opened]
    exact ⟨⟨ending, rfl⟩, (n.opening_observed s).resolving⟩
  | ok =>
    cases closed : (n.closing query s).outcome with
    | ok => exact absurd ⟨opened, closed⟩ crashed
    | error ending =>
      rw [n.resolve_of_closing_error top opened closed]
      exact ⟨⟨_, rfl⟩, n.resolving_closing s⟩

/-- All is idle after a query if and only if no observer crashes at its beginning or at its end. -/
theorem idle_resolve_iff (top : s.resolving = false) :
    (n.resolve query s).session.Idle ↔
      (n.opening s).outcome = .ok () ∧ (n.closing query s).outcome = .ok () := by
  refine ⟨fun idle => ?_, fun ⟨opened, closed⟩ => n.idle_of_closing_ok top opened closed⟩
  by_contra crashed
  cases idle.unmarked.symm.trans (n.marked_of_error top crashed).2

/-- Either all is idle after a query, or it has ended in a crash and the mark is left behind. -/
theorem idle_or_marked (query : Query) (top : s.resolving = false) :
    (n.resolve query s).session.Idle ∨
      (∃ ending, (n.resolve query s).outcome = .error ending) ∧
        (n.resolve query s).session.resolving = true := by
  by_cases returned : (n.opening s).outcome = .ok () ∧ (n.closing query s).outcome = .ok ()
  · exact .inl ((n.idle_resolve_iff top).2 returned)
  · exact .inr (n.marked_of_error top returned)

theorem opening_returns (returns : ∀ o ∈ n.observers, Observer.Returns o) (s : Session σ) :
    (n.opening s).outcome = .ok () :=
  n.setWorking_returns refuses_refusing returns true rfl

theorem closing_returns (returns : ∀ o ∈ n.observers, Observer.Returns o) (s : Session σ) :
    (n.closing query s).outcome = .ok () :=
  n.setWorking_returns refuses_refusing returns false (n.resolving_worked s)

theorem idle_of_returns (top : s.resolving = false)
    (returns : ∀ o ∈ n.observers, Observer.Returns o) :
    (n.resolve query s).session.Idle ∧ (n.resolve query s).Survives := by
  have opened := n.opening_returns returns s
  have closed : (n.closing query s).outcome = .ok () := n.closing_returns returns s
  refine ⟨n.idle_of_closing_ok top opened closed, ?_⟩
  rw [n.resolve_of_closing_ok top opened closed]
  exact n.survives_work query _

theorem consult_of_work_none {ask : Asking σ} (ended : (n.work ask query s).outcome = .ok none) :
    (n.consult query s.published.config).outcome = .ok none := by
  cases consulted : (n.consult query s.published.config).outcome with
  | error breakdown =>
    rw [n.work_of_error consulted] at ended
    cases ended
  | ok answer? =>
    cases answer? with
    | none => rfl
    | some answer =>
      rw [n.work_of_some consulted, Turn.andThen] at ended
      split at ended
      · cases ended
      · cases ended

/-- If an observer crashes at the end of a query whose work was done, it was not answered: of an
    answer the observers have been told already, with the flag cleared. -/
theorem unanswered_of_closing_error {answer? : Option Answer}
    (done : (n.worked query s).outcome = .ok answer?) {ending : Ending}
    (crashed : (n.closing query s).outcome = .error ending) :
    (n.consult query s.published.config).outcome = .ok none ∧
      (n.closing query s).session.published = { s.published with isWorking := false } := by
  have begun := n.opening_observed s
  have config : (n.opening s).session.published.config = s.published.config := by
    rw [begun.published]
    rfl
  rcases (n.work_cases refuses_refusing query begun.resolving).2 with ⟨ended, kept⟩ |
    ⟨answer, -, published⟩ | ⟨ending, ended, -⟩
  · refine ⟨config ▸ n.consult_of_work_none ended, ?_⟩
    have unchanged : (n.worked query s).session.published = (n.opening s).session.published :=
      kept.published
    rw [(n.closing_observed s).published, Session.published_flagged, unchanged, begun.published]
    rfl
  · -- An answer is published with the flag cleared, so nobody is told at the end.
    have closed : n.closing query s = .result () (n.worked query s).session :=
      n.setWorking_same false published.idle
    rw [closed] at crashed
    cases crashed
  · cases done.symm.trans ended

/-- A query which is unwound leaves something behind in two ways. -/
theorem left_behind_cases (top : s.resolving = false)
    (unwound : (n.resolve query s).outcome = .error .unwound)
    (left : ¬(n.resolve query s).session.Idle) :
    (n.resolve query s).session.resolving = true ∧
      (((n.opening s).outcome = .error .unwound ∧
          (n.resolve query s).session.published = { s.published with isWorking := true }) ∨
        ((n.consult query s.published.config).outcome = .ok none ∧
          (n.closing query s).outcome = .error .unwound ∧
          (n.resolve query s).session.published = { s.published with isWorking := false })) := by
  have begun := n.opening_observed s
  cases opened : (n.opening s).outcome with
  | error ending =>
    obtain rfl := (n.survives_setWorking true _).eq_unwound opened
    rw [n.resolve_of_opening_error top opened]
    exact ⟨begun.resolving, .inl ⟨rfl, begun.published⟩⟩
  | ok =>
    cases closed : (n.closing query s).outcome with
    | ok => exact absurd ((n.idle_resolve_iff top).2 ⟨opened, closed⟩) left
    | error ending =>
      obtain rfl := (n.survives_setWorking false _).eq_unwound closed
      rw [n.resolve_of_closing_error top opened closed] at unwound ⊢
      cases done : (n.worked query s).outcome with
      | error ending =>
        -- Two crashes would have ended everything.
        rw [done] at unwound
        cases unwound
      | ok answer? =>
        obtain ⟨unanswered, published⟩ := n.unanswered_of_closing_error done closed
        exact ⟨n.resolving_closing s, .inr ⟨unanswered, rfl, published⟩⟩

end Navigator

/-! ## Queries one after the other -/

namespace Session

/-- Once the mark is left behind, all queries are refused. -/
theorem after_of_resolving (marked : s.resolving = true) (requests : List (Request σ)) :
    s.after requests = s := by
  induction requests with
  | nil => rfl
  | cons r rest ih =>
    rw [after, Navigator.resolve, r.navigator.resolveWithin_of_resolving _ r.query s marked]
    exact ih

/-- A session in which all is idle unless the mark is set. -/
def Settled (s : Session σ) : Prop := s.resolving = false → s.Idle

theorem Idle.settled (idle : s.Idle) : s.Settled := fun _ => idle

/-- The flag is never left behind without the mark. -/
theorem Settled.after (settled : s.Settled) (requests : List (Request σ)) :
    (s.after requests).Settled := by
  induction requests generalizing s with
  | nil => exact settled
  | cons r rest ih =>
    refine ih fun unmarked => ?_
    cases top : s.resolving with
    | true =>
      rw [Navigator.resolve, r.navigator.resolveWithin_of_resolving _ r.query s top] at unmarked
      cases top.symm.trans unmarked
    | false =>
      rcases r.navigator.idle_or_marked r.query top with idle | ⟨-, marked⟩
      · exact idle
      · cases marked.symm.trans unmarked

end Session

namespace Navigator

/-- Whatever crashes during a query at the top, all is idle after it if and only if no observer
    crashes at its beginning or at its end. This is so if it ends with an answer or without, and
    if the observers return; then not everything ends, either. A query which is unwound leaves the
    mark behind in two ways: an observer crashes when it is told that the work begins, and the
    flag stays set as well; or there is no answer, and an observer crashes when it is told that
    the work has ended, with the flag cleared.

    If the mark is left behind, all queries are refused from then on. If all is idle, the next one
    is not: if all who are called reply and the observers return, it ends with what its
    consultation comes to. -/
theorem resolve_releases (n : Navigator σ) (query : Query) (s : Session σ)
    (top : s.resolving = false) :
    let t := n.resolve query s
    (t.session.Idle ↔
      (n.opening s).outcome = .ok () ∧ (n.closing query s).outcome = .ok ()) ∧
    (∀ answer?, t.outcome = .ok answer? → t.session.Idle) ∧
    ((∀ o ∈ n.observers, Observer.Returns o) →
      t.session.Idle ∧ t.outcome ≠ .error .aborted) ∧
    (t.outcome = .error .unwound → ¬t.session.Idle →
      t.session.resolving = true ∧
        (((n.opening s).outcome = .error .unwound ∧
            t.session.published = { s.published with isWorking := true }) ∨
          ((n.consult query s.published.config).outcome = .ok none ∧
            (n.closing query s).outcome = .error .unwound ∧
            t.session.published = { s.published with isWorking := false }))) ∧
    (t.session.resolving = true → ∀ requests : List (Request σ),
      t.session.after requests = t.session ∧
        ∀ r ∈ requests, r.navigator.resolve r.query t.session = .result none t.session) ∧
    (t.session.Idle → ∀ (r : Request σ) (answer? : Option Answer), r.navigator.Attended →
      (r.navigator.consult r.query t.session.published.config).outcome = .ok answer? →
      (r.navigator.resolve r.query t.session).outcome = .ok answer?) := by
  intro t
  refine ⟨n.idle_resolve_iff top, fun answer? ended => ?_, n.idle_of_returns top,
    n.left_behind_cases top, fun marked requests => ⟨Session.after_of_resolving marked requests,
      fun r _ => r.navigator.resolveWithin_of_resolving _ r.query t.session marked⟩,
    fun idle r answer? attended => r.navigator.resolve_returns attended idle.unmarked⟩
  rcases n.idle_or_marked query top with idle | ⟨⟨ending, crashed⟩, -⟩
  · exact idle
  · cases ended.symm.trans crashed

/-- A castaway whose observer crashes when it is told of the flag as it is here. -/
def startled (flag : Bool) : Navigator Nat :=
  { castaway with observers := [fun _ p => if p.isWorking = flag then .crash else .done] }

/-- An observer who crashes when it is told of an answer leaves nothing behind, and the next query
    is answered. -/
theorem startled_releases :
    let s : Session Nat := { published := {}, vault := 0 }
    let t := (startled false).resolve { type := .cancel } s
    s.resolving = false ∧ t.outcome = .error .unwound ∧ t.session.Idle ∧
      ∃ answer, (castaway.resolve { type := .cancel } t.session).outcome = .ok (some answer) := by
  intro s t
  obtain ⟨idle, -, -, -, -, next⟩ := resolve_releases (startled false) { type := .cancel } s rfl
  have released : t.session.Idle := idle.2 ⟨rfl, rfl⟩
  exact ⟨rfl, rfl, released, _,
    next released ⟨castaway, { type := .cancel }⟩ _ castaway_attended rfl⟩

/-- An observer who crashes when it is told that the work begins leaves both the flag and the mark
    behind, and one who crashes when it is told that the work has ended without an answer leaves
    the mark, so that another navigator is refused an answer which it would have been given. -/
theorem mark_left_behind :
    let s : Session Nat := { published := {}, vault := 0 }
    let begun := (startled true).resolve { type := .cancel } s
    let ended := (startled false).resolve { type := .update } s
    s.Idle ∧
      begun.outcome = .error .unwound ∧ begun.session.published.isWorking = true ∧
      castaway.resolve { type := .cancel } begun.session = .result none begun.session ∧
      ended.outcome = .error .unwound ∧ ended.session.published.isWorking = false ∧
      castaway.resolve { type := .cancel } ended.session = .result none ended.session ∧
      (castaway.resolve { type := .cancel } s).outcome =
        .ok (some (.ofRoute .cancel {} 0)) :=
  ⟨⟨rfl, rfl⟩, rfl, rfl, rfl, rfl, rfl, rfl, rfl⟩

end Navigator

end Astrogation
