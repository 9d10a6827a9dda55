import Astrogation.Proofs.Navigator.Outcome

/-!
# What observers are told

A snapshot is *delivered* to observers if each in turn is given it, and reacts to it before
the next is: by reading the same snapshot back, and by asking queries which are refused
(`Delivery`). Any notification delivers the published state if the observers return
(`Navigator.notify_delivers`), and nothing else comes of it.

* A query delivers two snapshots, the first when the work begins, with the flag set, and
  the second when it has ended: the state which is published then (`resolve_delivers`).
  In between the atlas may be asked and the configuration may be saved.
* What observers ask meanwhile might as well never have been asked: that they may ask at all
  makes no difference to a query (`resolveWithin_succ`).

After a query all is *idle* again (`Session.Idle`), and so every query of a sequence tells
each observer exactly two snapshots (`Session.told_twice`).
-/

namespace Astrogation

variable {σ α β : Type} {ask ask' : Asking σ} {s t : Session σ} {p : Snapshot}

/-! ## Reactions which return -/

/-- A reaction which returns, if the state that it reads back is `p` and the queries that it
    asks are refused. -/
inductive Reaction.Returns (p : Snapshot) : Reaction → Prop
  | done : Returns p .done
  | readBack {next : Snapshot → Reaction} : (next p).Returns p → Returns p (.readBack next)
  | ask {query : Query} {next : Option Answer → Reaction} :
      (next none).Returns p → Returns p (.ask query next)

/-- An observer which returns, whatever snapshot it is given, if it reads the same one back
    and may not ask queries. -/
def Observer.Returns (observer : Observer) : Prop := ∀ past p, (observer past p).Returns p

/-- What never crashes returns. -/
theorem Reaction.Calm.returns {r : Reaction} (h : r.Calm) (p : Snapshot) : r.Returns p := by
  induction h with
  | done => exact .done
  | readBack _ ih => exact .readBack (ih p)
  | ask _ ih => exact .ask (ih none)

/-! ## Deliveries -/

namespace Entry

/-- The observer whom an entry is about. -/
def observer? : Entry → Option Nat
  | notified observer _ | readBack observer _ | asked observer _ _ => some observer
  | _ => none

/-- The snapshot that an entry records as given to an observer. -/
def given? (observer : Nat) : Entry → Option Snapshot
  | notified number snapshot => if number = observer then some snapshot else none
  | _ => none

/-- Whether an entry records how an observer reacts to a snapshot `p`: it reads it back, or
    it asks a query and is refused. -/
def Reacts (observer : Nat) (p : Snapshot) : Entry → Prop
  | readBack number q => number = observer ∧ q = p
  | asked number _ answer => number = observer ∧ answer = none
  | _ => False

theorem Reacts.given? {observer : Nat} {e : Entry} (h : e.Reacts observer p) (number : Nat) :
    e.given? number = none := by
  cases e with
  | notified => exact h.elim
  | _ => rfl

theorem given?_of_observer?_eq_none {e : Entry} (h : e.observer? = none) (observer : Nat) :
    e.given? observer = none := by
  cases e with
  | notified => cases h
  | _ => rfl

end Entry

/-- The snapshots which entries record as given to an observer. -/
def givenTo (observer : Nat) (entries : List Entry) : List Snapshot :=
  entries.filterMap (Entry.given? observer)

theorem givenTo_append (observer : Nat) (es fs : List Entry) :
    givenTo observer (es ++ fs) = givenTo observer es ++ givenTo observer fs :=
  List.filterMap_append

theorem givenTo_eq_nil {observer : Nat} {es : List Entry} (h : ∀ e ∈ es, e.given? observer = none) :
    givenTo observer es = [] :=
  List.filterMap_eq_nil_iff.2 h

/-- What is recorded when a snapshot is delivered to the observers from the number `first` to
    the one before `last`. -/
inductive Delivery (p : Snapshot) : (first last : Nat) → List Entry → Prop
  | nobody (number : Nat) : Delivery p number number []
  | next {number last : Nat} {reactions rest : List Entry}
      (reacts : ∀ e ∈ reactions, e.Reacts number p) (others : Delivery p (number + 1) last rest) :
      Delivery p number last (.notified number p :: (reactions ++ rest))

theorem Delivery.le {first last : Nat} {es : List Entry} (h : Delivery p first last es) :
    first ≤ last := by
  induction h with
  | nobody number => exact Nat.le_refl number
  | next _ _ ih => exact Nat.le_of_succ_le ih

/-- Each observer is given the snapshot once. -/
theorem Delivery.givenTo_eq {first last : Nat} {es : List Entry} (h : Delivery p first last es)
    (observer : Nat) :
    givenTo observer es = if first ≤ observer ∧ observer < last then [p] else [] := by
  induction h with
  | nobody number =>
    rw [if_neg fun between => Nat.not_lt.2 between.1 between.2]
    rfl
  | @next number last reactions rest reacts others ih =>
    have begins := others.le
    have silent : givenTo observer reactions = [] :=
      givenTo_eq_nil fun e he => (reacts e he).given? observer
    rw [← List.singleton_append, givenTo_append, givenTo_append, silent, ih, List.nil_append]
    by_cases self : number = observer
    · -- The observer is told now, and not again.
      subst self
      rw [if_neg (by omega), if_pos (by omega), List.append_nil]
      exact List.filterMap_cons_some (if_pos rfl)
    · have other : givenTo observer [.notified number p] = [] :=
        givenTo_eq_nil fun e he => List.mem_singleton.1 he ▸ if_neg self
      have later : number + 1 ≤ observer ∧ observer < last ↔
          number ≤ observer ∧ observer < last := by omega
      rw [other, List.nil_append]
      simp only [later]

/-! ## Entries added to the journal -/

namespace Session

/-- The session with more entries in its journal. -/
def record (s : Session σ) (entries : List Entry) : Session σ :=
  { s with journal := s.journal ++ entries }

theorem record_nil (s : Session σ) : s.record [] = s := by
  rw [record, List.append_nil]

theorem record_record (s : Session σ) (es fs : List Entry) :
    (s.record es).record fs = s.record (es ++ fs) := by
  rw [record, record, record, List.append_assoc]

theorem record_note (s : Session σ) (e : Entry) (es : List Entry) :
    (s.note e).record es = s.record (e :: es) :=
  s.record_record [e] es

end Session

/-! ## Notifications -/

/-- A reaction which returns leaves nothing but its entries in the journal. -/
theorem Reaction.Returns.perform (refuses : ask.Refuses) (observer : Nat) {r : Reaction}
    (returns : r.Returns p) (working : s.resolving = true) (hp : s.published = p) :
    ∃ entries, (∀ e ∈ entries, e.Reacts observer p) ∧
      r.perform ask observer s = .result () (s.record entries) := by
  -- Neither the mark nor the published state changes on the way, so the same is read back and
  -- all queries are refused at every node of the reaction.
  induction returns generalizing s with
  | done => exact ⟨[], List.forall_mem_nil _, by rw [s.record_nil]; rfl⟩
  | readBack _ ih =>
    obtain ⟨entries, reacts, performed⟩ := ih (s := s.note (.readBack observer p)) working hp
    refine ⟨.readBack observer p :: entries, List.forall_mem_cons.2 ⟨⟨rfl, rfl⟩, reacts⟩, ?_⟩
    rw [Reaction.perform, hp, performed, s.record_note]
  | @ask query next _ ih =>
    obtain ⟨entries, reacts, performed⟩ := ih (s := s.note (.asked observer query none)) working hp
    refine ⟨.asked observer query none :: entries,
      List.forall_mem_cons.2 ⟨⟨rfl, rfl⟩, reacts⟩, ?_⟩
    rw [Reaction.perform, refuses query s working, Turn.andThen_result, performed, s.record_note]

theorem notifyFrom_delivers (refuses : ask.Refuses) {observers : List Observer}
    (returns : ∀ o ∈ observers, Observer.Returns o) (number : Nat) (working : s.resolving = true)
    (hp : s.published = p) :
    ∃ entries, Delivery p number (number + observers.length) entries ∧
      notifyFrom ask p number observers s = .result () (s.record entries) := by
  induction observers generalizing s number with
  | nil => exact ⟨[], .nobody number, by rw [s.record_nil]; rfl⟩
  | cons observer rest ih =>
    obtain ⟨reactions, reacts, performed⟩ :=
      (returns observer List.mem_cons_self s.journal p).perform refuses number
        (s := s.note (.notified number p)) working hp
    obtain ⟨others, delivered, notified⟩ :=
      ih (fun o ho => returns o (List.mem_cons_of_mem _ ho)) (number + 1)
        (s := (s.note (.notified number p)).record reactions) working hp
    refine ⟨.notified number p :: (reactions ++ others), .next reacts ?_, ?_⟩
    · rwa [Nat.add_assoc, Nat.add_comm 1] at delivered
    · rw [notifyFrom, performed, Turn.andThen_result, notified, s.record_note, s.record_record]
      rfl

namespace Navigator

variable (n : Navigator σ) {query : Query} {answer : Answer}

/-- A notification delivers the published state to all observers, if they return. -/
theorem notify_delivers (refuses : ask.Refuses) (returns : ∀ o ∈ n.observers, Observer.Returns o)
    (working : s.resolving = true) :
    ∃ entries, Delivery s.published 0 n.observers.length entries ∧
      n.notify ask s = .result () (s.record entries) := by
  obtain ⟨entries, delivered, notified⟩ := notifyFrom_delivers refuses returns 0 working rfl
  exact ⟨entries, Nat.zero_add n.observers.length ▸ delivered, notified⟩

theorem setWorking_same (flag : Bool) (h : s.published.isWorking = flag) :
    n.setWorking ask flag s = .result () s := by
  rw [setWorking, if_pos (beq_iff_eq.2 h)]

/-- Setting the flag delivers the state in which it is set, if it was not. -/
theorem setWorking_delivers (refuses : ask.Refuses)
    (returns : ∀ o ∈ n.observers, Observer.Returns o) (working : s.resolving = true) (flag : Bool)
    (h : s.published.isWorking ≠ flag) :
    ∃ entries, Delivery { s.published with isWorking := flag } 0 n.observers.length entries ∧
      n.setWorking ask flag s = .result () ((s.flagged flag).record entries) := by
  rw [setWorking, if_neg fun same => h (beq_iff_eq.1 same)]
  exact n.notify_delivers (s := s.flagged flag) refuses returns working

end Navigator

/-! ## Queries which are asked in between -/

theorem Turn.andThen_congr {x : Turn σ α} {next next' : α → Session σ → Turn σ β}
    (h : ∀ value, next value x.session = next' value x.session) :
    x.andThen next = x.andThen next' := by
  rw [andThen, andThen]
  split
  · exact h _
  · rfl

theorem Turn.session_ofCall (call : Call α) (s : Session σ) : (ofCall call s).session = s := by
  cases call with
  | reply => rfl
  | crash => rfl

/-- It makes no difference by which way queries are asked, if either refuses them. -/
theorem Reaction.perform_congr (refuses : ask.Refuses) (refuses' : ask'.Refuses) (observer : Nat)
    (r : Reaction) (working : s.resolving = true) :
    r.perform ask observer s = r.perform ask' observer s := by
  induction r generalizing s with
  | done => rfl
  | crash => rfl
  | readBack next ih =>
    rw [perform, perform]
    exact ih _ working
  | ask query next ih =>
    rw [perform, perform, refuses query s working, refuses' query s working]
    exact ih none working

theorem notifyFrom_congr (refuses : ask.Refuses) (refuses' : ask'.Refuses)
    (observers : List Observer) (number : Nat) (working : s.resolving = true) :
    notifyFrom ask p number observers s = notifyFrom ask' p number observers s := by
  induction observers generalizing s number with
  | nil => rfl
  | cons observer rest ih =>
    have heard := Reaction.perform_observed refuses' number (observer s.journal p)
      (s := s.note (.notified number p)) working
    have same := Reaction.perform_congr refuses refuses' number (observer s.journal p)
      (s := s.note (.notified number p)) working
    rw [notifyFrom, notifyFrom, same]
    exact Turn.andThen_congr fun _ => ih (number + 1) (heard.resolving.trans working)

namespace Navigator

variable (n : Navigator σ) {query : Query} {answer : Answer}

theorem setWorking_congr (refuses : ask.Refuses) (refuses' : ask'.Refuses) (flag : Bool)
    (working : s.resolving = true) : n.setWorking ask flag s = n.setWorking ask' flag s := by
  rw [setWorking, setWorking]
  split
  · rfl
  · exact notifyFrom_congr refuses refuses' n.observers 0 working

theorem publish_congr (refuses : ask.Refuses) (refuses' : ask'.Refuses) (query : Query)
    (answer : Answer) (working : s.resolving = true) :
    n.publish ask query answer s = n.publish ask' query answer s := by
  rw [publish, publish]
  refine Turn.andThen_congr fun _ => Turn.andThen_congr fun system =>
    Turn.andThen_congr fun station => notifyFrom_congr refuses refuses' n.observers 0 ?_
  rw [Turn.session_ofCall, Turn.session_ofCall, session_save]
  exact working

theorem work_congr (refuses : ask.Refuses) (refuses' : ask'.Refuses) (query : Query)
    (working : s.resolving = true) : n.work ask query s = n.work ask' query s := by
  cases consulted : (n.consult query s.published.config).outcome with
  | error breakdown => rw [n.work_of_error consulted, n.work_of_error consulted]
  | ok answer? =>
    cases answer? with
    | none => rw [n.work_of_none consulted, n.work_of_none consulted]
    | some answer =>
      have same := n.publish_congr refuses refuses' query answer
        (s := n.afterConsult query s) working
      rw [n.work_of_some consulted, n.work_of_some consulted, same]

theorem release_congr (refuses : ask.Refuses) (refuses' : ask'.Refuses)
    {t : Turn σ (Option Answer)} (working : t.session.resolving = true) :
    n.release ask t = n.release ask' t := by
  rw [release, release, n.setWorking_congr refuses refuses' false working]

/-- How deeply observers may ask queries within each other does not matter. -/
theorem resolveWithin_succ (depth : Nat) (query : Query) (s : Session σ) :
    n.resolveWithin (depth + 1) query s = n.resolveWithin 1 query s := by
  have refuses := n.refuses_resolveWithin depth
  have refuses' := n.refuses_resolveWithin 0
  have begun := n.setWorking_observed refuses' true (s := { s with resolving := true }) rfl
  have flagging := n.setWorking_congr refuses refuses' true (s := { s with resolving := true }) rfl
  rw [resolveWithin, resolveWithin]
  split
  · rfl
  · -- Whatever is asked from here on is refused, whichever way it is asked.
    dsimp only
    rw [flagging]
    refine Turn.andThen_congr fun _ => ?_
    have working := (n.work_cases refuses' query begun.resolving).1
    rw [n.work_congr refuses refuses' query begun.resolving,
      n.release_congr refuses refuses' working]

end Navigator

/-! ## Queries one after the other -/

/-- A session in which no query is being worked on. -/
structure Session.Idle (s : Session σ) : Prop where
  unmarked : s.resolving = false
  unflagged : s.published.isWorking = false

theorem Session.idle_start {store : ConfigStore σ} {vault : σ}
    (h : Session.start store vault = .ok s) : s.Idle := by
  rw [start] at h
  cases loaded : store.load vault with
  | error fault =>
    rw [loaded] at h
    cases h
  | ok config =>
    rw [loaded] at h
    cases h
    exact ⟨rfl, rfl⟩

namespace Navigator

/-- A navigator whose collaborators reply and whose observers return. -/
structure Attended (n : Navigator σ) : Prop where
  others : n.Responsive
  store : n.store.Responsive
  observers : ∀ o ∈ n.observers, Observer.Returns o

variable (n : Navigator σ) {query : Query} {answer : Answer}

/-- What a query at the top tells the observers: at first that the work has begun, on the
    state as it was, and in the end the state as it is then. In between they are told
    nothing. -/
structure Tells (before after : Session σ) (first between last : List Entry) : Prop where
  journal : after.journal = before.journal ++ (first ++ between ++ last)
  begins : Delivery { before.published with isWorking := true } 0 n.observers.length first
  unheard : ∀ e ∈ between, e.observer? = none
  ends : Delivery after.published 0 n.observers.length last
  idle : after.Idle

/-- Each observer is told two snapshots. -/
theorem Tells.givenTo_eq {before after : Session σ} {first between last : List Entry}
    (h : n.Tells before after first between last) (observer : Nat) :
    givenTo observer (first ++ between ++ last) =
      if observer < n.observers.length then
        [{ before.published with isWorking := true }, after.published] else [] := by
  have silent : givenTo observer between = [] :=
    givenTo_eq_nil fun e he => Entry.given?_of_observer?_eq_none (h.unheard e he) observer
  rw [givenTo_append, givenTo_append, h.begins.givenTo_eq, silent, h.ends.givenTo_eq]
  simp only [Nat.zero_le, true_and]
  split
  · rfl
  · rfl

theorem release_result {u : Session σ} (answer? : Option Answer)
    (cleared : n.setWorking ask false s = .result () u) :
    n.release ask (.result answer? s) = .result answer? { u with resolving := false } := by
  rw [release, Turn.result]
  dsimp only
  rw [cleared]
  rfl

/-- A query at the top does end, and tells the observers what it should. -/
theorem resolve_delivers (attended : n.Attended) (idle : s.Idle) (query : Query) :
    ∃ answer? after first between last, n.resolve query s = .result answer? after ∧
      n.Tells s after first between last := by
  obtain ⟨ask, refuses, resolved⟩ := n.resolve_of_top query idle.unmarked
  obtain ⟨first, begins, begun⟩ := n.setWorking_delivers refuses attended.observers
    (s := { s with resolving := true }) rfl true (by rw [idle.unflagged]; decide)
  let b := ({ s with resolving := true }.flagged true).record first
  obtain ⟨answer?, consulted⟩ := n.consult_responsive attended.others query b.published.config
  let inquiries := (n.consult query b.published.config).inquiries.map Entry.inquired
  have unheard : ∀ e ∈ inquiries, e.observer? = none := by
    intro e he
    obtain ⟨inquiry, -, rfl⟩ := List.mem_map.1 he
    rfl
  rw [resolved, begun, Turn.andThen_result]
  cases answer? with
  | none =>
    -- The flag is still set, and the observers are told when it is cleared.
    obtain ⟨last, ends, cleared⟩ := n.setWorking_delivers refuses attended.observers
      (s := n.afterConsult query b) rfl false Bool.noConfusion
    rw [n.work_of_none consulted, n.release_result none cleared]
    refine ⟨none, _, first, inquiries, last, rfl, ?_, begins, unheard, ends, rfl, rfl⟩
    show s.journal ++ first ++ inquiries ++ last = _
    simp only [List.append_assoc]
  | some answer =>
    -- The publication clears the flag, and then it is already as it should be.
    obtain ⟨system, station, announced⟩ := n.publish_announces ask query answer
      (n.afterConsult query b) (attended.store _ _) attended.others.looksUp
    let shown := n.announced query answer system station (n.afterConsult query b)
    obtain ⟨last, ends, told⟩ := n.notify_delivers (s := shown) refuses attended.observers rfl
    have cleared : n.setWorking ask false (shown.record last) = .result () (shown.record last) :=
      n.setWorking_same false rfl
    rw [n.work_of_some consulted, announced, told, Turn.andThen_result,
      n.release_result (some answer) cleared]
    refine ⟨some answer, _, first, inquiries ++ [.saved shown.published.config], last, rfl, ?_,
      begins, ?_, ends, rfl, rfl⟩
    · show s.journal ++ first ++ inquiries ++ [.saved shown.published.config] ++ last = _
      simp only [List.append_assoc]
    · exact List.forall_mem_append.2 ⟨unheard, fun e he => List.mem_singleton.1 he ▸ rfl⟩

end Navigator

/-- A query, and the navigator which is asked. -/
structure Request (σ : Type) where
  navigator : Navigator σ
  query : Query

namespace Session

/-- The session after requests have been made one after the other. -/
def after : Session σ → List (Request σ) → Session σ
  | s, [] => s
  | s, r :: rest => (r.navigator.resolve r.query s).session.after rest

/-- Nothing is being worked on when the requests have been served. -/
theorem Idle.after {requests : List (Request σ)} (idle : s.Idle)
    (attended : ∀ r ∈ requests, r.navigator.Attended) : (s.after requests).Idle := by
  induction requests generalizing s with
  | nil => exact idle
  | cons r rest ih =>
    obtain ⟨answer?, after, first, between, last, resolved, tells⟩ :=
      r.navigator.resolve_delivers (attended r List.mem_cons_self) idle r.query
    rw [Session.after, resolved]
    exact ih tells.idle fun r' hr' => attended r' (List.mem_cons_of_mem r hr')

/-- If all who are called reply, be it with a fault, and the observers return, then every
    query of a sequence ends, whatever the resolvers do, and each observer is told two
    snapshots: at first the state from before with the flag set, and in the end the state
    which is published then, with the flag cleared. When it is told, it reads the same
    snapshot back, and what it asks is refused, and of that nothing comes but an entry in the
    journal: the query is as if none could ever be asked within another. -/
theorem told_twice (s : Session σ) (idle : s.Idle) (earlier : List (Request σ))
    (last : Request σ) (attended : ∀ r ∈ last :: earlier, r.navigator.Attended) :
    let n := last.navigator
    let before := s.after earlier
    ∃ answer? after begins between ends,
      n.resolve last.query before = .result answer? after ∧
      n.Tells before after begins between ends ∧
      (∀ observer, givenTo observer (begins ++ between ++ ends) =
        if observer < n.observers.length then
          [{ before.published with isWorking := true }, after.published] else []) ∧
      before.published.isWorking = false ∧ after.published.isWorking = false ∧
      n.resolve last.query before = n.resolveWithin 1 last.query before ∧
      ∀ query t, n.resolveWithin 0 query t = .result none t := by
  intro n before
  have idle : before.Idle := idle.after fun r hr => attended r (List.mem_cons_of_mem last hr)
  obtain ⟨answer?, after, begins, between, ends, resolved, tells⟩ :=
    n.resolve_delivers (attended last List.mem_cons_self) idle last.query
  exact ⟨answer?, after, begins, between, ends, resolved, tells, tells.givenTo_eq,
    idle.unflagged, tells.idle.unflagged, n.resolveWithin_succ 7 last.query before,
    fun _ _ => rfl⟩

end Session

namespace Navigator

theorem castaway_attended : castaway.Attended where
  others := castaway_responsive
  store _ _ := ⟨.error .file, rfl⟩
  observers o ho past p := (castaway_calm o ho past p).returns p

/-- After cancelling, a castaway asks to update the route in vain, and the observer is told
    of it twice. -/
theorem castaway_told_twice :
    let s : Session Nat := { published := {}, vault := 0 }
    let before := s.after [⟨castaway, { type := .cancel }⟩]
    s.Idle ∧ castaway.Attended ∧
      ∃ after begins between ends,
        castaway.resolve { type := .update } before = .result none after ∧
        castaway.Tells before after begins between ends ∧
        givenTo 0 (begins ++ between ++ ends) =
          [{ before.published with isWorking := true }, after.published] := by
  intro s before
  have idle : s.Idle := Session.idle_start (rfl : Session.start fullStore 0 = .ok s)
  have attended : ∀ r ∈ ([⟨castaway, { type := .update }⟩, ⟨castaway, { type := .cancel }⟩] :
      List (Request Nat)), r.navigator.Attended := by
    intro r hr
    rcases List.mem_cons.1 hr with rfl | hr
    · exact castaway_attended
    · exact List.mem_singleton.1 hr ▸ castaway_attended
  obtain ⟨answer?, after, begins, between, ends, resolved, tells, given, -⟩ :=
    Session.told_twice s idle [⟨castaway, { type := .cancel }⟩]
      ⟨castaway, { type := .update }⟩ attended
  obtain rfl : none = answer? := Except.ok.inj (congrArg Turn.outcome resolved)
  exact ⟨idle, castaway_attended, after, begins, between, ends, resolved, tells, given 0⟩

end Navigator

end Astrogation
