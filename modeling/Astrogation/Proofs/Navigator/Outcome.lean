import Astrogation.Atlas.Table
import Astrogation.Proofs.Navigator.Observed

/-!
# What a query makes of a session

A query which is asked while no other is being worked on ends in one of three
ways (`resolve_cases`): it is not answered, and nothing but the journal has
changed; it is answered, and the answer is published (`Navigator.Publication`);
or something crashed, and the configuration is the one from before or the one
that the answer would have been published with.

If all who are called reply and no observer crashes, it does end without a crash,
and the result is what the consultation has come to (`resolve_calm`). Hence a
query is answered as a whole or not at all (`resolve_all_or_nothing`).
-/

namespace Astrogation

variable {σ : Type}

/-- Those who are called outside of a resolver reply. (What crashes inside of one
    only breaks the resolver down.) -/
structure Navigator.Responsive (n : Navigator σ) : Prop where
  system : n.traveller.system.Replies
  carrier : n.traveller.carrier.Replies
  missions : n.traveller.missions.Replies
  systemNamed : ∀ name, (n.atlas.systemNamed name).Replies
  systemAt : ∀ address, (n.atlas.systemAt address).Replies
  stationOf : ∀ market, (n.atlas.stationOf market).Replies

/-- The look-ups of systems and stations reply that an answer leads to. -/
structure Navigator.LooksUp (n : Navigator σ) : Prop where
  systemAt : ∀ address, (n.atlas.systemAt address).Replies
  stationOf : ∀ market, (n.atlas.stationOf market).Replies

theorem Navigator.Responsive.looksUp {n : Navigator σ} (h : n.Responsive) : n.LooksUp :=
  ⟨h.systemAt, h.stationOf⟩

/-- Saving replies, be it with a fault. -/
def ConfigStore.Responsive (store : ConfigStore σ) : Prop :=
  ∀ config vault, (store.save config vault).1.Replies

namespace Navigator

variable (n : Navigator σ) {ask : Asking σ} {query : Query} {answer : Answer} {s : Session σ}

/-- `t` is `s` after an answer to a query has been published. -/
structure Publication (query : Query) (answer : Answer) (s t : Session σ) : Prop where
  consulted : (n.consult query s.published.config).outcome = .ok (some answer)
  config : t.published.config = s.published.config.remember query answer.route
  searchSystem : n.searchSystem answer = .reply t.published.searchSystem
  searchStation : n.searchStation t.published.searchSystem answer = .reply t.published.searchStation
  idle : t.published.isWorking = false
  saves : t.saves = s.saves ++ [t.published.config]
  vault : t.vault = (n.store.save t.published.config s.vault).2

/-! ## Saving and publishing -/

/-- The session after a configuration has been given to the store. -/
def afterSave (config : Config) (s : Session σ) : Session σ :=
  { s with vault := (n.store.save config s.vault).2 }.note (.saved config)

theorem session_save (config : Config) : (n.save config s).session = n.afterSave config s := by
  unfold save afterSave
  rcases n.store.save config s.vault with ⟨_ | _, vault⟩ <;> rfl

theorem outcome_save (config : Config) :
    (n.save config s).outcome = .ok () ∨ (n.save config s).outcome = .error .unwound := by
  unfold save
  rcases n.store.save config s.vault with ⟨_ | _, vault⟩
  · exact .inl rfl
  · exact .inr rfl

theorem outcome_save_of_replies {config : Config}
    (h : (n.store.save config s.vault).1.Replies) : (n.save config s).outcome = .ok () := by
  obtain ⟨value, hv⟩ := h
  unfold save
  rcases hsave : n.store.save config s.vault with ⟨call, vault⟩
  rw [hsave] at hv
  subst hv
  rfl

/-- The session that observers are shown when an answer is published. -/
def announced (query : Query) (answer : Answer) (searchSystem : Option Waypoint)
    (searchStation : Option Station) (s : Session σ) : Session σ :=
  let config := s.published.config.remember query answer.route
  { n.afterSave config s with published := { config, searchSystem, searchStation } }

/-- An answer is shown to the observers once it is saved and its search fields are
    known, and if something crashes before, the published state stays. -/
theorem publish_cases (ask : Asking σ) (query : Query) (answer : Answer) (s : Session σ) :
    (∃ system station, n.searchSystem answer = .reply system ∧
      n.searchStation system answer = .reply station ∧
      n.publish ask query answer s = n.notify ask (n.announced query answer system station s)) ∨
    n.publish ask query answer s =
      .unwound (n.afterSave (s.published.config.remember query answer.route) s) := by
  rw [publish]
  rcases n.outcome_save (s := s) (s.published.config.remember query answer.route) with
    saved | crashed
  · rw [Turn.andThen_of_ok saved, session_save]
    cases hsystem : n.searchSystem answer with
    | crash => exact .inr rfl
    | reply system =>
      rw [Turn.ofCall_reply, Turn.andThen_result]
      cases hstation : n.searchStation system answer with
      | crash => exact .inr rfl
      | reply station => exact .inl ⟨system, station, rfl, hstation, rfl⟩
  · rw [Turn.andThen_of_error crashed, session_save]
    exact .inr rfl

theorem searchSystem_replies (looks : n.LooksUp) (answer : Answer) :
    (n.searchSystem answer).Replies := by
  rw [searchSystem]
  split
  · split
    · exact ⟨none, rfl⟩
    · exact looks.systemAt _
  · exact ⟨none, rfl⟩

theorem searchStation_replies (looks : n.LooksUp) (system : Option Waypoint)
    (answer : Answer) : (n.searchStation system answer).Replies := by
  rw [searchStation.eq_def]
  split
  · split
    · exact ⟨none, rfl⟩
    · exact looks.stationOf _
  · exact ⟨none, rfl⟩

theorem publish_of_replies (ask : Asking σ) {system : Option Waypoint} {station : Option Station}
    (saves : (n.store.save (s.published.config.remember query answer.route) s.vault).1.Replies)
    (hsystem : n.searchSystem answer = .reply system)
    (hstation : n.searchStation system answer = .reply station) :
    n.publish ask query answer s = n.notify ask (n.announced query answer system station s) := by
  rw [publish, Turn.andThen_of_ok (n.outcome_save_of_replies saves), session_save, hsystem,
    Turn.ofCall_reply, Turn.andThen_result, hstation, Turn.ofCall_reply, Turn.andThen_result]
  rfl

/-- If all who are called reply, an answer is shown to the observers. -/
theorem publish_announces (ask : Asking σ) (query : Query) (answer : Answer) (s : Session σ)
    (saves : (n.store.save (s.published.config.remember query answer.route) s.vault).1.Replies)
    (looks : n.LooksUp) :
    ∃ system station,
      n.publish ask query answer s = n.notify ask (n.announced query answer system station s) := by
  obtain ⟨system, hsystem⟩ := n.searchSystem_replies looks answer
  obtain ⟨station, hstation⟩ := n.searchStation_replies looks system answer
  exact ⟨system, station, n.publish_of_replies ask saves hsystem hstation⟩

theorem publish_calm (query : Query) (answer : Answer) (refuses : ask.Refuses)
    (store : n.store.Responsive) (others : n.Responsive)
    (calm : ∀ o ∈ n.observers, Observer.Calm o) (working : s.resolving = true) :
    (n.publish ask query answer s).outcome = .ok () := by
  obtain ⟨system, station, announced⟩ := n.publish_announces ask query answer s (store _ _)
    others.looksUp
  rw [announced]
  exact n.notify_calm refuses calm working

/-! ## Working -/

/-- What a query may make of the configuration: nothing, or what is remembered of
    an answer that the consultation has come to. -/
def Evolves (query : Query) (c c' : Config) : Prop :=
  c' = c ∨ ∃ answer, (n.consult query c).outcome = .ok (some answer) ∧
    c' = c.remember query answer.route

/-- A session in which an answer has been announced and observed has it published. -/
theorem publication_of_observed {t : Session σ} {system : Option Waypoint}
    {station : Option Station}
    (consulted : (n.consult query s.published.config).outcome = .ok (some answer))
    (hsystem : n.searchSystem answer = .reply system)
    (hstation : n.searchStation system answer = .reply station)
    (h : (n.announced query answer system station s).Observed t) :
    n.Publication query answer s t where
  consulted := consulted
  config := by rw [h.published]; rfl
  searchSystem := by rw [h.published]; exact hsystem
  searchStation := by rw [h.published]; exact hstation
  idle := by rw [h.published]; rfl
  saves := by
    rw [h.saves, h.published]
    exact Session.saves_note _ _
  vault := by rw [h.vault, h.published]; rfl

/-- What precedes a publication matters only for the configuration and the store. -/
theorem Publication.of_eq {s' t : Session σ} (h : n.Publication query answer s' t)
    (config : s'.published.config = s.published.config) (vault : s'.vault = s.vault)
    (saves : s'.saves = s.saves) : n.Publication query answer s t where
  consulted := config ▸ h.consulted
  config := config ▸ h.config
  searchSystem := h.searchSystem
  searchStation := h.searchStation
  idle := h.idle
  saves := saves ▸ h.saves
  vault := vault ▸ h.vault

/-- An answer stays published when the flag and the mark are released. -/
theorem Publication.released {t u : Session σ} (h : n.Publication query answer s t)
    (cleared : (t.flagged false).Observed u) :
    n.Publication query answer s { u with resolving := false } := by
  have same : u.published = t.published := by
    rw [cleared.published, Session.published_flagged, ← h.idle]
  exact
    { consulted := h.consulted
      config := same ▸ h.config
      searchSystem := same ▸ h.searchSystem
      searchStation := same ▸ h.searchStation
      idle := same ▸ h.idle
      saves := same ▸ cleared.saves.trans h.saves
      vault := same ▸ cleared.vault.trans h.vault }

/-- The session after a query has been consulted about. -/
def afterConsult (query : Query) (s : Session σ) : Session σ :=
  s.noteAll (n.consult query s.published.config).inquiries

theorem kept_afterConsult (query : Query) (s : Session σ) : s.Kept (n.afterConsult query s) :=
  .noteAll s _

theorem work_of_error {breakdown : Breakdown}
    (h : (n.consult query s.published.config).outcome = .error breakdown) :
    n.work ask query s = .unwound (n.afterConsult query s) := by
  rw [work, h]
  rfl

theorem work_of_none (h : (n.consult query s.published.config).outcome = .ok none) :
    n.work ask query s = .result none (n.afterConsult query s) := by
  rw [work, h]
  rfl

theorem work_of_some (h : (n.consult query s.published.config).outcome = .ok (some answer)) :
    n.work ask query s = (n.publish ask query answer (n.afterConsult query s)).andThen
      fun _ s => .result (some answer) s := by
  rw [work, h]
  rfl

/-- The work on a query: it is not answered and nothing has changed, or its answer
    is published, or something crashes. -/
theorem work_cases (refuses : ask.Refuses) (query : Query) (working : s.resolving = true) :
    (n.work ask query s).session.resolving = true ∧
      (((n.work ask query s).outcome = .ok none ∧ s.Kept (n.work ask query s).session) ∨
        (∃ answer, (n.work ask query s).outcome = .ok (some answer) ∧
          n.Publication query answer s (n.work ask query s).session) ∨
        (∃ ending, (n.work ask query s).outcome = .error ending ∧
          n.Evolves query s.published.config (n.work ask query s).session.published.config)) := by
  have kept := n.kept_afterConsult query s
  cases consulted : (n.consult query s.published.config).outcome with
  | error breakdown =>
    rw [n.work_of_error consulted]
    exact ⟨working, .inr (.inr ⟨_, rfl, .inl rfl⟩)⟩
  | ok answer? =>
    cases answer? with
    | none =>
      rw [n.work_of_none consulted]
      exact ⟨working, .inl ⟨rfl, kept⟩⟩
    | some answer =>
      rw [n.work_of_some consulted]
      rcases n.publish_cases ask query answer (n.afterConsult query s) with
        ⟨system, station, hsystem, hstation, announced⟩ | crashed
      · -- The answer is published before the observers are told, so it stays published
        -- even if one of them crashes.
        have heard := n.notify_observed refuses
          (s := n.announced query answer system station (n.afterConsult query s)) working
        rw [← announced] at heard
        have published := (n.publication_of_observed (s := n.afterConsult query s) consulted hsystem
          hstation heard).of_eq n (s := s) rfl rfl kept.saves
        have resolving := heard.resolving.trans working
        cases ended : (n.publish ask query answer (n.afterConsult query s)).outcome with
        | ok =>
          rw [Turn.andThen_of_ok ended]
          exact ⟨resolving, .inr (.inl ⟨answer, rfl, published⟩)⟩
        | error ending =>
          rw [Turn.andThen_of_error ended]
          exact ⟨resolving, .inr (.inr ⟨ending, rfl, .inr ⟨answer, consulted, published.config⟩⟩)⟩
      · rw [crashed, Turn.andThen_unwound]
        exact ⟨working, .inr (.inr ⟨_, rfl, .inl rfl⟩)⟩

theorem evolves_work (refuses : ask.Refuses) (query : Query) (working : s.resolving = true) :
    n.Evolves query s.published.config (n.work ask query s).session.published.config := by
  obtain ⟨-, ⟨-, kept⟩ | ⟨answer, -, published⟩ | ⟨-, -, evolves⟩⟩ :=
    n.work_cases refuses query working
  · exact .inl (by rw [kept.published])
  · exact .inr ⟨answer, published.consulted, published.config⟩
  · exact evolves

/-- If nobody crashes, the work on a query comes to what the consultation comes to. -/
theorem work_calm (refuses : ask.Refuses) (store : n.store.Responsive) (others : n.Responsive)
    (calm : ∀ o ∈ n.observers, Observer.Calm o) (working : s.resolving = true)
    {answer? : Option Answer}
    (consulted : (n.consult query s.published.config).outcome = .ok answer?) :
    (n.work ask query s).outcome = .ok answer? := by
  cases answer? with
  | none => rw [n.work_of_none consulted]; rfl
  | some answer =>
    have published := n.publish_calm query answer refuses store others calm
      (s := n.afterConsult query s) working
    rw [n.work_of_some consulted, Turn.andThen_of_ok published]
    rfl

/-! ## Beginning and end -/

/-- The end of the work clears the flag, and the mark unless something crashed, and
    keeps a result that there is. -/
theorem release_cases (refuses : ask.Refuses) {t : Turn σ (Option Answer)}
    (working : t.session.resolving = true) :
    (∃ cleared, (t.session.flagged false).Observed cleared ∧
      n.release ask t = ⟨t.outcome, { cleared with resolving := false }⟩) ∨
    (∃ ending, (n.release ask t).outcome = .error ending ∧
      (n.release ask t).session.published.config = t.session.published.config) := by
  have cleared := n.setWorking_observed refuses false working
  have config : (n.setWorking ask false t.session).session.published.config =
      t.session.published.config := by
    rw [cleared.published]
    rfl
  rw [release]
  split
  · next aborted => exact .inr ⟨.aborted, aborted, rfl⟩
  · dsimp only
    split
    · exact .inl ⟨_, cleared, rfl⟩
    · exact .inr ⟨_, rfl, config⟩
    · exact .inr ⟨_, rfl, config⟩

theorem release_calm (refuses : ask.Refuses) (calm : ∀ o ∈ n.observers, Observer.Calm o)
    {t : Turn σ (Option Answer)} (working : t.session.resolving = true) {answer? : Option Answer}
    (ended : t.outcome = .ok answer?) : (n.release ask t).outcome = .ok answer? := by
  have cleared := n.setWorking_calm refuses calm false working
  rw [release, ended]
  dsimp only
  rw [cleared]

/-- A query at the top begins with the mark and the flag set. -/
theorem resolve_of_top (query : Query) (top : s.resolving = false) :
    ∃ ask : Asking σ, ask.Refuses ∧
      n.resolve query s = (n.setWorking ask true { s with resolving := true }).andThen
        fun _ s => n.release ask (n.work ask query s) := by
  refine ⟨n.resolveWithin 7, n.refuses_resolveWithin 7, ?_⟩
  rw [resolve, nestingDepth, resolveWithin, top]
  rfl

/-- A query at the top is not answered and nothing has changed, or its answer is
    published, or something crashes. -/
theorem resolve_cases (query : Query) (top : s.resolving = false) :
    ((n.resolve query s).outcome = .ok none ∧
      (s.flagged false).Kept (n.resolve query s).session) ∨
    (∃ answer, (n.resolve query s).outcome = .ok (some answer) ∧
      n.Publication query answer s (n.resolve query s).session ∧
      (n.resolve query s).session.resolving = false) ∨
    (∃ ending, (n.resolve query s).outcome = .error ending ∧
      n.Evolves query s.published.config (n.resolve query s).session.published.config) := by
  obtain ⟨ask, refuses, resolved⟩ := n.resolve_of_top query top
  have begun := n.setWorking_observed refuses true (s := { s with resolving := true }) rfl
  rw [resolved]
  cases ended : (n.setWorking ask true { s with resolving := true }).outcome with
  | error ending =>
    -- An observer crashed when it was told of the flag, and no work was begun.
    rw [Turn.andThen_of_error ended]
    exact .inr (.inr ⟨ending, rfl, .inl (by rw [begun.published]; rfl)⟩)
  | ok =>
    rw [Turn.andThen_of_ok ended]
    let b := (n.setWorking ask true { s with resolving := true }).session
    have config : b.published.config = s.published.config := by rw [begun.published]; rfl
    have evolves := config ▸ n.evolves_work refuses query (s := b) begun.resolving
    obtain ⟨working, done⟩ := n.work_cases refuses query (s := b) begun.resolving
    rcases n.release_cases refuses working with ⟨u, cleared, released⟩ | ⟨ending, ended, kept⟩
    · rw [released]
      rcases done with ⟨ended, kept⟩ | ⟨answer, ended, published⟩ | ⟨ending, ended, -⟩
      · refine .inl ⟨ended, ?_, top.symm, ?_, ?_⟩
        · rw [cleared.published, Session.published_flagged, kept.published, begun.published]
          rfl
        · exact cleared.vault.trans (kept.vault.trans begun.vault)
        · exact cleared.saves.trans (kept.saves.trans begun.saves)
      · exact .inr (.inl ⟨answer, ended,
          (published.of_eq n config begun.vault begun.saves).released n cleared, rfl⟩)
      · refine .inr (.inr ⟨ending, ended, ?_⟩)
        rw [cleared.published]
        exact evolves
    · -- An observer crashed when the flag was cleared: whatever the work has come to,
      -- the query is not known to be answered.
      exact .inr (.inr ⟨ending, ended, kept ▸ evolves⟩)

/-- If all who are called reply and no observer crashes, a query at the top ends with
    what the consultation comes to. -/
theorem resolve_calm (query : Query) (top : s.resolving = false) (store : n.store.Responsive)
    (others : n.Responsive) (calm : ∀ o ∈ n.observers, Observer.Calm o) {answer? : Option Answer}
    (consulted : (n.consult query s.published.config).outcome = .ok answer?) :
    (n.resolve query s).outcome = .ok answer? := by
  obtain ⟨ask, refuses, resolved⟩ := n.resolve_of_top query top
  have begun := n.setWorking_observed refuses true (s := { s with resolving := true }) rfl
  have started := n.setWorking_calm refuses calm true (s := { s with resolving := true }) rfl
  let b := (n.setWorking ask true { s with resolving := true }).session
  have config : b.published.config = s.published.config := by rw [begun.published]; rfl
  have worked := n.work_calm refuses store others calm (s := b) begun.resolving
    (config.symm ▸ consulted)
  have working := (n.work_cases refuses query (s := b) begun.resolving).1
  rw [resolved, Turn.andThen_of_ok started]
  exact n.release_calm refuses calm working worked

/-! ## All or nothing -/

theorem startOf_replies (others : n.Responsive) (type : QueryType) : (n.startOf type).Replies := by
  obtain ⟨carrier, hcarrier⟩ := others.carrier
  rw [startOf]
  split
  · rw [hcarrier, Call.bind_reply]
    split
    · exact others.systemNamed _
    · exact ⟨none, rfl⟩
  · exact others.system

theorem outcome_attempt (c : Consultation (Option Answer)) :
    ∃ answer?, (attempt c).outcome = .ok answer? := by
  rw [attempt]
  split
  · exact ⟨_, rfl⟩
  · exact ⟨_, rfl⟩

/-- A consultation comes to an answer or none, whatever the resolver does. -/
theorem consult_responsive (others : n.Responsive) (query : Query) (config : Config) :
    ∃ answer?, (n.consult query config).outcome = .ok answer? := by
  obtain ⟨start?, hstart⟩ := n.startOf_replies others query.type
  obtain ⟨missions, hmissions⟩ := others.missions
  simp only [consult, Consultation.outcome_bind, hstart, Consultation.outcome_ofCall_reply,
    Except.bind]
  cases start? with
  | none => exact ⟨none, rfl⟩
  | some start =>
    cases n.registry.get? query.type with
    | none => exact ⟨none, rfl⟩
    | some resolver =>
      obtain ⟨fresh, hfresh⟩ :=
        outcome_attempt (resolver.resolve query start ⟨n.atlas, n.traveller, missions, config⟩)
      refine ⟨fresh.map (config.settle query.type), ?_⟩
      simp only [Consultation.outcome_bind, hmissions, Consultation.outcome_ofCall_reply,
        Except.bind, hfresh]
      rfl

/-- A query at the top is answered as a whole or not at all. If it is not answered,
    all that was published stays and nothing is saved. If it is answered, the
    configuration that is published is the one that was given to the store, once.
    And it does end, with an answer or without, whether or not it could be saved. -/
theorem resolve_all_or_nothing (n : Navigator σ) (query : Query) (s : Session σ)
    (top : s.resolving = false) :
    ((n.resolve query s).outcome = .ok none →
      (n.resolve query s).session.published = { s.published with isWorking := false } ∧
      (n.resolve query s).session.saves = s.saves ∧
      (n.resolve query s).session.vault = s.vault) ∧
    (∀ answer, (n.resolve query s).outcome = .ok (some answer) →
      (n.resolve query s).session.published.config =
        s.published.config.remember query answer.route ∧
      (n.resolve query s).session.published.isWorking = false ∧
      (n.resolve query s).session.saves =
        s.saves ++ [(n.resolve query s).session.published.config] ∧
      (n.resolve query s).session.vault =
        (n.store.save (n.resolve query s).session.published.config s.vault).2) ∧
    (n.Responsive → (∀ o ∈ n.observers, Observer.Calm o) →
      ∃ answer?, ∀ store : ConfigStore σ, store.Responsive →
        (({ n with store } : Navigator σ).resolve query s).outcome = .ok answer?) := by
  refine ⟨fun ended => ?_, fun answer ended => ?_, fun others calm => ?_⟩
  · rcases n.resolve_cases query top with ⟨-, kept⟩ | ⟨_, ended', -⟩ | ⟨_, ended', -⟩
    · exact ⟨kept.published, kept.saves, kept.vault⟩
    · cases ended.symm.trans ended'
    · cases ended.symm.trans ended'
  · rcases n.resolve_cases query top with ⟨ended', -⟩ | ⟨_, ended', published, -⟩ | ⟨_, ended', -⟩
    · cases ended.symm.trans ended'
    · cases ended.symm.trans ended'
      exact ⟨published.config, published.idle, published.saves, published.vault⟩
    · cases ended.symm.trans ended'
  · obtain ⟨answer?, consulted⟩ := n.consult_responsive others query s.published.config
    refine ⟨answer?, fun store saving => ?_⟩
    have others' : ({ n with store } : Navigator σ).Responsive :=
      ⟨others.system, others.carrier, others.missions, others.systemNamed, others.systemAt,
        others.stationOf⟩
    exact resolve_calm { n with store } query top saving others' calm consulted

/-- A store which can save nothing, and counts the attempts. -/
def fullStore : ConfigStore Nat where
  load _ := .ok {}
  save _ attempts := (.reply (.error .file), attempts + 1)

/-- The navigator of a traveller in a system without a name on any map, whose store is
    full, and whose observer reads back what it is given and asks to cancel the route. -/
def castaway : Navigator Nat where
  atlas := AtlasTable.atlas {}
  traveller := TravellerState.traveller { system := some { systemName := "Nowhere" } }
  store := fullStore
  observers := [fun _ _ => .readBack fun _ => .ask { type := .cancel } fun _ => .done]

theorem castaway_responsive : castaway.Responsive where
  system := ⟨_, rfl⟩
  carrier := ⟨_, rfl⟩
  missions := ⟨_, rfl⟩
  systemNamed _ := ⟨_, rfl⟩
  systemAt _ := ⟨_, rfl⟩
  stationOf _ := ⟨_, rfl⟩

theorem castaway_calm : ∀ o ∈ castaway.observers, Observer.Calm o := by
  intro o ho
  obtain rfl := List.mem_singleton.1 ho
  exact fun _ _ => .readBack fun _ => .ask fun _ => .done

/-- A castaway has no route to update, so nothing changes; but they may cancel the one
    they do not have, which is attempted to be saved once, in vain. -/
theorem castaway_update_cancel :
    let s : Session Nat := { published := {}, vault := 0 }
    let updated := castaway.resolve { type := .update } s
    let cancelled := castaway.resolve { type := .cancel } s
    s.resolving = false ∧ castaway.Responsive ∧ (∀ o ∈ castaway.observers, Observer.Calm o) ∧
      updated.outcome = .ok none ∧ updated.session.published = s.published ∧
      updated.session.saves = [] ∧ updated.session.vault = 0 ∧
      cancelled.outcome = .ok (some (.ofRoute .cancel {} 0)) ∧
      cancelled.session.saves = [cancelled.session.published.config] ∧
      cancelled.session.vault = 1 ∧
      ∃ answer?, ∀ store : ConfigStore Nat, store.Responsive →
        (({ castaway with store } : Navigator Nat).resolve { type := .cancel } s).outcome =
          .ok answer? := by
  intro s updated cancelled
  have unanswered : updated.outcome = .ok none := rfl
  have answered : cancelled.outcome = .ok (some (.ofRoute .cancel {} 0)) := rfl
  obtain ⟨published, saves, vault⟩ :=
    (resolve_all_or_nothing castaway { type := .update } s rfl).1 unanswered
  obtain ⟨-, whole, ended⟩ := resolve_all_or_nothing castaway { type := .cancel } s rfl
  obtain ⟨-, -, saved, attempts⟩ := whole _ answered
  exact ⟨rfl, castaway_responsive, castaway_calm, unanswered, published, saves, vault, answered,
    saved, attempts, ended castaway_responsive castaway_calm⟩

end Navigator

end Astrogation
