import Astrogation.Proofs.Navigator.Notified

/-!
# What a query does to the store

However a query ends, it has either left the store and the published configuration alone
(`Session.SameStore`), or it has given one configuration to the store, which remembers the answer
that the consultation has come to (`Navigator.Stored`). Unless something crashes before the
answer is announced, this configuration is then published.
-/

namespace Astrogation

variable {σ : Type}

namespace Session

variable {s t u : Session σ}

/-- `t` has the configuration of `s`, and nothing more has been given to the store. -/
structure SameStore (s t : Session σ) : Prop where
  config : t.published.config = s.published.config
  vault : t.vault = s.vault
  saves : t.saves = s.saves

/-- What two steps leave alone one after the other, they leave alone together. -/
theorem SameStore.trans (h : s.SameStore t) (h' : t.SameStore u) : s.SameStore u :=
  ⟨h'.config.trans h.config, h'.vault.trans h.vault, h'.saves.trans h.saves⟩

theorem Observed.sameStore (h : s.Observed t) : s.SameStore t :=
  ⟨congrArg Snapshot.config h.published, h.vault, h.saves⟩

theorem Kept.sameStore (h : s.Kept t) : s.SameStore t :=
  ⟨congrArg Snapshot.config h.published, h.vault, h.saves⟩

end Session

namespace Navigator

variable (n : Navigator σ) {ask : Asking σ} {query : Query} {answer : Answer} {s t u : Session σ}

/-- `t` is `s` after the configuration which remembers an answer has been given to the store. -/
structure Stored (query : Query) (answer : Answer) (s t : Session σ) : Prop where
  consulted : (n.consult query s.published.config).outcome = .ok (some answer)
  saves : t.saves = s.saves ++ [s.published.config.remember query answer.route]
  vault : t.vault = (n.store.save (s.published.config.remember query answer.route) s.vault).2
  config : t.published.config = s.published.config ∨
    t.published.config = s.published.config.remember query answer.route
  announced : (n.store.save (s.published.config.remember query answer.route) s.vault).1.Replies →
    n.LooksUp → t.published.config = s.published.config.remember query answer.route

variable {n}

/-- What happens before the save, as the inquiries do, may leave the store alone. -/
theorem Stored.of_sameStore (before : s.SameStore t) (h : n.Stored query answer t u) :
    n.Stored query answer s u := by
  obtain ⟨consulted, saves, vault, config, announced⟩ := h
  rw [before.config] at consulted saves vault config announced
  rw [before.vault] at vault announced
  exact ⟨consulted, before.saves ▸ saves, vault, config, announced⟩

theorem Stored.sameStore (h : n.Stored query answer s t) (after : t.SameStore u) :
    n.Stored query answer s u where
  consulted := h.consulted
  saves := after.saves.trans h.saves
  vault := after.vault.trans h.vault
  config := after.config ▸ h.config
  announced replies looks := after.config.trans (h.announced replies looks)

variable (n)

/-- Publishing an answer gives its configuration to the store, whatever happens then. -/
theorem publish_stored (refuses : ask.Refuses) (query : Query) (answer : Answer)
    (working : s.resolving = true)
    (consulted : (n.consult query s.published.config).outcome = .ok (some answer)) :
    n.Stored query answer s (n.publish ask query answer s).session := by
  let config := s.published.config.remember query answer.route
  have saves : (n.afterSave config s).saves = s.saves ++ [config] := Session.saves_note _ _
  -- The configuration has been saved before anything else can crash.
  by_cases announces : ∃ system station,
      n.publish ask query answer s = n.notify ask (n.announced query answer system station s)
  · obtain ⟨system, station, announced⟩ := announces
    have heard := n.notify_observed refuses (s := n.announced query answer system station s) working
    rw [← announced] at heard
    have published : (n.publish ask query answer s).session.published.config = config := by
      rw [heard.published]
      rfl
    exact ⟨consulted, heard.saves.trans saves, heard.vault, .inr published, fun _ _ => published⟩
  · have crashed : n.publish ask query answer s = .unwound (n.afterSave config s) := by
      rcases n.publish_cases ask query answer s with ⟨system, station, -, -, announced⟩ | crashed
      · exact absurd ⟨system, station, announced⟩ announces
      · exact crashed
    rw [crashed]
    refine ⟨consulted, saves, rfl, .inl rfl, fun replies looks => ?_⟩
    exact absurd (n.publish_announces ask query answer s replies looks) announces

/-- Only an answer is given to the store: without one, the store is left alone. -/
theorem work_stored (refuses : ask.Refuses) (query : Query) (working : s.resolving = true) :
    s.SameStore (n.work ask query s).session ∨
      ∃ answer, n.Stored query answer s (n.work ask query s).session := by
  have kept := (n.kept_afterConsult query s).sameStore
  cases consulted : (n.consult query s.published.config).outcome with
  | error breakdown =>
    rw [n.work_of_error consulted]
    exact .inl kept
  | ok answer? =>
    cases answer? with
    | none =>
      rw [n.work_of_none consulted]
      exact .inl kept
    | some answer =>
      have stored := n.publish_stored refuses query answer (s := n.afterConsult query s) working
        consulted
      rw [n.work_of_some consulted]
      refine .inr ⟨answer, ?_⟩
      have same : ((n.publish ask query answer (n.afterConsult query s)).andThen
          fun _ s => .result (some answer) s).session =
          (n.publish ask query answer (n.afterConsult query s)).session := by
        rw [Turn.andThen]
        split
        · rfl
        · rfl
      rw [same]
      exact .of_sameStore kept stored

/-- To release a query leaves the store alone, also if an observer crashes meanwhile. -/
theorem release_sameStore (refuses : ask.Refuses) {t : Turn σ (Option Answer)}
    (working : t.session.resolving = true) : t.session.SameStore (n.release ask t).session := by
  have cleared : t.session.SameStore (n.setWorking ask false t.session).session := by
    obtain ⟨config, vault, saves⟩ := (n.setWorking_observed refuses false working).sameStore
    exact ⟨config, vault, saves⟩
  rw [release]
  split
  · exact ⟨rfl, rfl, rfl⟩
  · dsimp only
    split
    · exact ⟨cleared.config, cleared.vault, cleared.saves⟩
    · exact cleared
    · exact cleared

/-- However a query ends: it has left the store alone, or it has given one configuration to the
    store. -/
theorem resolve_stored (query : Query) (s : Session σ) :
    s.SameStore (n.resolve query s).session ∨
      ∃ answer, n.Stored query answer s (n.resolve query s).session := by
  cases top : s.resolving with
  | true =>
    rw [resolve, n.resolveWithin_of_resolving _ query s top]
    exact .inl ⟨rfl, rfl, rfl⟩
  | false =>
    obtain ⟨ask, refuses, resolved⟩ := n.resolve_of_top query top
    have begun := n.setWorking_observed refuses true (s := { s with resolving := true }) rfl
    have before : s.SameStore (n.setWorking ask true { s with resolving := true }).session := by
      obtain ⟨config, vault, saves⟩ := begun.sameStore
      exact ⟨config, vault, saves⟩
    rw [resolved]
    cases ended : (n.setWorking ask true { s with resolving := true }).outcome with
    | error ending =>
      rw [Turn.andThen_of_error ended]
      exact .inl before
    | ok =>
      rw [Turn.andThen_of_ok ended]
      have working := (n.work_cases refuses query begun.resolving).1
      have after := n.release_sameStore refuses working
      rcases n.work_stored refuses query begun.resolving with same | ⟨answer, stored⟩
      · exact .inl (before.trans (same.trans after))
      · exact .inr ⟨answer, .of_sameStore before (stored.sameStore after)⟩

end Navigator

end Astrogation
