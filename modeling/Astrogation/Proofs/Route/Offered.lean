import Astrogation.Navigator.Memory
import Mathlib.Data.List.DropRight
import Mathlib.Data.List.Induction

/-!
# Routes offered one after the other

What becomes of a store to which routes are offered one after the other, if each takes the
place of what is stored or is dropped (`Route.offerAll`): the last route stays if it is not
known where it leads; otherwise, of the block of routes at the end which lead to the same
system, the shortest stays, and of several the earliest (`Route.IsFirstShortest`).

The stored routes of a configuration are such stores: those of the fleet carrier, of galaxy
queries and of circuits, as long as no query of another family comes in between
(`Config.storedRoute?_rememberFresh`). So all of them keep the first of the shortest routes
(`Route.offered_first_shortest`).
-/

namespace Astrogation

namespace Route

variable {α : Type} {r s stored fresh last : Route α} {rs : List (Route α)} {goal : Address}

/-- What is stored in the end if routes are offered one after the other, at first to an empty
    store. -/
def offerAll (rs : List (Route α)) : Option (Route α) :=
  rs.foldl (fun stored fresh => if fresh.replaces stored then some fresh else stored) none

/-- The longest block at the end of a list of routes in which all lead to an address. -/
def lastBlock (goal : Address) (rs : List (Route α)) : List (Route α) :=
  rs.rtakeWhile (·.goal? == some goal)

/-- A route of a list which is shorter than all before it, and no longer than those after it. -/
def IsFirstShortest (r : Route α) (rs : List (Route α)) : Prop :=
  ∃ before after, rs = before ++ r :: after ∧ (∀ s ∈ before, r.size < s.size) ∧
    ∀ s ∈ after, r.size ≤ s.size

/-! ## A single offer -/

/-- The stored route stays if both are known to lead to the same system and the fresh one has
    no fewer stops. -/
theorem supersedes_eq_false_iff : fresh.supersedes stored = false ↔
    ∃ goal, stored.goal? = some goal ∧ fresh.goal? = some goal ∧ stored.size ≤ fresh.size := by
  rw [supersedes, Bool.or_eq_false_iff, Bool.not_eq_false', decide_eq_false_iff_not, not_lt,
    sameGoal]
  cases stored.goal? with
  | none => simp
  | some a =>
    cases fresh.goal? with
    | none => simp
    | some b =>
      constructor
      · exact fun ⟨same, longer⟩ => ⟨b, congrArg some (beq_iff_eq.1 same), rfl, longer⟩
      · rintro ⟨goal, ha, hb, longer⟩
        exact ⟨beq_iff_eq.2 (Option.some.inj (ha.trans hb.symm)), longer⟩

theorem offer_self (r : Route α) : offer (some r) r = r := by
  rw [offer]
  split
  · rfl
  · rfl

theorem offerAll_concat (rs : List (Route α)) (r : Route α) :
    offerAll (rs ++ [r]) = some (offer (offerAll rs) r) := by
  rw [offerAll, List.foldl_append, List.foldl_cons, List.foldl_nil, ← offerAll, offer.eq_def]
  cases offerAll rs with
  | none => rfl
  | some stored => exact (apply_ite some (r.supersedes stored = true) r stored).symm

/-! ## The first of the shortest routes -/

theorem lastBlock_concat (h : last.goal? = some goal) (rs : List (Route α)) :
    lastBlock goal (rs ++ [last]) = lastBlock goal rs ++ [last] :=
  List.rtakeWhile_concat_pos _ _ _ (beq_iff_eq.2 h)

theorem lastBlock_concat_of_ne (h : last.goal? ≠ some goal) (rs : List (Route α)) :
    lastBlock goal (rs ++ [last]) = [] :=
  List.rtakeWhile_concat_neg _ _ _ fun same => h (beq_iff_eq.1 same)

theorem goal?_of_mem_lastBlock (h : r ∈ lastBlock goal rs) : r.goal? = some goal :=
  beq_iff_eq.1 (List.mem_rtakeWhile_imp (p := fun s : Route α => s.goal? == some goal) h)

namespace IsFirstShortest

theorem singleton (r : Route α) : r.IsFirstShortest [r] :=
  ⟨[], [], rfl, fun _ h => (nomatch h), fun _ h => (nomatch h)⟩

theorem mem (h : r.IsFirstShortest rs) : r ∈ rs := by
  obtain ⟨before, after, rfl, -, -⟩ := h
  exact List.mem_append_right before List.mem_cons_self

theorem size_le (h : r.IsFirstShortest rs) (hs : s ∈ rs) : r.size ≤ s.size := by
  obtain ⟨before, after, rfl, shorter, noLonger⟩ := h
  rcases List.mem_append.1 hs with hs | hs
  · exact (shorter s hs).le
  · rcases List.mem_cons.1 hs with rfl | hs
    · exact le_rfl
    · exact noLonger s hs

/-- A route which is no shorter changes nothing. -/
theorem concat (h : r.IsFirstShortest rs) (hlast : r.size ≤ last.size) :
    r.IsFirstShortest (rs ++ [last]) := by
  obtain ⟨before, after, rfl, shorter, noLonger⟩ := h
  refine ⟨before, after ++ [last], List.append_assoc .., shorter, fun s hs => ?_⟩
  rcases List.mem_append.1 hs with hs | hs
  · exact noLonger s hs
  · exact List.mem_singleton.1 hs ▸ hlast

/-- A route which is shorter is the only shortest one. -/
theorem concat_of_lt (h : r.IsFirstShortest rs) (hlast : last.size < r.size) :
    last.IsFirstShortest (rs ++ [last]) :=
  ⟨rs, [], rfl, fun _ hs => hlast.trans_le (h.size_le hs), fun _ h => (nomatch h)⟩

end IsFirstShortest

/-- What is stored after a route has been offered last. -/
structure Holds (rs : List (Route α)) (last r : Route α) : Prop where
  stored : offerAll (rs ++ [last]) = some r
  unknown : last.goal? = none → r = last
  known : ∀ goal, last.goal? = some goal → r.IsFirstShortest (lastBlock goal (rs ++ [last]))

/-- The stored route leads where the last one leads. -/
theorem Holds.goal? (h : Holds rs last r) : r.goal? = last.goal? := by
  cases hgoal : last.goal? with
  | none => rw [h.unknown hgoal, hgoal]
  | some goal => exact goal?_of_mem_lastBlock (h.known goal hgoal).mem

/-- The last route is stored if nothing else can be. -/
theorem holds_self (stored : offerAll (rs ++ [last]) = some last)
    (other : ∀ goal, last.goal? = some goal → lastBlock goal rs = []) : Holds rs last last where
  stored := stored
  unknown _ := rfl
  known goal hgoal := by
    rw [lastBlock_concat hgoal, other goal hgoal]
    exact .singleton last

theorem Holds.concat (h : Holds rs last r) (fresh : Route α) :
    ∃ r', Holds (rs ++ [last]) fresh r' := by
  have offered := offerAll_concat (rs ++ [last]) fresh
  rw [h.stored, offer] at offered
  cases replaced : fresh.supersedes r with
  | false =>
    rw [if_neg (by simp [replaced])] at offered
    obtain ⟨goal, hr, hfresh, longer⟩ := supersedes_eq_false_iff.1 replaced
    refine ⟨r, offered, fun unknown => ?_, fun goal' hgoal' => ?_⟩
    · cases hfresh.symm.trans unknown
    · rw [lastBlock_concat hgoal']
      obtain rfl := Option.some.inj (hfresh.symm.trans hgoal')
      exact (h.known goal (h.goal?.symm.trans hr)).concat longer
  | true =>
    rw [if_pos replaced] at offered
    refine ⟨fresh, offered, fun _ => rfl, fun goal hgoal => ?_⟩
    by_cases same : last.goal? = some goal
    · -- It leads where the stored route leads, so it is shorter.
      have shorter : fresh.size < r.size := by
        by_contra longer
        have stays := supersedes_eq_false_iff.2
          ⟨goal, h.goal?.trans same, hgoal, not_lt.1 longer⟩
        cases replaced.symm.trans stays
      rw [lastBlock_concat hgoal]
      exact (h.known goal same).concat_of_lt shorter
    · refine (holds_self offered fun goal' hgoal' => ?_).known goal hgoal
      obtain rfl := Option.some.inj (hgoal.symm.trans hgoal')
      exact lastBlock_concat_of_ne same rs

theorem exists_holds (rs : List (Route α)) (last : Route α) : ∃ r, Holds rs last r := by
  induction rs using List.reverseRecOn generalizing last with
  | nil => exact ⟨last, holds_self (offerAll_concat [] last) fun _ _ => rfl⟩
  | append_singleton rs r ih =>
    obtain ⟨stored, h⟩ := ih r
    exact h.concat last

end Route

/-! ## Stored routes -/

/-- Types which are continuous with each other share their stored route. -/
theorem QueryType.isContinuousWith_congr {type type' : QueryType}
    (h : type.isContinuousWith type' = true) :
    type'.isContinuityChecked = true ∧ (type' = .carrier ↔ type = .carrier) ∧
      ∀ q, type'.isContinuousWith q = type.isContinuousWith q := by
  have all : ∀ a ∈ QueryType.all, ∀ b ∈ QueryType.all, a.isContinuousWith b = true →
      b.isContinuityChecked = true ∧ (b = .carrier ↔ a = .carrier) ∧
        ∀ q ∈ QueryType.all, b.isContinuousWith q = a.isContinuousWith q := by
    decide +kernel
  obtain ⟨checked, carrier, same⟩ := all type type.mem_all type' type'.mem_all h
  exact ⟨checked, carrier, fun q => same q q.mem_all⟩

namespace Config

variable {c : Config} {type : QueryType} {query : Query} {fresh : Answer}

/-- The configuration after a fresh answer has been compared with the stored route, and what
    came of it has been remembered. -/
def rememberFresh (c : Config) (query : Query) (fresh : Answer) : Config :=
  c.remember query (c.settle query.type fresh).route

/-- A fresh answer is compared with the stored route by offering it. -/
theorem route_settle_eq_offer (c : Config) (type : QueryType) (fresh : Answer) :
    (c.settle type fresh).route = Route.offer (c.storedRoute? type) fresh.route := by
  rw [settle, Route.offer.eq_def]
  cases c.storedRoute? type with
  | none => rfl
  | some stored =>
    dsimp only
    split
    · rfl
    · rfl

theorem storedRoute?_remember (c : Config) (route : Route)
    (h : query.type.isContinuityChecked = true) :
    (c.remember query route).storedRoute? query.type = some route := by
  obtain ⟨type, arg0, arg1, numeric, flag, fromUi⟩ := query
  cases type with
  | scoop | neutron | set | route | carrier => rfl
  | _ => cases h

theorem storedRoute?_congr (h : type.isContinuousWith query.type = true) :
    c.storedRoute? query.type = c.storedRoute? type := by
  obtain ⟨checked, carrier, same⟩ := QueryType.isContinuousWith_congr h
  have checked' : type.isContinuityChecked = true := by
    rw [QueryType.isContinuousWith, Bool.and_eq_true, Bool.and_eq_true] at h
    exact h.1.1
  have same : query.type.isContinuousWith = type.isContinuousWith := funext same
  rw [storedRoute?, storedRoute?, checked, checked', same]
  simp only [beq_iff_eq, carrier]

theorem storedRoute?_rememberFresh (h : type.isContinuousWith query.type = true) :
    (c.rememberFresh query fresh).storedRoute? type =
      some (Route.offer (c.storedRoute? type) fresh.route) := by
  have stored := c.storedRoute?_remember (c.settle query.type fresh).route
    (QueryType.isContinuousWith_congr h).1
  rw [storedRoute?_congr h] at stored
  rw [rememberFresh, stored, route_settle_eq_offer, storedRoute?_congr h]

/-- Fresh answers to queries which share a stored route are offered one after the other. -/
theorem storedRoute?_foldl_rememberFresh {answers : List (Query × Answer)}
    (empty : c.storedRoute? type = none)
    (h : ∀ e ∈ answers, type.isContinuousWith e.1.type = true) :
    (answers.foldl (fun c e => c.rememberFresh e.1 e.2) c).storedRoute? type =
      Route.offerAll (answers.map (·.2.route)) := by
  induction answers using List.reverseRecOn with
  | nil => exact empty
  | append_singleton answers e ih =>
    have earlier := ih fun e' he' => h e' (List.mem_append_left [e] he')
    have last := h e (List.mem_append_right answers List.mem_cons_self)
    rw [List.foldl_append, List.foldl_cons, List.foldl_nil, storedRoute?_rememberFresh last,
      earlier, List.map_append, List.map_singleton, Route.offerAll_concat]

end Config

variable {α : Type}

/-- If routes are offered one after the other to a store which is empty at first, then in the
    end it holds the last one if it is not known where this one leads. Otherwise it holds the
    earliest of the shortest routes of the block at the end in which all lead to where the last
    one leads. To offer it again changes nothing.

    The stored route for a type of queries is such a store: it holds what is left of the fresh
    routes which answered queries of its family. -/
theorem Route.offered_first_shortest (earlier : List (Route α)) (last : Route α) :
    (∃ r, offerAll (earlier ++ [last]) = some r ∧
      (last.goal? = none → r = last) ∧
      (∀ goal, last.goal? = some goal →
        r.IsFirstShortest (lastBlock goal (earlier ++ [last]))) ∧
      offerAll (earlier ++ [last] ++ [r]) = some r) ∧
    ∀ (c : Config) (type : QueryType) (answers : List (Query × Answer)),
      c.storedRoute? type = none → (∀ e ∈ answers, type.isContinuousWith e.1.type = true) →
      (answers.foldl (fun c e => c.rememberFresh e.1 e.2) c).storedRoute? type =
        offerAll (answers.map (·.2.route)) := by
  refine ⟨?_, fun c type answers empty shared =>
    Config.storedRoute?_foldl_rememberFresh empty shared⟩
  obtain ⟨r, holds⟩ := exists_holds earlier last
  refine ⟨r, holds.stored, holds.unknown, holds.known, ?_⟩
  rw [offerAll_concat, holds.stored, offer_self]

/-- A route through systems of these addresses. -/
def Route.through (addresses : List Address) : Route :=
  .ofWaypoints (addresses.map fun a => { systemName := "", address := some a })

/-- Of six routes, the last four lead to the same system; the second of these is as short as
    the last, and stays. -/
theorem Route.offered_detours :
    let offers : List Route :=
      [through [1, 9], through [1, 8], through [1, 2, 3, 9], through [1, 2, 9], through [1, 3, 9]]
    let last := through [1, 4, 9]
    last.goal? = some 9 ∧ offerAll (offers ++ [last]) = some (through [1, 2, 9]) ∧
      IsFirstShortest (through [1, 2, 9])
        [through [1, 2, 3, 9], through [1, 2, 9], through [1, 3, 9], through [1, 4, 9]] := by
  intro offers last
  have leads : last.goal? = some 9 := rfl
  have stored : offerAll (offers ++ [last]) = some (through [1, 2, 9]) := rfl
  obtain ⟨⟨r, holds, -, known, -⟩, -⟩ := offered_first_shortest offers last
  obtain rfl := Option.some.inj (stored.symm.trans holds)
  exact ⟨leads, stored, known 9 leads⟩

end Astrogation
