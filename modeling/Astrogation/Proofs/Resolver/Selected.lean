import Astrogation.Proofs.FirstBest
import Astrogation.Proofs.Resolver.Recognised
import Astrogation.Proofs.Tour.Greedy

/-!
# Destinations at an extreme

What a resolver answers may be said without its loops: of some items, such as the names that
missions give, it *selects* the first of the best, and answers nothing only if no item has a
value (`Consultation.Selects`). That names are gone through without repetition does not show
in what is selected (`Selects.of_distinctNames`).

The resolvers for the nearest and the farthest destination and for the nearest origin select
a system by its distance, if the atlas looks names up one by one and without regard to the
case of their letters (`Atlas.LooksUp`) and the distances can be compared
(`Resolver.extremes_selected`).
-/

namespace Astrogation

open Floating

/-! ## Look-ups without effects -/

/-- An atlas which looks up the system of a name by a function, and the systems of several
    names one after the other. -/
structure Atlas.LooksUp (atlas : Atlas) (look : String → Option Waypoint) : Prop where
  one : ∀ name, atlas.systemNamed name = .reply (look name)
  several : atlas.systemsNamed = Call.gather atlas.systemNamed

theorem Atlas.LooksUp.systemsNamed {atlas : Atlas} {look : String → Option Waypoint}
    (h : atlas.LooksUp look) (names : List String) :
    atlas.systemsNamed names = .reply (names.filterMap look) := by
  rw [h.several, funext h.one, Call.gather_reply]

namespace Chart

/-- What the atlas of a chart replies for a name. -/
def look (c : Chart) (name : String) : Option Waypoint := (c.find? name).map StarSystem.waypoint

theorem looksUp (c : Chart) : c.atlas.LooksUp c.look := ⟨fun _ => rfl, rfl⟩

theorem look_congr (c : Chart) {a b : String} (same : Text.sameIgnoringCase a b = true) :
    c.look a = c.look b := by
  rw [look, look, find?, find?, StarSystem.lookupKey_congr same]

end Chart

/-! ## Selections -/

variable {ι β : Type} {value : ι → Option β} {lt le : β → β → Prop} {items : List ι}
  {Fits : β → Answer → Prop} {c : Consultation (Option Answer)}

/-- A consultation which selects the first of the best items, and has an answer that fits its
    value; or no item has a value, and there is no answer. -/
inductive Consultation.Selects (c : Consultation (Option Answer)) (value : ι → Option β)
    (lt le : β → β → Prop) (items : List ι) (Fits : β → Answer → Prop) : Prop
  | nothing (without : ∀ i ∈ items, value i = none) (unanswered : c.outcome = .ok none)
  | best (x : β) (answer : Answer) (first : FirstBest value lt le x items)
      (answered : c.outcome = .ok (some answer)) (fits : Fits x answer)

namespace Consultation.Selects

/-- There is no answer if and only if no item has a value. -/
theorem unanswered_iff (h : c.Selects value lt le items Fits) :
    c.outcome = .ok none ↔ ∀ i ∈ items, value i = none := by
  cases h with
  | nothing without unanswered => exact iff_of_true unanswered without
  | best x answer first answered fits =>
    obtain ⟨i, hi, hx⟩ := first.exists_item
    refine iff_of_false (fun none => ?_) fun without => ?_
    · rw [answered] at none
      cases none
    · rw [without i hi] at hx
      cases hx

/-- An answer which passes a test fits the first of the best. -/
theorem exists_of_any {p : Answer → Bool} (h : c.Selects value lt le items Fits)
    (passes : c.outcome.toOption.join.any p = true) :
    ∃ x answer, FirstBest value lt le x items ∧ c.outcome = .ok (some answer) ∧ Fits x answer ∧
      p answer = true := by
  obtain ⟨answer, answered, passed⟩ := Answer.exists_of_any passes
  cases h with
  | nothing _ unanswered =>
    rw [answered] at unanswered
    cases unanswered
  | best x answer' first answered' fits =>
    rw [answered, Except.ok.injEq, Option.some.injEq] at answered'
    exact ⟨x, answer, first, answered, answered' ▸ fits, passed⟩

/-- The champion of the values is selected, if it is the first of the best. -/
theorem of_champion? {yields : β → β → Bool} {answer : β → Answer}
    (houtcome : c.outcome = .ok ((champion? yields (items.filterMap value)).map answer))
    (hfirst : ∀ x, champion? yields (items.filterMap value) = some x →
      FirstBest value lt le x items)
    (fits : ∀ x, Fits x (answer x)) : c.Selects value lt le items Fits := by
  cases hx : champion? yields (items.filterMap value) with
  | none =>
    rw [hx] at houtcome
    exact .nothing (champion?_filterMap_eq_none_iff.1 hx) houtcome
  | some x =>
    rw [hx] at houtcome
    exact .best x (answer x) (hfirst x hx) houtcome (fits x)

/-- What is selected from names without repetition is selected from all of them, if names
    which differ in case only have the same value. -/
theorem of_distinctNames {value : String → Option β} {names : List String}
    (h : c.Selects value lt le (Mission.distinctNames names) Fits)
    (same : ∀ a b, Text.sameIgnoringCase a b = true → value a = value b)
    (refl : ∀ name ∈ names, ∀ x, value name = some x → le x x) (weaken : ∀ x y, lt x y → le x y) :
    c.Selects value lt le names Fits := by
  have covered := (Mission.distinctNames_spec names).2
  cases h with
  | nothing without unanswered =>
    refine .nothing (fun name hname => ?_) unanswered
    obtain ⟨kept, hkept, alike⟩ := covered name hname
    rw [← same kept name alike, without kept hkept]
  | best x answer first answered fits =>
    obtain ⟨before, name, after, split, hx, better, noWorse⟩ := first
    obtain ⟨front, back, hnames, earlier⟩ := Mission.exists_split_of_distinctNames split
    refine .best x answer ⟨front, name, back, hnames, hx, fun other hother y hy => ?_,
      fun other hother y hy => ?_⟩ answered fits
    · obtain ⟨kept, hkept, alike⟩ := earlier other hother
      exact better kept hkept y ((same kept other alike).trans hy)
    · obtain ⟨kept, hkept, alike⟩ := covered other (by simp [hnames, hother])
      rw [← same kept other alike] at hy
      rw [split] at hkept
      rcases List.mem_append.1 hkept with hkept | hkept
      · exact weaken x y (better kept hkept y hy)
      · rcases List.mem_cons.1 hkept with rfl | hkept
        · obtain rfl := Option.some.inj (hx.symm.trans hy)
          exact refl kept (by simp [hnames]) x hx
        · exact noWorse kept hkept y hy

end Consultation.Selects

/-! ## The choice by distance -/

theorem Waypoint.distance?_of_position? {start : Waypoint} {point : Position}
    (h : start.position? = some point) (w : Waypoint) :
    start.distance? w = w.position?.map point.distanceTo := by
  have hstart : start.coordinates.position? = some point := h
  show start.coordinates.distance? w.coordinates = w.coordinates.position?.map point.distanceTo
  rw [Coordinates.distance?, hstart]
  cases w.coordinates.position? <;> rfl

namespace Extreme

/-- Whether a distance wins over another. -/
def Beats : Extreme → (x y : Float) → Prop
  | nearest, x, y => x < y
  | farthest, x, y => y < x

/-- Whether a distance wins over another or they are the same. -/
def Matches : Extreme → (x y : Float) → Prop
  | nearest, x, y => x ≤ y
  | farthest, x, y => y ≤ x

/-- The place of a distance in the order in which the ones that win come first. -/
noncomputable def key : Extreme → Float → EReal
  | nearest, x => place x
  | farthest, x => -place x

variable {extreme : Extreme} {x y : Float}

theorem yields_nearest (x y : Float) : yields nearest x y = decide (y < x) := by
  rw [yields, compareDistance]
  split_ifs with less same <;> simp [less]

theorem yields_iff (hx : IsNumber x) (hy : IsNumber y) :
    extreme.yields x y ↔ extreme.key y < extreme.key x := by
  cases extreme with
  | nearest => rw [yields, beq_iff_eq, (compareDistance_compares hy hx).eq_lt, key, key]
  | farthest =>
    rw [yields, beq_iff_eq, (compareDistance_compares hy hx).eq_gt, key, key, EReal.neg_lt_neg_iff]

theorem beats_iff (hx : x.isNaN = false) (hy : y.isNaN = false) :
    extreme.Beats x y ↔ extreme.key x < extreme.key y := by
  cases extreme with
  | nearest => exact lt_iff_place hx hy
  | farthest => exact (lt_iff_place hy hx).trans EReal.neg_lt_neg_iff.symm

theorem matches_iff (hx : x.isNaN = false) (hy : y.isNaN = false) :
    extreme.Matches x y ↔ extreme.key x ≤ extreme.key y := by
  cases extreme with
  | nearest => exact le_iff_place hx hy
  | farthest => exact (le_iff_place hy hx).trans EReal.neg_le_neg_iff.symm

theorem Beats.matches (h : extreme.Beats x y) : extreme.Matches x y := by
  cases extreme with
  | nearest => exact double_le_of_lt h
  | farthest => exact double_le_of_lt h

end Extreme

/-- The names of the destinations of active missions, as they are given. -/
def Mission.goals (missions : List Mission) : List String :=
  (active missions).flatMap (·.destinations)

/-- The names of the origins to which active missions have to return, as they are given. -/
def Mission.sources (missions : List Mission) : List String :=
  ((active missions).filter (·.returnToOrigin)).map (·.origin)

namespace Resolver

variable {look : String → Option Waypoint} {ctx : Context} {start : Waypoint} {point : Position}
  {names : List String}

/-- The system of a name with the distance by which it is ranked from a start. -/
def ranking (look : String → Option Waypoint) (start : Waypoint) (policy : UnknownDistance)
    (name : String) : Option (Float × Waypoint) :=
  (look name).bind fun w => (policy.apply (start.distance? w)).map (·, w)

/-- The system of a name with its distance from a point, if it is known where it is. -/
def located (look : String → Option Waypoint) (point : Position) (name : String) :
    Option (Float × Waypoint) :=
  (look name).bind fun w => w.position?.map fun p => (point.distanceTo p, w)

theorem ranking_exclude (hstart : start.position? = some point) :
    ranking look start .exclude = located look point := by
  funext name
  refine congrArg (look name).bind (funext fun w => ?_)
  rw [Waypoint.distance?_of_position? hstart]
  cases w.position? <;> rfl

theorem chooseByDistance_filterMap (start : Waypoint) (policy : UnknownDistance)
    (extreme : Extreme) (names : List String) :
    chooseByDistance start policy extreme (names.filterMap look) =
      (champion? (fun best other => extreme.yields best.1 other.1)
        (names.filterMap (ranking look start policy))).map (·.2) := by
  rw [chooseByDistance, List.filterMap_filterMap]
  rfl

/-- The choice among the systems of some names, if there are any names. -/
def choice (ctx : Context) (start : Waypoint) (policy : UnknownDistance) (extreme : Extreme)
    (names : List String) (answer : Waypoint → Answer) : Consultation (Option Answer) :=
  if names.isEmpty then pure none else do
    let candidates ← ctx.systemsNamed names
    return (chooseByDistance start policy extreme candidates).map answer

theorem outcome_choice (hatlas : ctx.atlas.LooksUp look) (policy : UnknownDistance)
    (extreme : Extreme) (names : List String) (answer : Waypoint → Answer) :
    (choice ctx start policy extreme names answer).outcome =
      .ok ((champion? (fun best other => extreme.yields best.1 other.1)
        (names.filterMap (ranking look start policy))).map fun found => answer found.2) := by
  cases names with
  | nil => rfl
  | cons name names =>
    have reply := hatlas.systemsNamed (name :: names)
    simp [choice, Context.systemsNamed, reply, chooseByDistance_filterMap, Except.bind,
      Function.comp_def]

/-- The champion at an extreme is the first of those there. -/
theorem firstBest_of_extreme {ι : Type} {extreme : Extreme} {value : ι → Option (Float × Waypoint)}
    {items : List ι} {x : Float × Waypoint}
    (numbers : ∀ i ∈ items, ∀ y, value i = some y → y.1.isNaN = false)
    (hx : champion? (fun best other => extreme.yields best.1 other.1) (items.filterMap value) =
      some x) :
    FirstBest value (fun a b => extreme.Beats a.1 b.1) (fun a b => extreme.Matches a.1 b.1)
      x items := by
  have comparable : ∀ y ∈ items.filterMap value, y.1.isNaN = false := fun y hy => by
    obtain ⟨i, hi, hy⟩ := List.mem_filterMap.1 hy
    exact numbers i hi y hy
  have h : YieldsBy (fun best other : Float × Waypoint => extreme.yields best.1 other.1)
      (fun y => extreme.key y.1) (items.filterMap value) := fun y hy z hz =>
    Extreme.yields_iff (isNaN_eq_false_iff.1 (comparable y hy))
      (isNaN_eq_false_iff.1 (comparable z hz))
  have number := comparable x (mem_of_champion? hx)
  refine (firstBest_of_champion? h hx).imp (fun i hi y hy => ?_) fun i hi y hy => ?_
  · exact (Extreme.beats_iff number (numbers i hi y hy)).2
  · exact (Extreme.matches_iff number (numbers i hi y hy)).2

/-- Of the systems of some names, the choice selects the first of those at an extreme. -/
theorem selects_choice (hatlas : ctx.atlas.LooksUp look)
    (hcase : ∀ a b, Text.sameIgnoringCase a b = true → look a = look b)
    (hstart : start.position? = some point) (extreme : Extreme) (answer : Waypoint → Answer)
    (numbers : ∀ name ∈ names, ∀ found, located look point name = some found →
      found.1.isNaN = false) :
    (choice ctx start .exclude extreme (Mission.distinctNames names) answer).Selects
      (located look point) (fun a b => extreme.Beats a.1 b.1)
      (fun a b => extreme.Matches a.1 b.1) names fun found given => given = answer found.2 := by
  have houtcome := ranking_exclude hstart ▸ outcome_choice hatlas .exclude extreme
    (Mission.distinctNames names) answer
  -- Names without repetition are names that were given, so their distances can be compared.
  have known := (Mission.distinctNames_spec names).1
  refine .of_distinctNames (.of_champion? houtcome (fun _ => firstBest_of_extreme
    fun name hname => numbers name (known name hname)) fun _ => rfl) (fun a b same => ?_)
    (fun name hname found h => ?_) fun a b => ?_
  · rw [located, located, hcase a b same]
  · have number := numbers name hname found h
    exact (Extreme.matches_iff number number).2 le_rfl
  · exact Extreme.Beats.matches

/-! ## The nearest, the farthest and the source -/

/-- The nearest and the farthest destination of the active missions are selected, and the
    nearest origin to which they have to return: of systems whose coordinates are complete,
    the first of those at an extreme. -/
theorem extremes_selected (hatlas : ctx.atlas.LooksUp look)
    (hcase : ∀ a b, Text.sameIgnoringCase a b = true → look a = look b)
    (hstart : start.position? = some point)
    (numbers : ∀ name ∈ Mission.goals ctx.missions ++ Mission.sources ctx.missions, ∀ found,
      located look point name = some found → found.1.isNaN = false) (query : Query) :
    (nearest.resolve query start ctx).Selects (located look point) (fun a b => a.1 < b.1)
      (fun a b => a.1 ≤ b.1) (Mission.goals ctx.missions) (fun found answer => answer =
        .ofMissions .nearest start found.2
          (Mission.idsBoundFor ctx.missions found.2.systemName)) ∧
    (farthest.resolve query start ctx).Selects (located look point) (fun a b => b.1 < a.1)
      (fun a b => b.1 ≤ a.1) (Mission.goals ctx.missions) (fun found answer => answer =
        .ofMissions .farthest start found.2
          (Mission.idsBoundFor ctx.missions found.2.systemName)) ∧
    (source.resolve query start ctx).Selects (located look point) (fun a b => a.1 < b.1)
      (fun a b => a.1 ≤ b.1) (Mission.sources ctx.missions) (fun found answer => answer =
        .ofMissions .source start found.2
          (Mission.idsReturningTo ctx.missions found.2.systemName)) := by
  obtain ⟨there, back⟩ := List.forall_mem_append.1 numbers
  exact ⟨selects_choice hatlas hcase hstart .nearest _ there,
    selects_choice hatlas hcase hstart .farthest _ there,
    selects_choice hatlas hcase hstart .nearest _ back⟩

/-- Whether the distances of systems can be compared can be decided. -/
theorem numbers_of_all {value : String → Option (Float × Waypoint)}
    (h : (names.all fun name => (value name).all fun found => !found.1.isNaN) = true) :
    ∀ name ∈ names, ∀ found, value name = some found → found.1.isNaN = false := by
  intro name hname found there
  have number := List.all_eq_true.1 h name hname
  rw [there] at number
  simpa using number

/-- Supplies for Jackson, or else for a system that no chart has. -/
def supplies : Mission := { id := 2, origin := "Sol", destinations := ["Raxxla", "Jackson"] }

/-- From Sol, Jackson is nearer than Colonia, and the delivery returns there. With the supplies
    alone there is nowhere to return to. -/
theorem extremes_sol :
    let located := located Chart.frontier.look Chart.sol.position
    let outcome (resolver : Resolver) (missions : List Mission) :=
      (resolver.resolve { type := resolver.type } Chart.sol.waypoint
        ⟨Chart.frontier.atlas, TravellerState.traveller {}, missions, {}⟩).outcome
    (∃ near answer, FirstBest located (fun a b => a.1 < b.1) (fun a b => a.1 ≤ b.1) near
        ["COLONIA", "Raxxla", "Jackson"] ∧
      outcome nearest [Circuit.delivery, supplies] = .ok (some answer) ∧
      answer.system = some "Jackson") ∧
    (∃ far answer, FirstBest located (fun a b => b.1 < a.1) (fun a b => b.1 ≤ a.1) far
        ["COLONIA", "Raxxla", "Jackson"] ∧
      outcome farthest [Circuit.delivery, supplies] = .ok (some answer) ∧
      answer.system = some "Colonia") ∧
    (∃ origin answer, FirstBest located (fun a b => a.1 < b.1) (fun a b => a.1 ≤ b.1) origin
        ["Jackson"] ∧
      outcome source [Circuit.delivery, supplies] = .ok (some answer) ∧
      answer.system = some "Jackson") ∧
    outcome source [supplies] = .ok none := by
  intro located outcome
  have selected (missions : List Mission) := @extremes_selected Chart.frontier.look
    ⟨Chart.frontier.atlas, TravellerState.traveller {}, missions, {}⟩ Chart.sol.waypoint
    Chart.sol.position Chart.frontier.looksUp (fun _ _ => Chart.frontier.look_congr) rfl
  have both := selected [Circuit.delivery, supplies] (numbers_of_all (by decide +kernel))
  refine ⟨?_, ?_, ?_, ?_⟩
  · obtain ⟨near, answer, first, answered, -, named⟩ := (both { type := .nearest }).1.exists_of_any
      (p := fun answer => answer.system == some "Jackson") (by decide +kernel)
    exact ⟨near, answer, first, answered, beq_iff_eq.1 named⟩
  · obtain ⟨far, answer, first, answered, -, named⟩ :=
      (both { type := .farthest }).2.1.exists_of_any
        (p := fun answer => answer.system == some "Colonia") (by decide +kernel)
    exact ⟨far, answer, first, answered, beq_iff_eq.1 named⟩
  · obtain ⟨origin, answer, first, answered, -, named⟩ :=
      (both { type := .source }).2.2.exists_of_any
        (p := fun answer => answer.system == some "Jackson") (by decide +kernel)
    exact ⟨origin, answer, first, answered, beq_iff_eq.1 named⟩
  · have alone := selected [supplies] (numbers_of_all (by decide +kernel))
    exact (alone { type := .source }).2.2.unanswered_iff.2 (List.forall_mem_nil _)

end Resolver

end Astrogation
