import Astrogation.Chart.Search
import Astrogation.Proofs.Resolver.Selected

/-!
# Distances which cannot be compared

With a NaN on either side, `compareDistance` puts what is on the left last
(`compareDistance_of_not_numbers`). So the other way round is the opposite only between numbers
(`compareDistance_swap_iff`). Coming no later than another is to be no greater, and so transitive
(`compareDistance_ne_gt_iff`).

What is chosen then depends on the order of the candidates. A NaN neither is nearer than the
nearest so far nor yields to anything nearer: so it is passed over, unless it comes first
(`prefersNumbers_iff`). In a search for the farthest candidate, and in the searches on a chart, it
takes over and yields to whatever comes next, so that all before it is forgotten
(`chooseByDistance_farthest_of_isNaN`, `Chart.nearestScoopable?_of_isNaN`,
`Chart.nearestStation?_of_isNaN`). Between finite coordinates there are only numbers
(`Waypoint.numbered_eq_measured`).
-/

namespace Astrogation

open Floating

/-! ## Two distances -/

section

variable {a b : Float}

theorem compareDistance_of_not_numbers (h : ¬(IsNumber a ∧ IsNumber b)) :
    compareDistance a b = .gt := by
  rw [compareDistance, if_neg fun less => h (double_lt_iff.1 less).1,
    if_neg fun same => h (double_beq_iff.1 same).1]

theorem compareDistance_of_isNaN (h : a.isNaN = true ∨ b.isNaN = true) :
    compareDistance a b = .gt := by
  rw [isNaN_iff, isNaN_iff, ← not_and_or] at h
  exact compareDistance_of_not_numbers h

theorem compareDistance_ne_gt_iff : compareDistance a b ≠ .gt ↔ a ≤ b := by
  by_cases numbers : IsNumber a ∧ IsNumber b
  · rw [Ne, (compareDistance_compares numbers.1 numbers.2).eq_gt, not_lt, double_le_iff,
      and_iff_right numbers]
  · refine iff_of_false (not_not.2 (compareDistance_of_not_numbers numbers)) fun le => ?_
    exact numbers (double_le_iff.1 le).1

theorem compareDistance_swap_iff :
    compareDistance b a = (compareDistance a b).swap ↔ a.isNaN = false ∧ b.isNaN = false := by
  rw [isNaN_eq_false_iff, isNaN_eq_false_iff]
  by_cases numbers : IsNumber a ∧ IsNumber b
  · refine iff_of_true ?_ numbers
    have there := compareDistance_compares numbers.1 numbers.2
    have back := compareDistance_compares numbers.2 numbers.1
    exact back.inj (Ordering.compares_swap.2 there)
  · refine iff_of_false (fun same => ?_) numbers
    rw [compareDistance_of_not_numbers numbers,
      compareDistance_of_not_numbers (mt And.symm numbers)] at same
    cases same

end

/-! ## The choice among candidates -/

namespace Extreme

variable {x y : Float}

theorem nearest_yields_of_isNaN (h : x.isNaN = true ∨ y.isNaN = true) :
    nearest.yields x y = false := by
  rw [yields, compareDistance_of_isNaN h.symm]
  rfl

theorem farthest_yields_of_isNaN (h : x.isNaN = true ∨ y.isNaN = true) :
    farthest.yields x y = true := by
  rw [yields, compareDistance_of_isNaN h.symm]
  rfl

end Extreme

namespace Waypoint

/-- A candidate with the distance from the start by which it is ranked. -/
def measured (start : Waypoint) (policy : UnknownDistance) (w : Waypoint) :
    Option (Float × Waypoint) :=
  (policy.apply (start.distance? w)).map (·, w)

/-- A candidate with this distance, if it is a number. -/
def numbered (start : Waypoint) (policy : UnknownDistance) (w : Waypoint) :
    Option (Float × Waypoint) :=
  (start.measured policy w).filter fun found => !found.1.isNaN

end Waypoint

variable {start : Waypoint} {policy : UnknownDistance} {extreme : Extreme}
  {candidates before after : List Waypoint} {w : Waypoint} {first found : Float × Waypoint}

theorem Waypoint.numbered_eq_some_iff : start.numbered policy w = some found ↔
    start.measured policy w = some found ∧ found.1.isNaN = false := by
  rw [numbered, Option.filter_eq_some_iff, Bool.not_eq_true']

theorem chooseByDistance_eq : chooseByDistance start policy extreme candidates =
    (champion? (fun best other => extreme.yields best.1 other.1)
      (candidates.filterMap (start.measured policy))).map (·.2) := rfl

/-- Candidates at numbers are those that are left without those at NaN. -/
theorem filterMap_numbered (candidates : List Waypoint) :
    candidates.filterMap (start.numbered policy) =
      (candidates.filterMap (start.measured policy)).filter fun found => !found.1.isNaN :=
  List.filter_filterMap.symm

/-- If the first candidate with a distance is at NaN, it is chosen as the nearest. -/
theorem chooseByDistance_nearest_of_isNaN
    (leads : (candidates.filterMap (start.measured policy)).head? = some first)
    (nan : first.1.isNaN = true) :
    chooseByDistance start policy .nearest candidates = some first.2 := by
  obtain ⟨others, split⟩ := List.head?_eq_some_iff.1 leads
  have stays : champion? (fun best other => Extreme.nearest.yields best.1 other.1)
      (first :: others) = some first :=
    champion?_cons_of_not_yields fun _ _ => Extreme.nearest_yields_of_isNaN (.inl nan)
  rw [chooseByDistance_eq, split, stays, Option.map_some]

/-- If it is at a number, one at a number is chosen: the first of the nearest of those. -/
theorem chooseByDistance_nearest_of_number
    (leads : (candidates.filterMap (start.measured policy)).head? = some first)
    (number : first.1.isNaN = false) :
    ∃ found, chooseByDistance start policy .nearest candidates = some found.2 ∧
      FirstBest (start.numbered policy) (fun x y => x.1 < y.1) (fun x y => x.1 ≤ y.1)
        found candidates := by
  obtain ⟨others, split⟩ := List.head?_eq_some_iff.1 leads
  have numbers : candidates.filterMap (start.numbered policy) =
      first :: others.filter fun found => !found.1.isNaN := by
    rw [filterMap_numbered, split, List.filter_cons, number]
    rfl
  have kept : chooseByDistance start policy .nearest candidates =
      (champion? (fun best other => Extreme.nearest.yields best.1 other.1)
        (candidates.filterMap (start.numbered policy))).map (·.2) := by
    rw [chooseByDistance_eq, split, numbers, champion?_cons_filter fun other _ nan best => ?_]
    exact Extreme.nearest_yields_of_isNaN (.inr (by simpa using nan))
  cases found? : champion? (fun best other : Float × Waypoint =>
      Extreme.nearest.yields best.1 other.1) (candidates.filterMap (start.numbered policy)) with
  | none =>
    rw [numbers] at found?
    cases found?
  | some found =>
    rw [found?] at kept
    refine ⟨found, kept, Resolver.firstBest_of_extreme (fun w _ found h => ?_) found?⟩
    exact (Waypoint.numbered_eq_some_iff.1 h).2

/-- The choice of the nearest candidate only falls on one at NaN if there is none at a number. -/
def PrefersNumbers (start : Waypoint) (policy : UnknownDistance) (candidates : List Waypoint) :
    Prop :=
  ∀ found d, chooseByDistance start policy .nearest candidates = some found →
    policy.apply (start.distance? found) = some d → d.isNaN = true →
    ∀ w ∈ candidates, start.numbered policy w = none

/-- Numbers are preferred unless the first candidate with a distance is at NaN. -/
theorem prefersNumbers_iff : PrefersNumbers start policy candidates ↔
    ∀ first, (candidates.filterMap (start.measured policy)).head? = some first →
      first.1.isNaN = true → ∀ w ∈ candidates, start.numbered policy w = none := by
  constructor
  · intro prefers first leads nan
    obtain ⟨w, -, hw⟩ := List.mem_filterMap.1 (List.mem_of_head? leads)
    obtain ⟨d, hd, rfl⟩ := Option.map_eq_some_iff.1 hw
    exact prefers w d (chooseByDistance_nearest_of_isNaN leads nan) hd nan
  · intro numbersFirst found d chosen hd nan
    cases leads : (candidates.filterMap (start.measured policy)).head? with
    | none =>
      rw [chooseByDistance_eq, List.head?_eq_none_iff.1 leads] at chosen
      cases chosen
    | some first =>
      cases number : first.1.isNaN with
      | true => exact numbersFirst first leads number
      | false =>
        -- What is chosen then is at a number.
        obtain ⟨x, chosen', best⟩ := chooseByDistance_nearest_of_number leads number
        obtain ⟨w, -, hw⟩ := best.exists_item
        obtain ⟨measured, number⟩ := Waypoint.numbered_eq_some_iff.1 hw
        obtain ⟨d', hd', rfl⟩ := Option.map_eq_some_iff.1 measured
        obtain rfl := Option.some.inj (chosen.symm.trans chosen')
        obtain rfl := Option.some.inj (hd.symm.trans hd')
        cases nan.symm.trans number

/-- Once a candidate is at NaN, those before it do not count for the farthest, and it is chosen if
    none comes after it. -/
theorem chooseByDistance_farthest_of_isNaN {d : Float}
    (here : policy.apply (start.distance? w) = some d) (nan : d.isNaN = true) :
    chooseByDistance start policy .farthest (before ++ w :: after) =
      some ((chooseByDistance start policy .farthest after).getD w) := by
  have there : start.measured policy w = some (d, w) := by
    rw [Waypoint.measured, here, Option.map_some]
  have forgotten (front back : List (Float × Waypoint)) :
      champion? (fun best other => Extreme.farthest.yields best.1 other.1)
          (front ++ (d, w) :: back) =
        some ((champion? (fun best other => Extreme.farthest.yields best.1 other.1) back).getD
          (d, w)) :=
    champion?_append_cons (fun _ => Extreme.farthest_yields_of_isNaN (.inr nan))
      fun _ => Extreme.farthest_yields_of_isNaN (.inl nan)
  rw [chooseByDistance_eq, List.filterMap_append, List.filterMap_cons_some there, forgotten,
    chooseByDistance_eq]
  cases champion? _ (after.filterMap (start.measured policy)) <;> rfl

theorem Waypoint.exists_of_distance? {d : Float} (h : start.distance? w = some d) :
    ∃ p q, start.position? = some p ∧ w.position? = some q ∧ p.distanceTo q = d := by
  cases hp : start.position? with
  | none =>
    have unknown : start.coordinates.position? = none := hp
    rw [distance?, Coordinates.distance?, unknown] at h
    cases h
  | some p =>
    rw [distance?_of_position? hp, Option.map_eq_some_iff] at h
    obtain ⟨q, hq, same⟩ := h
    exact ⟨p, q, rfl, hq, same⟩

/-- Between finite coordinates, all distances are numbers. -/
theorem Waypoint.numbered_eq_measured (finite : ∀ p, start.position? = some p → Floating.IsFinite p)
    (finite' : ∀ p, w.position? = some p → Floating.IsFinite p) :
    start.numbered policy w = start.measured policy w := by
  have number : ∀ d, policy.apply (start.distance? w) = some d → d.isNaN = false := by
    intro d hd
    cases far : start.distance? w with
    | none =>
      rw [far] at hd
      cases policy <;> cases hd
      decide +kernel
    | some distance =>
      rw [far, UnknownDistance.apply, Option.some.injEq] at hd
      obtain ⟨p, q, hp, hq, rfl⟩ := exists_of_distance? far
      have nonneg := distanceTo_isNonneg (finite p hp).isNumber (finite' q hq)
      exact isNaN_eq_false_iff.2 (hd ▸ nonneg.ne_notANumber)
  cases ranked : policy.apply (start.distance? w) with
  | none => rw [numbered, measured, ranked, Option.map_none, Option.filter_none]
  | some d =>
    rw [numbered, measured, ranked, Option.map_some, Option.filter_some, number d ranked]
    rfl

/-! ## Searches on a chart -/

namespace Chart

variable {c : Chart} {point : Position} {filter : SearchFilter}

/-- The nearest of some stars. -/
def nearestStar? (point : Position) (stars : List StarSystem) : Option StarSystem :=
  champion? (fun best s => yieldsTo (point.distanceTo best.position) (point.distanceTo s.position))
    stars

/-- The best of some stations. -/
def bestStation? (preferOrbital : Bool) (stations : List StationCandidate) :
    Option StationCandidate :=
  champion? (fun best s => compareStations preferOrbital best s == .gt) stations

/-- No distance within a radius is NaN. -/
theorem not_isNaN_of_mem_withinRadius {radius : Float} {n : Neighbour}
    (h : n ∈ c.withinRadius point radius) : n.distance.isNaN = false := by
  rw [withinRadius] at h
  split at h
  · cases h
  · have kept := (ranked_perm _ _).subset h
    have le := decide_eq_true_iff.1 (List.mem_filter.1 kept).2
    exact isNaN_eq_false_iff.2 (double_le_iff.1 le).1.1

/-- Once a star is at NaN, those before it do not count. -/
theorem nearestScoopable?_of_isNaN {before after : List StarSystem} {s : StarSystem}
    (split : c.systems.filter (·.scoopable) = before ++ s :: after)
    (nan : (point.distanceTo s.position).isNaN = true) :
    c.nearestScoopable? point none = some ((nearestStar? point after).getD s) := by
  have yields {x y : Float} (h : x.isNaN = true ∨ y.isNaN = true) : yieldsTo x y = true := by
    rw [yieldsTo, compareDistance_of_isNaN h]
    rfl
  rw [nearestScoopable?, split]
  exact champion?_append_cons (fun _ => yields (.inr nan)) fun _ => yields (.inl nan)

/-- Once a station is in a system at NaN, those before it do not count. -/
theorem nearestStation?_of_isNaN {before after : List StationCandidate} {s : StationCandidate}
    (split : c.stationCandidates point filter = before ++ s :: after)
    (nan : s.distance.isNaN = true) :
    c.nearestStation? point filter = some ((bestStation? filter.preferOrbital after).getD s) := by
  have last {x y : StationCandidate} (h : x.distance.isNaN = true ∨ y.distance.isNaN = true) :
      (compareStations filter.preferOrbital x y == .gt) = true := by
    rw [compareStations, compareDistance_of_isNaN h]
    rfl
  rw [nearestStation?, split]
  exact champion?_append_cons (fun _ => last (.inr nan)) fun _ => last (.inl nan)

end Chart

/-! ## All comparisons -/

/-- Distances are compared the same way from both sides if and only if both are numbers; at a NaN
    the one on the left comes last. To come no later is transitive all the same.

    Numbers are preferred for the nearest unless the first candidate with a distance is at NaN,
    which then is chosen; else the first of the nearest of those at numbers is. In the searches for
    the farthest, for a star and for a station, one at NaN makes forget those before it, but what is
    sorted is within a radius and so at numbers. Between finite coordinates numbers are preferred,
    as there are no others. -/
theorem distances_compared (a b c : Float) (start : Waypoint) (policy : UnknownDistance)
    (candidates : List Waypoint) :
    (compareDistance b a = (compareDistance a b).swap ↔ a.isNaN = false ∧ b.isNaN = false) ∧
    (a.isNaN = true ∨ b.isNaN = true → compareDistance a b = .gt) ∧
    (compareDistance a b ≠ .gt → compareDistance b c ≠ .gt → compareDistance a c ≠ .gt) ∧
    (PrefersNumbers start policy candidates ↔
      ∀ first, (candidates.filterMap (start.measured policy)).head? = some first →
        first.1.isNaN = true → ∀ w ∈ candidates, start.numbered policy w = none) ∧
    (∀ first, (candidates.filterMap (start.measured policy)).head? = some first →
      (first.1.isNaN = true →
        chooseByDistance start policy .nearest candidates = some first.2) ∧
      (first.1.isNaN = false →
        ∃ found, chooseByDistance start policy .nearest candidates = some found.2 ∧
          FirstBest (start.numbered policy) (fun x y => x.1 < y.1) (fun x y => x.1 ≤ y.1)
            found candidates)) ∧
    (∀ before w after d, candidates = before ++ w :: after →
      policy.apply (start.distance? w) = some d → d.isNaN = true →
      chooseByDistance start policy .farthest candidates =
        some ((chooseByDistance start policy .farthest after).getD w)) ∧
    (∀ (chart : Chart) point radius, ∀ n ∈ chart.withinRadius point radius,
      n.distance.isNaN = false) ∧
    (∀ (chart : Chart) point before s after,
      chart.systems.filter (·.scoopable) = before ++ s :: after →
      (point.distanceTo s.position).isNaN = true →
      chart.nearestScoopable? point none = some ((Chart.nearestStar? point after).getD s)) ∧
    (∀ (chart : Chart) point filter before s after,
      chart.stationCandidates point filter = before ++ s :: after → s.distance.isNaN = true →
      chart.nearestStation? point filter =
        some ((Chart.bestStation? filter.preferOrbital after).getD s)) ∧
    ((∀ p, start.position? = some p → Floating.IsFinite p) →
      (∀ w ∈ candidates, ∀ p, w.position? = some p → Floating.IsFinite p) →
      (∀ w ∈ candidates, start.numbered policy w = start.measured policy w) ∧
        PrefersNumbers start policy candidates) := by
  refine ⟨compareDistance_swap_iff, compareDistance_of_isNaN, fun h h' => ?_, prefersNumbers_iff,
    fun first leads =>
      ⟨chooseByDistance_nearest_of_isNaN leads, chooseByDistance_nearest_of_number leads⟩,
    fun before w after d split => split ▸ chooseByDistance_farthest_of_isNaN,
    fun chart point radius n => Chart.not_isNaN_of_mem_withinRadius,
    fun chart point before s after => Chart.nearestScoopable?_of_isNaN,
    fun chart point filter before s after => Chart.nearestStation?_of_isNaN,
    fun finite finite' => ?_⟩
  · rw [compareDistance_ne_gt_iff] at h h' ⊢
    exact double_le_trans h h'
  · have numbers : ∀ w ∈ candidates, start.numbered policy w = start.measured policy w :=
      fun w hw => Waypoint.numbered_eq_measured finite (finite' w hw)
    refine ⟨numbers, prefersNumbers_iff.2 fun first leads nan => ?_⟩
    obtain ⟨w, hw, measured⟩ := List.mem_filterMap.1 (List.mem_of_head? leads)
    obtain ⟨-, number⟩ := Waypoint.numbered_eq_some_iff.1 ((numbers w hw).trans measured)
    cases nan.symm.trans number

/-- A system on a chart that was lost. -/
def lost : Waypoint := { systemName := "Charybdis", coordinates := ⟨some (0 / 0), some 0, some 0⟩ }

/-- Between one and NaN each comes after the other, and from Sol a system at NaN is preferred to
    Jackson at five light-years. -/
theorem lost_before_jackson :
    compareDistance 1 (0 / 0) = .gt ∧ compareDistance (0 / 0) 1 = .gt ∧
    (Chart.sol.waypoint.distance? lost).any (·.isNaN) = true ∧
    (Chart.sol.waypoint.distance? Chart.jackson.waypoint).any (·.isNaN) = false ∧
    (chooseByDistance Chart.sol.waypoint .exclude .nearest [lost, Chart.jackson.waypoint]).map
      (·.systemName) = some "Charybdis" := by
  decide +kernel

end Astrogation
