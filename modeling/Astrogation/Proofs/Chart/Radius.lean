import Astrogation.Proofs.Chart.Margin
import Astrogation.Proofs.Chart.Systems
import Astrogation.Proofs.Ranking

/-!
# Radius searches

On a chart of finite coordinates, a search within a radius lists nothing but systems within it,
the nearest first and at equal distances in the order of the chart. It is *complete* if
it lists all of them, which determines the list (`Chart.Lists.unique`). The distances of what the
index finds are measured exactly, so a search is complete if and only if the index loses no
system within the radius (`Chart.Reaches`). The search for the nearest star to scoop fuel
from then agrees with the one without a radius (`Chart.nearestScoopable?_some`).

The index loses none as long as all coordinates are small, or the radius is
(`Chart.Central.reaches`). It need not find a system far from the origin, where the spacing of
the numbers in single precision exceeds the margin of the index.
-/

namespace Astrogation

open Floating

/-- In front of another neighbour: by the distance, and if this is the same by the
    place on the chart. -/
def Neighbour.Precedes (a b : Neighbour) : Prop :=
  a.distance < b.distance ∨ a.distance == b.distance ∧ a.index < b.index

theorem Neighbour.Precedes.asymm {a b : Neighbour} (h : a.Precedes b) : ¬b.Precedes a := by
  rw [Precedes, double_lt_iff, double_beq_iff] at h ⊢
  rintro (⟨-, lt'⟩ | ⟨⟨-, eq'⟩, index'⟩)
  · rcases h with ⟨-, lt⟩ | ⟨⟨-, eq⟩, -⟩
    · exact lt_asymm lt lt'
    · exact lt'.ne' eq
  · rcases h with ⟨-, lt⟩ | ⟨-, index⟩
    · exact lt.ne' eq'
    · exact lt_asymm index index'

namespace Chart

variable (c : Chart) (point : Position) (radius : Float)

/-- A neighbour of a point with its place on the chart and its distance. -/
def Measures (n : Neighbour) : Prop :=
  c.systems[n.index]? = some n.system ∧ n.distance = point.distanceTo n.system.position

/-- A list of all systems within a radius of a point, the nearest first; at equal distances, in
    the order of the chart. -/
structure Lists (l : List Neighbour) : Prop where
  mem_iff : ∀ n, n ∈ l ↔ c.Measures point n ∧ n.distance ≤ radius
  sorted : l.Pairwise Neighbour.Precedes

/-- Whether the index finds a system within a radius of a point. -/
def covers (s : StarSystem) : Bool :=
  (SinglePoint.ofPosition point).squaredDistance (SinglePoint.ofPosition s.position) ≤
    widenedSquare radius

/-- The index finds every system within a radius of a point. -/
def Reaches : Prop :=
  ∀ s ∈ c.systems, point.distanceTo s.position ≤ radius → covers point radius s

/-- All systems as neighbours of a point, in the order of the chart. -/
def measured : List Neighbour :=
  c.systems.zipIdx.map fun (s, i) => ⟨i, s, point.distanceTo s.position⟩

variable {c point radius}

theorem Lists.nodup {l : List Neighbour} (h : c.Lists point radius l) : l.Nodup :=
  h.sorted.imp fun {a b} hab (same : a = b) => hab.asymm (same ▸ hab)

/-- There is one such list only. -/
theorem Lists.unique {l l' : List Neighbour} (h : c.Lists point radius l)
    (h' : c.Lists point radius l') : l = l' := by
  have hperm : l.Perm l' := (List.perm_ext_iff_of_nodup h.nodup h'.nodup).2 fun n =>
    (h.mem_iff n).trans (h'.mem_iff n).symm
  exact hperm.eq_of_pairwise (fun a b _ _ hab hba => absurd hba hab.asymm) h.sorted h'.sorted

theorem mem_measured {n : Neighbour} : n ∈ c.measured point ↔ c.Measures point n := by
  rw [measured, List.mem_map]
  constructor
  · rintro ⟨⟨s, i⟩, hs, rfl⟩
    exact ⟨List.mem_zipIdx_iff_getElem?.1 hs, rfl⟩
  · rintro ⟨hs, hd⟩
    exact ⟨(n.system, n.index), List.mem_zipIdx_iff_getElem?.2 hs,
      (congrArg (Neighbour.mk n.index n.system) hd).symm⟩

theorem Measures.mem {n : Neighbour} (h : c.Measures point n) : n.system ∈ c.systems :=
  List.mem_of_getElem? h.1

theorem measured_pairwise (c : Chart) (point : Position) :
    (c.measured point).Pairwise fun a b => a.index < b.index := by
  rw [measured, List.pairwise_map]
  have h : (c.systems.zipIdx.map Prod.snd).Pairwise (· < ·) := by
    rw [List.zipIdx_map_snd]
    exact List.pairwise_lt_range' 1
  exact List.pairwise_map.1 h

theorem Reaches.filter_covers (h : c.Reaches point radius) :
    ((c.measured point).filter (·.distance ≤ radius)).filter (covers point radius ·.system) =
      (c.measured point).filter (·.distance ≤ radius) := by
  rw [List.filter_eq_self]
  intro n hn
  obtain ⟨hn, hle⟩ := List.mem_filter.1 hn
  have hm := mem_measured.1 hn
  rw [decide_eq_true_eq, hm.2] at hle
  exact h n.system hm.mem hle

/-! ## Distances on a chart -/

section

variable (finite : ∀ s ∈ c.systems, IsFinite s.position)
include finite

/-- Distances from a point are compared by their places, unless they are all NaN. -/
theorem number_of_measures {n : Neighbour} (hp : OnAxes IsNumber point) (h : c.Measures point n) :
    IsNumber n.distance := by
  rw [h.2]
  exact (distanceTo_isNonneg hp (finite _ h.mem)).ne_notANumber

theorem distance_nonneg {n : Neighbour} (h : c.Measures point n) : ¬n.distance < 0 := by
  rw [h.2, double_lt_iff]
  rintro ⟨⟨hn, -⟩, hlt⟩
  have hp : OnAxes IsNumber point := by
    by_contra hp
    exact distanceTo_isNaN hp hn
  exact absurd (distanceTo_isNonneg hp (finite _ h.mem)).rank_nonneg hlt.not_ge

end

/-- Distances which are numbers are compared by their places. -/
theorem comparesBy_distance {l : List Neighbour} (h : ∀ n ∈ l, IsNumber n.distance) :
    ComparesBy (fun a b => a.distance ≤ b.distance) (fun n : Neighbour => place n.distance) l :=
  fun a ha b hb => by
    rw [decide_eq_true_eq, double_le_iff, and_iff_right ⟨h a ha, h b hb⟩]

theorem precedes_of_before {l : List Neighbour} (h : ∀ n ∈ l, IsNumber n.distance) {a b : Neighbour}
    (ha : a ∈ l) (hb : b ∈ l)
    (hab : Before (fun n => place n.distance) (fun a b => a.index < b.index) a b) :
    a.Precedes b := by
  have hn : IsNumber a.distance ∧ IsNumber b.distance := ⟨h a ha, h b hb⟩
  rw [Neighbour.Precedes, double_lt_iff, double_beq_iff]
  exact hab.imp (fun h => ⟨hn, h⟩) fun ⟨he, hi⟩ => ⟨⟨hn, he⟩, hi⟩

theorem number_of_le {d : Float} (h : d ≤ radius) : IsNumber d := (double_le_iff.1 h).1.1

/-- A search ranks what the index finds within the radius. -/
theorem withinRadius_eq (finite : ∀ s ∈ c.systems, IsFinite s.position) :
    c.withinRadius point radius = ranked (fun a b => a.distance ≤ b.distance)
      (((c.measured point).filter (·.distance ≤ radius)).filter
        (covers point radius ·.system)) := by
  rw [withinRadius]
  split_ifs with hneg
  · have hnone : (c.measured point).filter (·.distance ≤ radius) = [] := by
      rw [List.filter_eq_nil_iff]
      intro n hn
      rw [decide_eq_true_eq]
      intro hle
      refine distance_nonneg finite (mem_measured.1 hn) ?_
      rw [double_le_iff] at hle
      rw [double_lt_iff] at hneg ⊢
      exact ⟨⟨hle.1.1, hneg.1.2⟩, hle.2.trans_lt hneg.2⟩
    rw [hnone]
    rfl
  · have hcandidates : (c.candidates point radius).map
        (fun (s, i) => Neighbour.mk i s (point.distanceTo s.position)) =
        (c.measured point).filter (covers point radius ·.system) := by
      rw [measured, List.filter_map]
      rfl
    rw [hcandidates, List.filter_comm]

section

variable (finite : ∀ s ∈ c.systems, IsFinite s.position)
include finite

theorem mem_withinRadius_iff {n : Neighbour} : n ∈ c.withinRadius point radius ↔
    (c.Measures point n ∧ n.distance ≤ radius) ∧ covers point radius n.system := by
  rw [withinRadius_eq finite, (ranked_perm _ _).mem_iff, List.mem_filter, List.mem_filter,
    mem_measured, decide_eq_true_eq]

theorem sorted_withinRadius : (c.withinRadius point radius).Pairwise Neighbour.Precedes := by
  have hnum : ∀ n ∈ c.withinRadius point radius, IsNumber n.distance := fun n hn =>
    number_of_le ((mem_withinRadius_iff finite).1 hn).1.2
  rw [withinRadius_eq finite] at hnum ⊢
  have hcompares := comparesBy_distance fun n hn => hnum n ((ranked_perm _ _).mem_iff.2 hn)
  have hindex := ((measured_pairwise c point).filter (·.distance ≤ radius)).filter
    (covers point radius ·.system)
  exact (pairwise_ranked hcompares hindex).imp_of_mem fun ha hb h => precedes_of_before hnum ha hb h

/-- A search lists all systems within the radius just if the index loses none of them. -/
theorem lists_withinRadius_iff :
    c.Lists point radius (c.withinRadius point radius) ↔ c.Reaches point radius := by
  constructor
  · intro h s hs hle
    obtain ⟨i, hi⟩ := List.getElem?_of_mem hs
    have hn := (h.mem_iff ⟨i, s, point.distanceTo s.position⟩).2 ⟨⟨hi, rfl⟩, hle⟩
    exact ((mem_withinRadius_iff finite).1 hn).2
  · intro h
    refine ⟨fun n => ?_, sorted_withinRadius finite⟩
    rw [mem_withinRadius_iff finite, and_iff_left_iff_imp]
    rintro ⟨hn, hle⟩
    exact h n.system hn.mem (hn.2 ▸ hle)

end

/-! ## The nearest star to scoop fuel from -/

theorem yieldsTo_iff {x y : Float} (hx : IsNumber x) (hy : IsNumber y) :
    yieldsTo x y ↔ place y < place x := by
  rw [yieldsTo, beq_iff_eq, (compareDistance_compares hx hy).eq_gt]

theorem yieldsBy_distance (h : ∀ n ∈ c.measured point, IsNumber n.distance) :
    YieldsBy (fun a b => yieldsTo (point.distanceTo a.system.position)
      (point.distanceTo b.system.position)) (fun n => place n.distance) (c.measured point) := by
  intro a ha b hb
  dsimp only
  rw [← (mem_measured.1 ha).2, ← (mem_measured.1 hb).2]
  exact yieldsTo_iff (h a ha) (h b hb)

/-- The nearest star is the champion of those in the surroundings. -/
theorem nearestScoopable?_none : c.nearestScoopable? point none =
    (champion? (fun a b => yieldsTo (point.distanceTo a.system.position)
        (point.distanceTo b.system.position))
      ((c.measured point).filter (·.system.scoopable))).map (·.system) := by
  have hsystems : c.systems = (c.measured point).map (·.system) := by
    rw [measured, List.map_map]
    exact (List.zipIdx_map_fst 0 c.systems).symm
  rw [nearestScoopable?, hsystems, List.filter_map, champion?_map]
  rfl

/-- Of systems sorted by their distances, the first within a radius is the first, if any is. -/
theorem head?_filter_distance {l : List Neighbour} (hnum : ∀ n ∈ l, IsNumber n.distance) :
    ((ranked (fun a b => a.distance ≤ b.distance) l).filter (·.distance ≤ radius)).head? =
      (ranked (fun a b => a.distance ≤ b.distance) l).head?.filter (·.distance ≤ radius) := by
  have hp := ranked_perm (fun a b : Neighbour => a.distance ≤ b.distance) l
  have hsorted := pairwise_ranked_le (comparesBy_distance hnum)
  refine head?_filter_of_sorted hsorted fun a ha b hb hab h => ?_
  rw [decide_eq_true_eq, double_le_iff] at h ⊢
  exact ⟨⟨hnum a (hp.subset ha), h.1.2⟩, hab.trans h.2⟩

/-- The search within a radius finds the nearest star there is, if this is within the radius. -/
theorem nearestScoopable?_some (finite : ∀ s ∈ c.systems, IsFinite s.position)
    (h : c.Reaches point radius) :
    c.nearestScoopable? point (some radius) =
      (c.nearestScoopable? point none).filter fun s => point.distanceTo s.position ≤ radius := by
  by_cases hp : OnAxes IsNumber point
  · have hnum : ∀ n ∈ c.measured point, IsNumber n.distance := fun n hn =>
      number_of_measures finite hp (mem_measured.1 hn)
    have hcompares := comparesBy_distance hnum
    have hkept := List.filter_subset_self (c.measured point) (p := (·.distance ≤ radius))
    have hscoopable := List.filter_subset_self (c.measured point) (p := (·.system.scoopable))
    rw [nearestScoopable?, withinRadius_eq finite, h.filter_covers, ← List.head?_filter,
      filter_ranked _ (hcompares.subset hkept), List.filter_comm,
      ← filter_ranked _ (hcompares.subset hscoopable),
      head?_filter_distance fun n hn => hnum n (hscoopable hn),
      head?_ranked (hcompares.subset hscoopable) ((yieldsBy_distance hnum).subset hscoopable),
      nearestScoopable?_none]
    cases hn : champion? _ ((c.measured point).filter (·.system.scoopable)) with
    | none => rfl
    | some n =>
      have hm := mem_measured.1 (hscoopable (mem_of_champion? hn))
      rw [Option.map_some, Option.filter_some, Option.filter_some, hm.2]
      split_ifs <;> rfl
  · have hnone : c.withinRadius point radius = [] := List.eq_nil_iff_forall_not_mem.2 fun n hn => by
      obtain ⟨⟨hm, hle⟩, -⟩ := (mem_withinRadius_iff finite).1 hn
      exact distanceTo_isNaN hp (hm.2 ▸ number_of_le hle)
    rw [nearestScoopable?, hnone, eq_comm]
    refine Option.filter_eq_none_iff.2 fun s _ => ?_
    rw [decide_eq_true_eq]
    exact fun hle => distanceTo_isNaN hp (number_of_le hle)

/-! ## Close to the origin -/

/-- A point and the systems of a chart are close to the origin for a search within a radius: no
    coordinate is large, and the larger the coordinates are, the smaller is the radius. -/
structure Central (c : Chart) (point : Position) (radius : Float) (b : ℝ) : Prop where
  point : Moderate b point
  systems : ∀ s ∈ c.systems, Moderate b s.position
  radius : b ≤ 1024 ∨ radius.isFinite ∧ 36 * b + 32 * value (ofDouble radius) ≤ 166000

/-- Two points of moderate coordinates are not far apart. -/
theorem distanceTo_le_of_moderate {p q : Position} {b : ℝ} (hp : Moderate b p)
    (hq : Moderate b q) : p.inReals.distanceTo q.inReals ≤ 7 / 2 * b := by
  have hb : 0 ≤ b := (abs_nonneg _).trans hp.x.2
  have haxis {x y : ℝ} (hx : |x| ≤ b) (hy : |y| ≤ b) : |x - y| ≤ |(0 : ℝ) - 0| + 2 * b := by
    have := abs_sub x y
    rw [sub_self, abs_zero]
    linarith
  let origin : Position ℝ := ⟨0, 0, 0⟩
  have h : p.inReals.distanceTo q.inReals ≤ origin.distanceTo origin + 7 / 4 * (2 * b) :=
    Position.distanceTo_le_add (by linarith) (haxis hp.x.2 hq.x.2) (haxis hp.y.2 hq.y.2)
      (haxis hp.z.2 hq.z.2)
  rw [Position.distanceTo_self] at h
  linarith

/-- The index loses no system close to the origin. -/
theorem Central.reaches {b : ℝ} (h : c.Central point radius b) : c.Reaches point radius := by
  intro s hs hle
  have hp := h.point
  have hq := h.systems s hs
  have hb : 0 ≤ b := (abs_nonneg _).trans hp.x.2
  have hfar := distanceTo_le_of_moderate hp hq
  suffices hn : ∃ n, point.inReals.distanceTo s.position.inReals ≤ n ∧ b ≤ 2 ^ 13 ∧ n ≤ 2 ^ 14 ∧
      36 * b + 32 * n ≤ 167000 by
    obtain ⟨n, hn, hb', hn', hbn⟩ := hn
    exact decide_eq_true (found_of_moderate hp hq hb' hn hn' hbn hle)
  -- The distance is bounded by the coordinates, or else by the radius.
  rcases h.radius with hb' | ⟨hr, hbr⟩
  · exact ⟨7 / 2 * b, hfar, by linarith, by linarith, by linarith⟩
  · obtain ⟨-, hle⟩ := double_le_iff.1 hle
    have hreal : IsReal .binary64 (ofDouble radius) := ⟨canonical_ofDouble _, hr⟩
    have hd0 := (distanceTo_isNonneg hp.isNumber hq.isFinite).rank_nonneg
    rw [place, place, hreal.rank_eq] at hle
    have hr0 := EReal.coe_nonneg.1 (hd0.trans hle)
    obtain ⟨hreal', hdist⟩ := le_distanceTo_add hp.isFinite hq.isFinite
      (hfar.trans (by linarith))
    rw [hreal'.rank_eq, EReal.coe_le_coe_iff] at hle
    exact ⟨value (ofDouble radius) + 1 / 2 ^ 30, by linarith, by linarith, by linarith, by linarith⟩

/-! ## What searches find -/

/-- On a chart of finite coordinates, a search lists systems within the radius with their distances,
    the nearest first, and just the index can lose some of them. If it loses none, the nearest
    star to scoop fuel from is that of the search without a radius, unless this is too far away.
    Close to the origin, the index loses none. -/
theorem radius_search (finite : ∀ s ∈ c.systems, IsFinite s.position) :
    (∀ n ∈ c.withinRadius point radius, c.Measures point n ∧ n.distance ≤ radius) ∧
      (c.withinRadius point radius).Pairwise Neighbour.Precedes ∧
      (c.Lists point radius (c.withinRadius point radius) ↔ c.Reaches point radius) ∧
      (c.Reaches point radius → c.nearestScoopable? point (some radius) =
        (c.nearestScoopable? point none).filter fun s => point.distanceTo s.position ≤ radius) ∧
      ∀ b, c.Central point radius b → c.Reaches point radius :=
  ⟨fun _ hn => ((mem_withinRadius_iff finite).1 hn).1, sorted_withinRadius finite,
    lists_withinRadius_iff finite, nearestScoopable?_some finite, fun _ => Central.reaches⟩

/-- The search within five light-years from Sol lists Jackson, which is just that far away. -/
theorem radius_search_sol :
    (∀ s ∈ frontier.systems, IsFinite s.position) ∧
      frontier.Lists sol.position 5 (frontier.withinRadius sol.position 5) ∧
      (frontier.withinRadius sol.position 5).map (·.system.name) = ["Sol", "Jackson"] ∧
      (frontier.nearestScoopable? sol.position (some 5)).map (·.name) = some "Sol" := by
  have h0 : (0 : Float).isFinite ∧ |value (ofDouble 0)| ≤ 1024 :=
    ⟨rfl, by rw [show value (ofDouble 0) = 0 from rfl, abs_zero]; norm_num⟩
  have h5 : (5 : Float).isFinite ∧ |value (ofDouble 5)| ≤ 1024 := by
    have h : ofDouble 5 = .finite .positive 0x14000000000000 (-50) (by norm_num) := rfl
    rw [h, value_finite, unit, magnitude]
    exact ⟨rfl, by norm_num⟩
  have h20 : (20 : Float).isFinite ∧ |value (ofDouble 20)| ≤ 1024 := by
    have h : ofDouble 20 = .finite .positive 0x14000000000000 (-48) (by norm_num) := rfl
    rw [h, value_finite, unit, magnitude]
    exact ⟨rfl, by norm_num⟩
  have hmoderate : ∀ s ∈ frontier.systems, Moderate 1024 s.position := by
    simp only [frontier, List.forall_mem_cons]
    exact ⟨⟨h0, h0, h0⟩, ⟨h5, h0, h0⟩, ⟨h20, h0, h0⟩, fun _ hs => absurd hs List.not_mem_nil⟩
  have hcentral : frontier.Central sol.position 5 1024 :=
    ⟨hmoderate sol List.mem_cons_self, hmoderate, .inl le_rfl⟩
  have hfinite : ∀ s ∈ frontier.systems, IsFinite s.position :=
    fun s hs => (hmoderate s hs).isFinite
  obtain ⟨-, -, hlists, hnearest, hreaches⟩ :=
    @radius_search frontier sol.position 5 hfinite
  have h := hreaches 1024 hcentral
  refine ⟨hfinite, hlists.2 h, by decide +kernel, ?_⟩
  rw [hnearest h]
  decide +kernel

def outpost : StarSystem := { name := "Outpost", address := 1, position := ⟨0, 0, 66000.003⟩ }

def haven : StarSystem :=
  { name := "Haven", address := 2, position := ⟨0, 0, 66010.004⟩, scoopable := true }

/-- Two systems beyond the galactic rim. -/
def remote : Chart where
  systems := [outpost, haven]
  stations := []
  apart := by
    simp only [List.pairwise_cons, List.Pairwise.nil, StarSystem.Apart]
    decide

/-- Far from the origin the index loses a system within the radius. -/
theorem radius_search_incomplete :
    (∀ s ∈ remote.systems, IsFinite s.position) ∧
      outpost.position.distanceTo haven.position ≤ 10.002 ∧
      ¬remote.Lists outpost.position 10.002 (remote.withinRadius outpost.position 10.002) ∧
      remote.nearestScoopable? outpost.position (some 10.002) = none ∧
      (remote.nearestScoopable? outpost.position none).map (·.name) = some "Haven" := by
  have hle : outpost.position.distanceTo haven.position ≤ 10.002 := by decide +kernel
  refine ⟨?_, hle, fun h => ?_, ?_, ?_⟩
  · simp only [remote, List.forall_mem_cons]
    exact ⟨⟨rfl, rfl, rfl⟩, ⟨rfl, rfl, rfl⟩, fun _ hs => absurd hs List.not_mem_nil⟩
  · have hmem := (h.mem_iff ⟨1, haven, _⟩).2 ⟨⟨rfl, rfl⟩, hle⟩
    have hone : (remote.withinRadius outpost.position 10.002).map (·.index) = [0] := by
      decide +kernel
    have := List.mem_map_of_mem (f := (·.index)) hmem
    rw [hone] at this
    simp at this
  · decide +kernel
  · decide +kernel

end Chart

end Astrogation
