import Astrogation.Ranking
import Mathlib

/-!
# Rankings by a key

Where candidates are compared by a key of a linear order, their ranking is sorted by it, and
equally good ones stay in their order (`pairwise_ranked`). A ranking stays the same list
when some of the candidates are left out (`filter_ranked`). The champion is the first of it
(`head?_ranked`), and of the best candidates the one that came first
(`isFirstLeast_of_champion?`).

The comparison has to agree with the key on the candidates only (`ComparesBy`, `YieldsBy`):
numbers are compared like places on a line, but NaN is not. Candidates to whom no one yields may
be left out after the first (`champion?_cons_filter`); but of one who yields to everyone, and to
whom everyone yields, the champion is as if those before were not there (`champion?_append_cons`).
-/

namespace Astrogation

variable {α κ : Type} [LinearOrder κ]

/-- A ranking compares candidates by a key. -/
def ComparesBy (precedes : α → α → Bool) (key : α → κ) (xs : List α) : Prop :=
  ∀ x ∈ xs, ∀ y ∈ xs, precedes x y ↔ key x ≤ key y

/-- The best candidate yields to those of a smaller key. -/
def YieldsBy (yields : α → α → Bool) (key : α → κ) (xs : List α) : Prop :=
  ∀ x ∈ xs, ∀ y ∈ xs, yields x y ↔ key y < key x

/-- In front of another by the key, or if this is the same, by where it came. -/
def Before (key : α → κ) (came : α → α → Prop) (x y : α) : Prop :=
  key x < key y ∨ key x = key y ∧ came x y

variable {precedes yields : α → α → Bool} {key : α → κ} {came : α → α → Prop} {x y : α}
  {xs ys : List α}

theorem ComparesBy.subset (h : ComparesBy precedes key ys) (hs : xs ⊆ ys) :
    ComparesBy precedes key xs :=
  fun x hx y hy => h x (hs hx) y (hs hy)

theorem YieldsBy.subset (h : YieldsBy yields key ys) (hs : xs ⊆ ys) : YieldsBy yields key xs :=
  fun x hx y hy => h x (hs hx) y (hs hy)

theorem Before.le (h : Before key came x y) : key x ≤ key y := by
  rcases h with h | ⟨h, -⟩
  · exact h.le
  · exact h.le

theorem Before.of_le (h : key x ≤ key y) (hc : came x y) : Before key came x y :=
  h.lt_or_eq.imp_right fun h => ⟨h, hc⟩

/-! ## Sorted rankings -/

theorem pairwise_insertRanked (h : ComparesBy precedes key (x :: xs)) (hc : ∀ y ∈ xs, came x y)
    (hs : xs.Pairwise (Before key came)) :
    (insertRanked precedes x xs).Pairwise (Before key came) := by
  induction xs with
  | nil => exact List.pairwise_singleton ..
  | cons y ys ih =>
    obtain ⟨hy, hys⟩ := List.pairwise_cons.1 hs
    rw [insertRanked]
    split_ifs with hxy
    · have hle := (h x (by simp) y (by simp)).1 hxy
      refine .cons (fun z hz => ?_) hs
      rcases List.mem_cons.1 hz with rfl | hz'
      · exact .of_le hle (hc z hz)
      · exact .of_le (hle.trans (hy z hz').le) (hc z hz)
    · rw [h x (by simp) y (by simp), not_le] at hxy
      have hsub : x :: ys ⊆ x :: y :: ys := by simp
      refine .cons (fun z hz => ?_) (ih (h.subset hsub) (fun z hz => hc z (by simp [hz])) hys)
      rcases List.mem_cons.1 ((insertRanked_perm precedes x ys).subset hz) with rfl | hz
      · exact .inl hxy
      · exact hy z hz

/-- A ranking is sorted, and leaves equally good candidates in their order. -/
theorem pairwise_ranked (h : ComparesBy precedes key xs) (hc : xs.Pairwise came) :
    (ranked precedes xs).Pairwise (Before key came) := by
  induction xs with
  | nil => exact .nil
  | cons x xs ih =>
    obtain ⟨hx, hxs⟩ := List.pairwise_cons.1 hc
    have hp := ranked_perm precedes xs
    exact pairwise_insertRanked (h.subset (List.cons_subset_cons x hp.subset))
      (fun y hy => hx y (hp.subset hy)) (ih (h.subset (List.subset_cons_self x xs)) hxs)

theorem pairwise_ranked_le (h : ComparesBy precedes key xs) :
    (ranked precedes xs).Pairwise fun x y => key x ≤ key y :=
  have hc : xs.Pairwise fun _ _ => True := List.pairwise_of_forall fun _ _ => trivial
  (pairwise_ranked h hc).imp Before.le

/-- Candidates are ranked like what they are a view of. -/
theorem ranked_map {β : Type} (f : β → α) (zs : List β) :
    ranked precedes (zs.map f) = (ranked (fun a b => precedes (f a) (f b)) zs).map f := by
  have insert (z : β) (zs : List β) : insertRanked precedes (f z) (zs.map f) =
      (insertRanked (fun a b => precedes (f a) (f b)) z zs).map f := by
    induction zs with
    | nil => rfl
    | cons w zs ih =>
      rw [List.map_cons, insertRanked, insertRanked, ih]
      split_ifs <;> rfl
  induction zs with
  | nil => rfl
  | cons z zs ih => rw [List.map_cons, ranked, ih, insert, ranked]

/-! ## Leaving candidates out -/

theorem insertRanked_of_forall (h : ∀ y ∈ xs, precedes x y) :
    insertRanked precedes x xs = x :: xs := by
  cases xs with
  | nil => rfl
  | cons y ys => rw [insertRanked, if_pos (h y List.mem_cons_self)]

theorem filter_insertRanked (keep : α → Bool) (h : ComparesBy precedes key (x :: xs))
    (hs : xs.Pairwise fun x y => key x ≤ key y) :
    (insertRanked precedes x xs).filter keep =
      if keep x then insertRanked precedes x (xs.filter keep) else xs.filter keep := by
  induction xs with
  | nil => by_cases hx : keep x <;> simp [insertRanked, hx]
  | cons y ys ih =>
    obtain ⟨hy, hys⟩ := List.pairwise_cons.1 hs
    by_cases hxy : precedes x y
    · have hall : ∀ z ∈ (y :: ys).filter keep, precedes x z := fun z hz => by
        have hz' := List.mem_of_mem_filter hz
        rw [h x List.mem_cons_self z (List.mem_cons_of_mem x hz')]
        refine ((h x (by simp) y (by simp)).1 hxy).trans ?_
        rcases List.mem_cons.1 hz' with rfl | hz'
        · exact le_rfl
        · exact hy z hz'
      rw [insertRanked, if_pos hxy, insertRanked_of_forall hall, List.filter_cons]
    · have hsub : x :: ys ⊆ x :: y :: ys := by simp
      rw [insertRanked, if_neg hxy, List.filter_cons, List.filter_cons, ih (h.subset hsub) hys]
      by_cases hk : keep y
      · by_cases hx : keep x <;> simp [hk, hx, insertRanked, hxy]
      · simp [hk]

/-- Ranking some of the candidates ranks these as before. -/
theorem filter_ranked (keep : α → Bool) (h : ComparesBy precedes key xs) :
    (ranked precedes xs).filter keep = ranked precedes (xs.filter keep) := by
  induction xs with
  | nil => rfl
  | cons x xs ih =>
    have hp := ranked_perm precedes xs
    have hx := h.subset (List.subset_cons_self x xs)
    rw [ranked, filter_insertRanked keep (h.subset (List.cons_subset_cons x hp.subset))
      (pairwise_ranked_le hx), ih hx, List.filter_cons]
    split_ifs <;> rfl

/-! ## The champion -/

theorem head?_insertRanked :
    (insertRanked precedes x xs).head? =
      some (match xs.head? with
        | none => x
        | some y => if precedes x y then x else y) := by
  cases xs with
  | nil => rfl
  | cons y ys =>
    rw [insertRanked]
    split_ifs with h <;> simp [h]

/-- The champion of some candidates challenges the one before them. -/
theorem foldl_champion (h : YieldsBy yields key (x :: xs)) :
    xs.foldl (fun best y => if yields best y then y else best) x =
      match champion? yields xs with
      | none => x
      | some c => if yields x c then c else x := by
  induction xs generalizing x with
  | nil => rfl
  | cons y ys ih =>
    have hx : x :: ys ⊆ x :: y :: ys := by simp
    have hy : y :: ys ⊆ x :: y :: ys := by simp
    have hstart : (if yields x y then y else x) :: ys ⊆ x :: y :: ys := by
      split_ifs
      · exact hy
      · exact hx
    rw [List.foldl_cons, ih (h.subset hstart), champion?, ih (h.subset hy)]
    have hxy := h x (by simp) y (by simp)
    cases hc : champion? yields ys with
    | none => rfl
    | some c =>
      have hmem := mem_of_champion? hc
      have hxc := h x (by simp) c (by simp [hmem])
      have hyc := h y (by simp) c (by simp [hmem])
      dsimp only
      split_ifs with h1 h2 h3 h4 h5 <;> grind

/-- The champion is the first of the ranking. -/
theorem head?_ranked (h : ComparesBy precedes key xs) (hy : YieldsBy yields key xs) :
    (ranked precedes xs).head? = champion? yields xs := by
  induction xs with
  | nil => rfl
  | cons x xs ih =>
    have hsub := List.subset_cons_self x xs
    rw [ranked, head?_insertRanked, ih (h.subset hsub) (hy.subset hsub), champion?,
      foldl_champion hy]
    cases hc : champion? yields xs with
    | none => rfl
    | some c =>
      have hmem := mem_of_champion? hc
      have hxc := h x (by simp) c (by simp [hmem])
      have hxc' := hy x (by simp) c (by simp [hmem])
      dsimp only
      split_ifs <;> grind

/-- What is found for the first of a ranking for which anything is found, is found for the
    champion of these. -/
theorem findSome?_ranked {β : Type} {find? : α → Option β} (h : ComparesBy precedes key xs)
    (hy : YieldsBy yields key xs) :
    (ranked precedes xs).findSome? find? =
      (champion? yields (xs.filter fun x => (find? x).isSome)).bind find? := by
  have first (ys : List α) :
      ys.findSome? find? = (ys.filter fun y => (find? y).isSome).head?.bind find? := by
    induction ys with
    | nil => rfl
    | cons y ys ih => cases hy : find? y <;> simp [hy, ih]
  have hsub : (xs.filter fun x => (find? x).isSome) ⊆ xs := List.filter_sublist.subset
  rw [first, filter_ranked _ h, head?_ranked (h.subset hsub) (hy.subset hsub)]

/-- A candidate which is better than all that came before it, and no worse than those after
    it. -/
def IsFirstLeast (key : α → κ) (x : α) (xs : List α) : Prop :=
  ∃ before after, xs = before ++ x :: after ∧ (∀ y ∈ before, key x < key y) ∧
    ∀ y ∈ after, key x ≤ key y

/-- No candidate is in front of the first of the best. -/
theorem IsFirstLeast.before (h : IsFirstLeast key x xs) (hc : xs.Pairwise came) (hx : came x x)
    (hy : y ∈ xs) : Before key came x y := by
  obtain ⟨before, after, rfl, better, noWorse⟩ := h
  rcases List.mem_append.1 hy with hy | hy
  · exact .inl (better y hy)
  · rcases List.mem_cons.1 hy with rfl | hy
    · exact .inr ⟨rfl, hx⟩
    · have later := (List.pairwise_cons.1 (List.pairwise_append.1 hc).2.1).1 y hy
      exact .of_le (noWorse y hy) later

theorem IsFirstLeast.le (h : IsFirstLeast key x xs) (hy : y ∈ xs) : key x ≤ key y :=
  have hc : xs.Pairwise fun _ _ => True := List.pairwise_of_forall fun _ _ => trivial
  (h.before hc trivial hy).le

/-- The champion is the first of the best. -/
theorem isFirstLeast_of_champion? (h : YieldsBy yields key xs)
    (hx : champion? yields xs = some x) : IsFirstLeast key x xs := by
  induction xs generalizing x with
  | nil => cases hx
  | cons y ys ih =>
    rw [champion?, foldl_champion h, Option.some.injEq] at hx
    cases hc : champion? yields ys with
    | none =>
      obtain rfl := champion?_eq_none_iff.1 hc
      rw [hc] at hx
      exact ⟨[], [], by rw [← hx]; rfl, List.forall_mem_nil _, List.forall_mem_nil _⟩
    | some c =>
      have rest := ih (h.subset (List.subset_cons_self y ys)) hc
      have hyc := h y (by simp) c (by simp [mem_of_champion? hc])
      rw [hc] at hx
      dsimp only at hx
      split_ifs at hx with better
      · -- The champion of the others is better than the candidate before them.
        obtain ⟨before, after, rfl, hbefore, hafter⟩ := rest
        refine hx ▸ ⟨y :: before, after, rfl, fun z hz => ?_, hafter⟩
        rcases List.mem_cons.1 hz with rfl | hz
        · exact hyc.1 better
        · exact hbefore z hz
      · have least : key y ≤ key c := not_lt.1 (mt hyc.2 better)
        exact hx ▸ ⟨[], ys, rfl, List.forall_mem_nil _, fun z hz => least.trans (rest.le hz)⟩

/-- The first of a sorted list that is good enough is its first, if any is. -/
theorem head?_filter_of_sorted {keep : α → Bool} (hs : xs.Pairwise fun x y => key x ≤ key y)
    (hk : ∀ x ∈ xs, ∀ y ∈ xs, key x ≤ key y → keep y → keep x) :
    (xs.filter keep).head? = xs.head?.filter keep := by
  cases xs with
  | nil => rfl
  | cons x xs =>
    by_cases hx : keep x
    · rw [List.filter_cons_of_pos hx, List.head?_cons, List.head?_cons, Option.filter_some,
        if_pos hx]
    · have hnone : xs.filter keep = [] := List.filter_eq_nil_iff.2 fun y hy hky =>
        hx (hk x (by simp) y (by simp [hy]) ((List.pairwise_cons.1 hs).1 y hy) hky)
      rw [List.filter_cons_of_neg hx, hnone, List.head?_cons, Option.filter_some, if_neg hx]
      rfl

theorem champion?_map {β : Type} (f : β → α) (zs : List β) :
    champion? yields (zs.map f) = (champion? (fun a b => yields (f a) (f b)) zs).map f := by
  cases zs with
  | nil => rfl
  | cons z zs =>
    rw [List.map_cons, champion?, champion?, Option.map_some, List.foldl_map]
    congr 1
    induction zs generalizing z with
    | nil => rfl
    | cons w zs ih =>
      rw [List.foldl_cons, List.foldl_cons, ← ih]
      split_ifs <;> rfl

/-! ## Challenges -/

/-- The best candidate after one more, which has to be better than the best before it. -/
def challenge (yields : α → α → Bool) (best? : Option α) (x : α) : Option α :=
  match best? with
  | none => some x
  | some best => if yields best x then some x else some best

theorem champion?_eq_foldl (yields : α → α → Bool) (xs : List α) :
    champion? yields xs = xs.foldl (challenge yields) none := by
  have scan (best : α) (xs : List α) : some (xs.foldl
      (fun best y => if yields best y then y else best) best) =
        xs.foldl (challenge yields) (some best) := by
    induction xs generalizing best with
    | nil => rfl
    | cons y ys ih =>
      rw [List.foldl_cons, ih, List.foldl_cons, challenge]
      split <;> rfl
  cases xs with
  | nil => rfl
  | cons x xs => exact scan x xs

theorem challenge_map {β : Type} (f : α → β) (yields : β → β → Bool) (best? : Option α) (x : α) :
    challenge yields (best?.map f) (f x) =
      (challenge (fun a b => yields (f a) (f b)) best? x).map f := by
  cases best? with
  | none => rfl
  | some best =>
    rw [Option.map_some, challenge, challenge]
    split <;> rfl

/-! ## Candidates which do not compare -/

/-- Who yields to no one stays the champion. -/
theorem champion?_cons_of_not_yields (stays : ∀ y ∈ xs, yields x y = false) :
    champion? yields (x :: xs) = some x := by
  rw [champion?_eq_foldl, List.foldl_cons, challenge]
  induction xs with
  | nil => rfl
  | cons y ys ih =>
    obtain ⟨hy, hys⟩ := List.forall_mem_cons.1 stays
    rw [List.foldl_cons, challenge, if_neg (by simp [hy]), ih hys]

/-- Those to whom no one yields may be left out after the first. -/
theorem champion?_cons_filter {keep : α → Bool}
    (loses : ∀ y ∈ xs, keep y = false → ∀ best, yields best y = false) :
    champion? yields (x :: xs) = champion? yields (x :: xs.filter keep) := by
  rw [champion?_eq_foldl, champion?_eq_foldl, List.foldl_cons, List.foldl_cons, challenge]
  induction xs generalizing x with
  | nil => rfl
  | cons y ys ih =>
    obtain ⟨hy, hys⟩ := List.forall_mem_cons.1 loses
    cases kept : keep y with
    | true =>
      rw [List.filter_cons_of_pos kept, List.foldl_cons, List.foldl_cons, challenge]
      split
      · exact ih hys
      · exact ih hys
    | false =>
      rw [List.filter_cons_of_neg (by simp [kept]), List.foldl_cons, challenge,
        if_neg (by simp [hy kept x]), ih hys]

/-- After one to whom everyone yields and who yields to everyone, those before do not count. -/
theorem champion?_append_cons (wins : ∀ best, yields best x) (loses : ∀ y, yields x y) :
    champion? yields (xs ++ x :: ys) = some ((champion? yields ys).getD x) := by
  have reached (best? : Option α) : challenge yields best? x = some x := by
    cases best? with
    | none => rfl
    | some best => exact if_pos (wins best)
  rw [champion?_eq_foldl, List.foldl_append, List.foldl_cons, reached]
  cases ys with
  | nil => rfl
  | cons y ys =>
    rw [List.foldl_cons, challenge, if_pos (loses y)]
    exact (champion?_eq_foldl yields (y :: ys)).symm

end Astrogation
