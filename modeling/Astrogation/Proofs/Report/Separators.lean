import Astrogation.Report.Basic

/-!
# Digits by thousands

Commas cut a text into groups (`groups`), and to delete them is to put the groups together again
(`flatten_groups`). Groups are by thousands when the first has one to three characters and each
of the others exactly three (`ByThousands`). There is only one way to cut characters like this
(`ByThousands.eq_of_flatten_eq`).

A digit in front of groups by thousands goes into the first one, unless that is full; then it
makes a new one. The first group is full where the number of digits from there on is a multiple
of three, and there the separators are put (`groups_groupDigits_cons`). So the groups are by
thousands from each digit on (`byThousands_groupDigits`).

A number with separators is therefore the one text that has the digits of the number in groups by
thousands (`separated_by_thousands`).
-/

namespace Astrogation.Report

/-! ## Groups -/

/-- The groups of a text: what stands between its commas, before the first and after the last. -/
def groups (text : List Char) : List (List Char) := text.splitOn ','

/-- A text without its commas. -/
def withoutCommas (text : List Char) : List Char := text.filter (· != ',')

variable {c : Char} {cs text first : List Char} {gs others : List (List Char)}

/-- The groups of a text, put together, are the text without its commas. -/
theorem flatten_groups (text : List Char) : (groups text).flatten = withoutCommas text := by
  rw [groups, withoutCommas]
  induction text with
  | nil => rfl
  | cons c text ih =>
    rw [List.splitOn_cons_eq_if_modifyHead]
    by_cases hc : c = ','
    · simp [hc, ih]
    · obtain ⟨first, others, hgroups⟩ := List.exists_cons_of_ne_nil (List.splitOn_ne_nil ',' text)
      rw [hgroups, List.flatten_cons] at ih
      simp [hc, hgroups, ih]

/-- The groups of a text with commas between them are the text. -/
theorem intercalate_groups (text : List Char) : [','].intercalate (groups text) = text :=
  List.intercalate_splitOn ','

theorem groups_injective : Function.Injective groups := fun text text' same => by
  rw [← intercalate_groups text, same, intercalate_groups]

/-- A text which begins with a comma has an empty group. -/
theorem nil_mem_groups_of_head? (h : text.head? = some ',') : [] ∈ groups text := by
  obtain ⟨rest, rfl⟩ := List.head?_eq_some_iff.1 h
  rw [groups, ← List.nil_append (',' :: rest), List.splitOn_append_cons_self]
  exact List.mem_append_left _ (List.mem_singleton_self [])

/-- A text which ends with a comma has an empty group. -/
theorem nil_mem_groups_of_getLast? (h : text.getLast? = some ',') : [] ∈ groups text := by
  obtain ⟨rest, rfl⟩ := List.getLast?_eq_some_iff.1 h
  rw [groups, List.splitOn_append_cons_self]
  exact List.mem_append_right _ (List.mem_singleton_self [])

/-! ## Groups by thousands -/

/-- Groups of which the first has one to three characters and each of the others exactly three. -/
def ByThousands : List (List Char) → Prop
  | [] => False
  | first :: others =>
    (1 ≤ first.length ∧ first.length ≤ 3) ∧ ∀ group ∈ others, group.length = 3

instance : DecidablePred ByThousands
  | [] => inferInstanceAs (Decidable False)
  | first :: others => inferInstanceAs (Decidable
      ((1 ≤ first.length ∧ first.length ≤ 3) ∧ ∀ group ∈ others, group.length = 3))

example : ByThousands (groups "1,234,567".toList) ∧ ¬ ByThousands (groups ",234,567".toList) := by
  decide

theorem byThousands_singleton_cons (full : ∀ group ∈ gs, group.length = 3) :
    ByThousands ([c] :: gs) :=
  ⟨⟨Nat.le_refl 1, Nat.le_add_left 1 2⟩, full⟩

theorem ByThousands.nil_not_mem (h : ByThousands gs) : [] ∉ gs := by
  match gs, h with
  | first :: others, ⟨⟨nonempty, _⟩, full⟩ =>
    rintro (_ | ⟨_, hnil⟩)
    · exact Nat.not_succ_le_zero 0 nonempty
    · exact absurd (full [] hnil) (by decide)

theorem ByThousands.length_flatten (h : ByThousands (first :: others)) :
    (first :: others).flatten.length = first.length + 3 * others.length := by
  have full : others.map List.length = List.replicate others.length 3 :=
    List.map_eq_replicate_iff.2 h.2
  rw [List.flatten_cons, List.length_append, List.length_flatten, full, List.sum_replicate_nat,
    Nat.mul_comm]

/-- A character in front of a full first group makes a new one. -/
theorem ByThousands.cons (h : ByThousands gs) (full : gs.flatten.length % 3 = 0) :
    ByThousands ([c] :: gs) := by
  match gs, h with
  | first :: others, h =>
    have count := h.length_flatten
    obtain ⟨⟨least, most⟩, rest⟩ := h
    have hfirst : first.length = 3 := by omega
    exact byThousands_singleton_cons (List.forall_mem_cons.2 ⟨hfirst, rest⟩)

/-- A character in front of a first group that is not full goes into it. -/
theorem ByThousands.prepend (h : ByThousands gs) (space : gs.flatten.length % 3 ≠ 0) :
    ByThousands (gs.modifyHead (c :: ·)) := by
  match gs, h with
  | first :: others, h =>
    have count := h.length_flatten
    obtain ⟨⟨least, most⟩, rest⟩ := h
    have hfirst : first.length + 1 ≤ 3 := by omega
    exact ⟨⟨Nat.succ_pos _, hfirst⟩, rest⟩

/-- There is only one way to cut characters by thousands. -/
theorem ByThousands.eq_of_flatten_eq {gs' : List (List Char)} (h : ByThousands gs)
    (h' : ByThousands gs') (same : gs.flatten = gs'.flatten) : gs = gs' := by
  match gs, gs', h, h' with
  | first :: others, first' :: others', h, h' =>
    have count := congrArg List.length same
    rw [h.length_flatten, h'.length_flatten] at count
    obtain ⟨⟨least, most⟩, rest⟩ := h
    obtain ⟨⟨least', most'⟩, rest'⟩ := h'
    have hfirst : first.length = first'.length := by omega
    have hothers : others.length = others'.length := by omega
    refine List.eq_iff_flatten_eq.2 ⟨same, ?_⟩
    rw [List.map_cons, List.map_cons, hfirst, List.map_eq_replicate_iff.2 rest,
      List.map_eq_replicate_iff.2 rest', hothers]

/-! ## Separators -/

/-- The groups of separated characters, put together, are the characters. -/
theorem flatten_groups_groupDigits (free : ',' ∉ cs) : (groups (groupDigits cs)).flatten = cs :=
  (flatten_groups _).trans (filter_groupDigits cs free)

/-- One more character in front makes a new first group where the number of those that follow is
    a multiple of three, and else goes into the first group. -/
theorem groups_groupDigits_cons (hc : c ≠ ',') (more : cs ≠ []) :
    groups (groupDigits (c :: cs)) =
      if cs.length % 3 = 0 then [c] :: groups (groupDigits cs)
      else (groups (groupDigits cs)).modifyHead (c :: ·) := by
  rw [groups, groups, groupDigits]
  by_cases full : cs.length % 3 = 0
  · simp [more, full, hc, List.splitOn_cons_eq_if_modifyHead]
  · simp [full, hc, List.splitOn_cons_eq_if_modifyHead]

/-- Separators cut characters by thousands. -/
theorem byThousands_groupDigits (nonempty : cs ≠ []) (free : ',' ∉ cs) :
    ByThousands (groups (groupDigits cs)) := by
  induction cs with
  | nil => exact absurd rfl nonempty
  | cons c cs ih =>
    rw [List.mem_cons, not_or] at free
    obtain ⟨hc, free⟩ := free
    by_cases more : cs = []
    · subst more
      have single : groups (groupDigits [c]) = [[c]] :=
        List.splitOn_eq_singleton fun h => hc (List.mem_singleton.1 h)
      rw [single]
      exact byThousands_singleton_cons (List.forall_mem_nil _)
    · -- The induction hypothesis cuts what follows; its length decides where `c` goes.
      have rest := ih more free
      have length := congrArg List.length (flatten_groups_groupDigits free)
      rw [groups_groupDigits_cons (Ne.symm hc) more]
      split
      · next full => exact rest.cons (length ▸ full)
      · next space => exact rest.prepend (length ▸ space)

/-- A character which is no digit is not among the digits of a number. -/
@[simp]
theorem not_mem_toDigits (h : c.isDigit = false) (n : Nat) : c ∉ Nat.toDigits 10 n := fun hc => by
  have digit : c.isDigit := Nat.isDigit_of_mem_toDigits (by decide) (by decide) hc
  exact Bool.false_ne_true (h.symm.trans digit)

/-- Different numbers have different digits. -/
theorem toDigits_injective : Function.Injective (Nat.toDigits 10) := fun m n same => by
  rw [← Nat.ofDigitChars_ten_toDigits (n := m), same, Nat.ofDigitChars_ten_toDigits]

theorem flatten_groups_withSeparators (n : Nat) :
    (groups (withSeparators n).toList).flatten = Nat.toDigits 10 n := by
  rw [withSeparators, String.toList_ofList, flatten_groups_groupDigits (not_mem_toDigits rfl n)]

theorem byThousands_withSeparators (n : Nat) : ByThousands (groups (withSeparators n).toList) := by
  rw [withSeparators, String.toList_ofList]
  exact byThousands_groupDigits Nat.toDigits_ne_nil (not_mem_toDigits rfl n)

/-- No two numbers are written alike. -/
theorem withSeparators_injective : Function.Injective withSeparators := fun m n same =>
  toDigits_injective <| by
    rw [← flatten_groups_withSeparators, same, flatten_groups_withSeparators]

/-- Without its commas, a number with separators is the decimal digits of the number. It neither
    begins nor ends with a comma, its groups are digits by thousands, and no other text has the
    digits of the number in such groups. No two numbers are written alike. -/
theorem separated_by_thousands :
    (∀ n,
      withoutCommas (withSeparators n).toList = (toString n).toList ∧
      (withSeparators n).toList.head? ≠ some ',' ∧
      (withSeparators n).toList.getLast? ≠ some ',' ∧
      ByThousands (groups (withSeparators n).toList) ∧
      (∀ group ∈ groups (withSeparators n).toList, ∀ c ∈ group, c.isDigit) ∧
      ∀ text : String, ByThousands (groups text.toList) →
        withoutCommas text.toList = (toString n).toList → text = withSeparators n) ∧
    Function.Injective withSeparators := by
  refine ⟨fun n => ?_, withSeparators_injective⟩
  have written : (toString n).toList = Nat.toDigits 10 n := Nat.toList_repr
  have together := flatten_groups_withSeparators n
  have thousands := byThousands_withSeparators n
  rw [written]
  refine ⟨(flatten_groups _).symm.trans together,
    fun h => thousands.nil_not_mem (nil_mem_groups_of_head? h),
    fun h => thousands.nil_not_mem (nil_mem_groups_of_getLast? h), thousands,
    fun group hgroup c hc => ?_, fun text htext digits => ?_⟩
  · have hc := List.mem_flatten_of_mem hgroup hc
    rw [together] at hc
    exact Nat.isDigit_of_mem_toDigits (by decide) (by decide) hc
  · have same : (groups text.toList).flatten = (groups (withSeparators n).toList).flatten := by
      rw [flatten_groups, digits, together]
    exact String.toList_inj.1 (groups_injective (htext.eq_of_flatten_eq thousands same))

example : withSeparators 999 = "999" ∧ withSeparators 1000 = "1,000" ∧
    withSeparators 6784404 = "6,784,404" := by decide

end Astrogation.Report
