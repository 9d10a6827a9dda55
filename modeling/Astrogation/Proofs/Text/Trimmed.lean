import Astrogation.Proofs.Text.Lookup
import Mathlib

/-!
# Trimmed names

A list of characters is *trimmed* if it has no blanks at its ends, i.e., if trimming leaves
it as it is (`isTrimmed_iff_trim_eq`). Lower case neither makes a blank nor removes one
(`isBlank_lowerChar`), so that a list is trimmed if and only if its lower case is
(`isTrimmed_lowerChars_iff`).

Hence a system which is found under any name at all has a trimmed name, and is found under
all names which are equal to its own but for the case of `A` to `Z`
(`StarSystem.lookupKey_of_sameIgnoringCase`). It is found under no others, if only letters
of ASCII are used and no blanks around them (`StarSystem.sameIgnoringCase_of_lookupKey`).
-/

namespace Astrogation

namespace Text

/-! ## Blanks in lower case -/

/-- The blank characters, as ranges of code points. -/
def blankRanges : List (Nat × Nat) := [
  (0x9, 0xD), (0x20, 0x20), (0x85, 0x85), (0xA0, 0xA0), (0x1680, 0x1680), (0x2000, 0x200A),
  (0x2028, 0x2029), (0x202F, 0x202F), (0x205F, 0x205F), (0x3000, 0x3000)]

theorem isBlank_eq_inRanges (c : Char) : isBlank c = inRanges blankRanges c.toNat := by
  rw [Bool.eq_iff_iff]
  simp only [isBlank, inRanges, blankRanges, List.any_cons, List.any_nil, Bool.or_eq_true,
    Bool.and_eq_true, decide_eq_true_eq, beq_iff_eq, Bool.false_eq_true, or_false]
  omega

/-- Whether neither the code points of a run nor those which it maps them to are in one of
    the ranges. -/
def LowerRun.avoids (r : LowerRun) (ranges : List (Nat × Nat)) : Bool :=
  0 ≤ r.first + r.offset && ranges.all fun (low, high) =>
    (high < r.first || r.last < low) &&
      ((high : Int) < r.first + r.offset || r.last + r.offset < (low : Int))

theorem inRanges_eq_false_iff {ranges : List (Nat × Nat)} {code : Nat} :
    inRanges ranges code = false ↔ ∀ r ∈ ranges, code < r.1 ∨ r.2 < code := by
  rw [inRanges, List.any_eq_false]
  refine forall₂_congr fun r _ => ?_
  rw [Bool.and_eq_true, decide_eq_true_eq, decide_eq_true_eq, not_and_or, not_le, not_le]

theorem not_inRanges_of_apply? {r : LowerRun} {ranges : List (Nat × Nat)} {code image : Nat}
    (avoids : r.avoids ranges = true) (h : r.apply? code = some image) :
    inRanges ranges code = false ∧ inRanges ranges image = false := by
  unfold LowerRun.apply? at h
  split at h
  · next applies =>
    simp only [Bool.and_eq_true, decide_eq_true_eq] at applies
    obtain rfl := Option.some.inj h
    obtain ⟨nonneg, avoids⟩ := Bool.and_eq_true_iff.1 avoids
    have nonneg := of_decide_eq_true nonneg
    rw [inRanges_eq_false_iff, inRanges_eq_false_iff]
    refine ⟨fun range hrange => ?_, fun range hrange => ?_⟩
    all_goals
      have apart := List.all_eq_true.1 avoids range hrange
      simp only [Bool.and_eq_true, Bool.or_eq_true, decide_eq_true_eq] at apart
      omega
  · cases h

/-- What is no code point is taken for `0`. -/
theorem toNat_ofNat (n : Nat) : (Char.ofNat n).toNat = n ∨ (Char.ofNat n).toNat = 0 := by
  rw [Char.ofNat]
  split
  · exact .inl (BitVec.toNat_ofNatLT _ _)
  · exact .inr rfl

theorem isBlank_lowerChar (c : Char) : isBlank (lowerChar c) = isBlank c := by
  rw [lowerChar]
  split
  · exact isBlank_toLower c
  · cases mapped : lowerRuns.findSome? fun r => r.apply? c.toNat with
    | none => rfl
    | some image =>
      obtain ⟨r, hr, happly⟩ := List.exists_of_findSome?_eq_some mapped
      have avoids : lowerRuns.all (·.avoids blankRanges) = true := by decide +kernel
      obtain ⟨before, after⟩ := not_inRanges_of_apply? (List.all_eq_true.1 avoids r hr) happly
      rw [Option.map_some, Option.getD_some, isBlank_eq_inRanges, isBlank_eq_inRanges, before]
      rcases toNat_ofNat image with same | zero
      · rw [same, after]
      · rw [zero]
        rfl

/-! ## Trimmed lists -/

/-- A list of characters with no blank at either end. -/
def IsTrimmed (cs : List Char) : Prop :=
  cs.head?.any isBlank = false ∧ cs.getLast?.any isBlank = false

theorem IsTrimmed.trimChars_eq {cs : List Char} (h : IsTrimmed cs) : trimChars cs = cs := by
  have begins : cs.dropWhile isBlank = cs := by
    refine List.dropWhile_eq_self_iff.2 fun bound => ?_
    have first := h.1
    rw [List.head?_eq_getElem?, List.getElem?_eq_getElem bound, Option.any_some] at first
    exact Bool.eq_false_iff.1 first
  have ends : cs.rdropWhile isBlank = cs := by
    refine List.rdropWhile_eq_self_iff.2 fun some_char => ?_
    have last := h.2
    rw [List.getLast?_eq_some_getLast some_char, Option.any_some] at last
    exact Bool.eq_false_iff.1 last
  rw [trimChars, begins]
  exact ends

/-- What is left of a list once its blanks are trimmed off is trimmed. -/
theorem isTrimmed_trimChars (cs : List Char) : IsTrimmed (trimChars cs) := by
  show IsTrimmed ((cs.dropWhile isBlank).rdropWhile isBlank)
  constructor
  · rw [Option.any_eq_false]
    intro c hc
    obtain ⟨rest, split⟩ := List.rdropWhile_prefix isBlank (l := cs.dropWhile isBlank)
    have first : (cs.dropWhile isBlank).head? = some c := by
      rw [← split, List.head?_append, hc, Option.some_or]
    have := List.head?_dropWhile_not isBlank cs
    rw [first] at this
    simpa using this
  · rw [Option.any_eq_false]
    intro c hc
    have some_char : (cs.dropWhile isBlank).rdropWhile isBlank ≠ [] :=
      List.ne_nil_of_mem (List.mem_of_getLast? hc)
    rw [List.getLast?_eq_some_getLast some_char] at hc
    exact Option.some.inj hc ▸ Bool.eq_false_iff.2 (List.rdropWhile_last_not isBlank _ some_char)

/-- Blanks put around a list do not matter once it is trimmed. -/
theorem trimChars_surrounded {before after : List Char} (cs : List Char)
    (hbefore : ∀ c ∈ before, isBlank c = true) (hafter : ∀ c ∈ after, isBlank c = true) :
    trimChars (before ++ cs ++ after) = trimChars cs := by
  have ends (xs : List Char) : trimEnd (xs ++ after) = trimEnd xs := by
    rw [trimEnd, trimEnd, List.reverse_append,
      List.dropWhile_append_of_pos fun c hc => hafter c (List.mem_reverse.1 hc)]
  rw [trimChars, trimChars, List.append_assoc, List.dropWhile_append_of_pos hbefore,
    List.dropWhile_append]
  split
  · next blank =>
    -- Nothing is left of the list, and so nothing of the blanks after it.
    rw [List.isEmpty_iff.1 blank, List.dropWhile_eq_nil_iff.2 hafter]
  · exact ends _

theorem isTrimmed_iff_trim_eq {s : String} : IsTrimmed s.toList ↔ trim s = s := by
  constructor
  · intro h
    rw [trim, h.trimChars_eq, String.ofList_toList]
  · intro h
    have kept := congrArg String.toList h
    rw [trim, String.toList_ofList] at kept
    exact kept ▸ isTrimmed_trimChars s.toList

/-- What an argument says says the same as an argument. -/
theorem nonBlank?_of_nonBlank? {s t : String} (h : nonBlank? s = some t) :
    nonBlank? t = some t := by
  rw [nonBlank?] at h
  split at h
  · cases h
  · next some_char =>
    obtain rfl := Option.some.inj h
    rw [nonBlank?, String.toList_ofList, (isTrimmed_trimChars s.toList).trimChars_eq]
    split
    · next blank => exact absurd blank some_char
    · rfl

/-! ## Trimmed lists in lower case -/

theorem lowerWithin_ne_nil (before : List Char) (c : Char) (after : List Char) :
    lowerWithin before c after ≠ [] := by
  rw [lowerWithin]
  split_ifs <;> exact List.cons_ne_nil _ _

theorem isBlank_of_mem_lowerWithin {before after : List Char} {c d : Char}
    (h : d ∈ lowerWithin before c after) : isBlank d = isBlank c := by
  rw [lowerWithin] at h
  split at h
  · next dotted =>
    obtain rfl := beq_iff_eq.1 dotted
    rcases List.mem_pair.1 h with rfl | rfl <;> rfl
  · split at h
    · next sigma =>
      obtain rfl := beq_iff_eq.1 sigma
      split at h
      · obtain rfl := List.mem_singleton.1 h
        decide
      · obtain rfl := List.mem_singleton.1 h
        decide
    · rw [List.mem_singleton.1 h, isBlank_lowerChar]

theorem any_head?_lowerFrom (before cs : List Char) :
    (lowerFrom before cs).head?.any isBlank = cs.head?.any isBlank := by
  cases cs with
  | nil => rfl
  | cons c after =>
    obtain ⟨d, ds, hd⟩ := List.exists_cons_of_ne_nil (lowerWithin_ne_nil before c after)
    rw [lowerFrom, hd]
    exact isBlank_of_mem_lowerWithin (hd ▸ List.mem_cons_self)

theorem any_getLast?_lowerFrom (before cs : List Char) :
    (lowerFrom before cs).getLast?.any isBlank = cs.getLast?.any isBlank := by
  induction cs generalizing before with
  | nil => rfl
  | cons c after ih =>
    rw [lowerFrom, List.getLast?_append]
    cases after with
    | nil =>
      have some_char := lowerWithin_ne_nil before c []
      rw [lowerFrom, List.getLast?_nil, Option.none_or, List.getLast?_eq_some_getLast some_char]
      exact isBlank_of_mem_lowerWithin (List.getLast_mem some_char)
    | cons d rest =>
      rw [List.getLast?_cons_cons, ← ih (c :: before)]
      obtain ⟨e, he⟩ : ∃ e, (lowerFrom (c :: before) (d :: rest)).getLast? = some e := by
        rw [← Option.isSome_iff_exists, List.getLast?_isSome, lowerFrom]
        exact List.append_ne_nil_of_left_ne_nil (lowerWithin_ne_nil _ d rest) _
      rw [he, Option.some_or]

theorem isTrimmed_lowerChars_iff {cs : List Char} : IsTrimmed (lowerChars cs) ↔ IsTrimmed cs := by
  rw [IsTrimmed, IsTrimmed, lowerChars, any_head?_lowerFrom, any_getLast?_lowerFrom]

/-! ## Letters of ASCII -/

/-- A text which is written in ASCII. -/
def IsAscii (s : String) : Prop := ∀ c ∈ s.toList, c.toNat < 0x80

instance (s : String) : Decidable (IsAscii s) :=
  List.decidableBAll (fun c : Char => c.toNat < 0x80) s.toList

theorem lowerFrom_eq_map {before cs : List Char} (h : ∀ c ∈ cs, c.toNat < 0x80) :
    lowerFrom before cs = cs.map Char.toLower := by
  induction cs generalizing before with
  | nil => rfl
  | cons c after ih =>
    have small := h c List.mem_cons_self
    have dotted : (c == 'İ') = false := beq_eq_false_iff_ne.2 fun same => by
      rw [same] at small
      exact absurd small (by decide)
    have sigma : (c == 'Σ') = false := beq_eq_false_iff_ne.2 fun same => by
      rw [same] at small
      exact absurd small (by decide)
    rw [lowerFrom, ih fun d hd => h d (List.mem_cons_of_mem c hd), lowerWithin, dotted, sigma,
      lowerChar, if_pos small]
    rfl

/-- The lower case of a text in ASCII is that of its letters. -/
theorem lower_eq_lowerAscii {s : String} (h : IsAscii s) : lower s = lowerAscii s := by
  rw [lower, lowerChars, lowerFrom_eq_map h, lowerAscii, foldAscii]

end Text

namespace StarSystem

open Text

variable {s : StarSystem} {name : String}

/-- A name under which some system is entered, and looked up, has no blanks around it. -/
theorem isTrimmed_name (h : s.key = lookupKey name) : IsTrimmed s.name.toList := by
  have same : lowerChars s.name.toList = lowerChars (trimChars name.toList) := by
    have := congrArg String.toList h
    rwa [key, lookupKey, lower, lower, trim, String.toList_ofList, String.toList_ofList,
      String.toList_ofList] at this
  rw [← isTrimmed_lowerChars_iff, same, isTrimmed_lowerChars_iff]
  exact isTrimmed_trimChars _

/-- A system which is found at all is found under the names which are equal to its own but
    for the case of `A` to `Z`. -/
theorem lookupKey_of_sameIgnoringCase (found : s.key = lookupKey name) {other : String}
    (h : sameIgnoringCase other s.name = true) : s.key = lookupKey other := by
  rw [lookupKey_congr h, lookupKey, trim, (isTrimmed_name found).trimChars_eq, String.ofList_toList,
    key]

/-- A name in ASCII without blanks around it. -/
def IsPlain (name : String) : Prop := IsAscii name ∧ trim name = name

instance (name : String) : Decidable (IsPlain name) :=
  inferInstanceAs (Decidable (IsAscii name ∧ trim name = name))

theorem lookupKey_of_isPlain (plain : IsPlain name) : lookupKey name = lowerAscii name := by
  rw [lookupKey, plain.2, lower_eq_lowerAscii plain.1]

/-- A plain name under which a system in ASCII is found is its own but for the case of
    `A` to `Z`. -/
theorem sameIgnoringCase_of_lookupKey (ascii : IsAscii s.name) (plain : IsPlain name)
    (h : s.key = lookupKey name) : sameIgnoringCase name s.name = true := by
  rw [key, lookupKey_of_isPlain plain, lower_eq_lowerAscii ascii] at h
  exact lowerAscii_eq_iff.1 h.symm

end StarSystem

end Astrogation
