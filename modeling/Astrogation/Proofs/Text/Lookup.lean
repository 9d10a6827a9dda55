import Astrogation.Chart.System

/-!
# Names which are looked up alike

Names which are equal but for the case of the letters `A` to `Z` are looked up under the
same key (`lookupKey_congr`), although the key is the full lower case of the name: in
lower case, and when blanks and the surroundings of a letter are examined, a capital
from `A` to `Z` counts as the small letter.
-/

namespace Astrogation

namespace Text

variable {α : Type}

/-! ## Capitals -/

/-- The letters from `A` to `Z`. -/
def capitals : List Char := (List.range' 65 26).map Char.ofNat

/-- A character which is not its own lower case is a capital. -/
theorem toLower_eq_self_or_mem_capitals (c : Char) : c.toLower = c ∨ c ∈ capitals := by
  by_cases capital : c.val ≥ 'A'.val ∧ c.val ≤ 'Z'.val
  · obtain ⟨above, below⟩ := capital
    refine .inr (List.mem_map.2 ⟨c.toNat, List.mem_range'_1.2 ⟨above, ?_⟩, c.ofNat_toNat⟩)
    exact Nat.lt_succ_of_le below
  · exact .inl (dif_neg capital)

/-- What does not tell the capitals from the small letters is the same of any character
    and its lower case. -/
theorem apply_toLower {f : Char → α} (h : capitals.map (fun c => f c.toLower) = capitals.map f)
    (c : Char) : f c.toLower = f c := by
  rcases toLower_eq_self_or_mem_capitals c with small | capital
  · rw [small]
  · exact List.map_inj_left.1 h c capital

/-- No capital is a blank. -/
theorem isBlank_toLower (c : Char) : isBlank c.toLower = isBlank c :=
  apply_toLower (by decide +kernel) c

theorem isCaseIgnorable_toLower (c : Char) : isCaseIgnorable c.toLower = isCaseIgnorable c :=
  apply_toLower (by decide +kernel) c

theorem isCased_toLower (c : Char) : isCased c.toLower = isCased c :=
  apply_toLower (by decide +kernel) c

/-- A capital and its small letter have the same full lower case. -/
theorem lowerChar_toLower (c : Char) : lowerChar c.toLower = lowerChar c :=
  apply_toLower (by decide +kernel) c

/-! ## Lists of characters -/

theorem dropWhile_map_toLower {p : Char → Bool} (h : ∀ c, p c.toLower = p c) (cs : List Char) :
    (cs.map Char.toLower).dropWhile p = (cs.dropWhile p).map Char.toLower := by
  have same : p ∘ Char.toLower = p := funext h
  rw [List.dropWhile_map, same]

/-- Blanks are left out at the same places. -/
theorem trimChars_map_toLower (cs : List Char) :
    trimChars (cs.map Char.toLower) = (trimChars cs).map Char.toLower := by
  rw [trimChars, trimEnd, dropWhile_map_toLower isBlank_toLower, ← List.map_reverse,
    dropWhile_map_toLower isBlank_toLower, ← List.map_reverse]
  rfl

theorem startsCased_map_toLower (cs : List Char) :
    startsCased (cs.map Char.toLower) = startsCased cs := by
  rw [startsCased, startsCased, dropWhile_map_toLower isCaseIgnorable_toLower, List.head?_map,
    Option.map_map, show isCased ∘ Char.toLower = isCased from funext isCased_toLower]

/-- What stands around a letter has the same influence on it, in whichever case. -/
theorem lowerWithin_map_toLower (before : List Char) (c : Char) (after : List Char) :
    lowerWithin (before.map Char.toLower) c.toLower (after.map Char.toLower) =
      lowerWithin before c after := by
  -- Neither of the two exceptions is a capital from `A` to `Z`, or the small letter of one.
  have dotted : (c.toLower == 'İ') = (c == 'İ') := apply_toLower (f := (· == 'İ')) rfl c
  have sigma : (c.toLower == 'Σ') = (c == 'Σ') := apply_toLower (f := (· == 'Σ')) rfl c
  rw [lowerWithin, lowerWithin, dotted, sigma, startsCased_map_toLower, startsCased_map_toLower,
    lowerChar_toLower]

theorem lowerFrom_map_toLower (before cs : List Char) :
    lowerFrom (before.map Char.toLower) (cs.map Char.toLower) = lowerFrom before cs := by
  induction cs generalizing before with
  | nil => rfl
  | cons c after ih =>
    rw [List.map_cons, lowerFrom, lowerFrom, lowerWithin_map_toLower, ← List.map_cons, ih]

end Text

namespace StarSystem

open Text

theorem lookupKey_eq (name : String) :
    lookupKey name = String.ofList (lowerChars (trimChars (foldAscii name))) := by
  rw [foldAscii, trimChars_map_toLower, lowerChars, ← List.map_nil (f := Char.toLower),
    lowerFrom_map_toLower, lookupKey, lower, trim, String.toList_ofList]
  rfl

/-- Names which are equal but for the case of `A` to `Z` are looked up alike. -/
theorem lookupKey_congr {a b : String} (h : sameIgnoringCase a b = true) :
    lookupKey a = lookupKey b := by
  rw [lookupKey_eq, lookupKey_eq, sameIgnoringCase_iff.1 h]

end StarSystem

end Astrogation
