/-!
# How names and arguments are read

Several comparisons of names ignore the case of the letters `A` to `Z` and of no
others: `sameIgnoringCase` decides whether two names are equal in this sense, and
`lowerAscii` gives the common form of the names that are.

A character is *blank* if it has the Unicode property White_Space. Names and
arguments are read without the blanks around them (`trim`), and an argument of
blanks only counts as absent (`nonBlank?`).
-/

namespace Astrogation.Text

/-! ## Letters of ASCII, without regard to case -/

/-- The characters of a text, with `A` to `Z` in lower case. -/
def foldAscii (s : String) : List Char := s.toList.map Char.toLower

/-- A text with `A` to `Z` in lower case, and all else as it was. -/
def lowerAscii (s : String) : String := String.ofList (foldAscii s)

/-- Two texts are equal but for the case of the letters `A` to `Z`. -/
def sameIgnoringCase (a b : String) : Bool := foldAscii a == foldAscii b

theorem sameIgnoringCase_iff {a b : String} :
    sameIgnoringCase a b = true ↔ foldAscii a = foldAscii b := by
  simp [sameIgnoringCase]

theorem sameIgnoringCase_refl (a : String) : sameIgnoringCase a a = true := by
  simp [sameIgnoringCase]

/-- It does not matter which of two texts is compared with the other. -/
theorem sameIgnoringCase_comm (a b : String) : sameIgnoringCase a b = sameIgnoringCase b a := by
  rw [Bool.eq_iff_iff, sameIgnoringCase_iff, sameIgnoringCase_iff, eq_comm]

/-- Two texts have the same ASCII lower case exactly when they are equal but for case. -/
theorem lowerAscii_eq_iff {a b : String} :
    lowerAscii a = lowerAscii b ↔ sameIgnoringCase a b = true := by
  rw [sameIgnoringCase_iff, lowerAscii, lowerAscii, String.ofList_inj]

/-! ## Blanks -/

/-- The characters of the property White_Space. -/
def isBlank (c : Char) : Bool :=
  let n := c.toNat
  (9 ≤ n && n ≤ 13) || n == 0x20 || n == 0x85 || n == 0xA0 || n == 0x1680 ||
    (0x2000 ≤ n && n ≤ 0x200A) || n == 0x2028 || n == 0x2029 || n == 0x202F || n == 0x205F ||
    n == 0x3000

/-- A list of characters without the blanks at its end. -/
def trimEnd (cs : List Char) : List Char := (cs.reverse.dropWhile isBlank).reverse

/-- A list of characters without the blanks at either end. -/
def trimChars (cs : List Char) : List Char := trimEnd (cs.dropWhile isBlank)

/-- A text without the blanks at either end. -/
def trim (s : String) : String := String.ofList (trimChars s.toList)

/-- What an argument says: the text without the blanks around it, and nothing if
    that leaves nothing. -/
def nonBlank? (s : String) : Option String :=
  match trimChars s.toList with
  | [] => none
  | cs => some (String.ofList cs)

end Astrogation.Text
