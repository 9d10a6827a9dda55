/-!
# Similarity of names

The Jaro–Winkler similarity of two texts, between `0` and `1`, by which a
misspelt name is given suggestions.

Two equal characters *match* if they are close enough (within `matchWindow`) and
neither is matched yet; the characters of the first text look for their match
from left to right. The Jaro similarity counts the matches and how many of them
are out of order. If it exceeds `0.7`, a common beginning of up to four
characters raises it.
-/

namespace Astrogation.Text.Similarity

/-- How far apart two characters of texts of these lengths may be and still match. -/
def matchWindow (m n : Nat) : Nat := max m n / 2 - 1

/-- The place of the first character equal to `c` that is not taken, between the
    places `low` and `high`, counting from `place`. -/
def findMatch (c : Char) (low high : Nat) : (place : Nat) → List (Char × Bool) → Option Nat
  | _, [] => none
  | place, (d, taken) :: rest =>
    if low ≤ place && place < high && c == d && !taken then some place
    else findMatch c low high (place + 1) rest

/-- The characters of a list with one more marked as taken. -/
def take (place : Nat) (marked : List (Char × Bool)) : List (Char × Bool) :=
  marked.modify place fun (d, _) => (d, true)

/-- The characters of the first text which find a match, and the second text
    with the characters which are matched. -/
def matchFrom (window : Nat) :
    (place : Nat) → List Char → List (Char × Bool) → List Char × List (Char × Bool)
  | _, [], marked => ([], marked)
  | place, c :: rest, marked =>
    match findMatch c (place - window) (place + window + 1) 0 marked with
    | some found =>
      let (matched, marked) := matchFrom window (place + 1) rest (take found marked)
      (c :: matched, marked)
    | none => matchFrom window (place + 1) rest marked

/-- The Jaro similarity of two lists of characters. -/
def jaro (a b : List Char) : Float :=
  if a.isEmpty && b.isEmpty then 1
  else if a.isEmpty || b.isEmpty then 0
  else
    let (left, marked) :=
      matchFrom (matchWindow a.length b.length) 0 a (b.map fun d => (d, false))
    let right := (marked.filter (·.2)).map (·.1)
    let count := left.length
    let disordered := ((left.zip right).filter fun (c, d) => c != d).length / 2
    if count == 0 then 0
    else
      let m := Float.ofNat count
      (m / Float.ofNat a.length + m / Float.ofNat b.length + Float.ofNat (count - disordered) / m)
        / 3

/-- The length of the common beginning of two lists. -/
def commonPrefix : List Char → List Char → Nat
  | c :: a, d :: b => if c == d then commonPrefix a b + 1 else 0
  | _, _ => 0

/-- The Jaro–Winkler similarity of two lists of characters. -/
def jaroWinkler (a b : List Char) : Float :=
  let base := jaro a b
  if 0.7 < base then
    base + 0.1 * Float.ofNat (commonPrefix (a.take 4) b) * (1 - base)
  else base

end Astrogation.Text.Similarity
