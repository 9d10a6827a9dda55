import Astrogation.Text.CaseTable

/-!
# Lower case

The full lower-case form of a text, under which the systems of a chart are
looked up. A character is mapped on its own, with two exceptions: `İ` becomes
two characters, and a capital sigma which ends a word becomes the final `ς`.
-/

namespace Astrogation.Text

/-- Whether a code point lies in one of the ranges. -/
def inRanges (ranges : List (Nat × Nat)) (code : Nat) : Bool :=
  ranges.any fun r => r.1 ≤ code && code ≤ r.2

/-- Whether a character is passed over when the surroundings of a letter are
    examined. -/
def isCaseIgnorable (c : Char) : Bool :=
  if c.toNat < 0x80 then c == '\x27' || c == '.' || c == ':' || c == '^' || c == '\x60'
  else inRanges caseIgnorableRanges c.toNat

/-- Whether a character is a letter with case. (It is only asked of characters
    which are not case-ignorable.) -/
def isCased (c : Char) : Bool :=
  if c.toNat < 0x80 then c.isAlpha else inRanges casedRanges c.toNat

/-- Whether a letter with case is the first to come, case-ignorable characters
    apart. -/
def startsCased (cs : List Char) : Bool :=
  ((cs.dropWhile isCaseIgnorable).head?.map isCased).getD false

/-- The lower case of a character by itself. -/
def lowerChar (c : Char) : Char :=
  if c.toNat < 0x80 then c.toLower
  else ((lowerRuns.findSome? fun r => r.apply? c.toNat).map Char.ofNat).getD c

/-- The lower case of a character between the characters `before` it (the
    nearest first) and those `after` it. -/
def lowerWithin (before : List Char) (c : Char) (after : List Char) : List Char :=
  if c == 'İ' then ['i', '\u0307']
  else if c == 'Σ' then
    if startsCased before && !startsCased after then ['ς'] else ['σ']
  else [lowerChar c]

/-- The lower case of a list of characters that follow those of `before` (the
    nearest first). -/
def lowerFrom (before : List Char) : List Char → List Char
  | [] => []
  | c :: after => lowerWithin before c after ++ lowerFrom (c :: before) after

/-- The lower case of a list of characters. -/
def lowerChars (cs : List Char) : List Char := lowerFrom [] cs

/-- The lower case of a text. -/
def lower (s : String) : String := String.ofList (lowerChars s.toList)

end Astrogation.Text
