import Astrogation.Decimal.Writing
import Astrogation.Text.Basic

/-!
# Reading decimals

The number nearest to a decimal (`nearest`), and the numbers that may be given on
a command line (`number?`): an optional sign, then digits with or without a point
and an exponent, or one of the words for infinity and NaN in any case.
-/

namespace Astrogation.Decimal

/-- The value of a list of decimal digits. -/
def digitsValue (digits : List Char) : Nat :=
  digits.foldl (fun value c => 10 * value + (c.toNat - '0'.toNat)) 0

/-- The number nearest to `digits · 10 ^ exponent`: an infinity if the decimal is
    beyond the numbers, and zero if it is too small. -/
def nearest (digits : Nat) (exponent : Int) : Float :=
  if digits == 0 then 0
  else
    let leading := exponent + digitCount digits
    if 400 < leading then Float.ofBits 0x7FF0000000000000
    else if leading < -400 then 0
    else Float.ofScientific digits (decide (exponent < 0)) exponent.natAbs

/-- A number or its negative. -/
def signed (negative : Bool) (x : Float) : Float := if negative then -x else x

/-- The digits a text starts with, and the rest of it. -/
def spanDigits (cs : List Char) : List Char × List Char :=
  (cs.takeWhile Char.isDigit, cs.dropWhile Char.isDigit)

/-- A sign at the start of a text, if there is one, and the rest of it. -/
def splitSign : List Char → Bool × List Char
  | '-' :: rest => (true, rest)
  | '+' :: rest => (false, rest)
  | rest => (false, rest)

/-- An exponent which takes up the whole text, `0` if the text is empty. -/
def exponent? : List Char → Option Int
  | [] => some 0
  | e :: rest =>
    if e == 'e' || e == 'E' then
      let (negative, rest) := splitSign rest
      let (digits, rest) := spanDigits rest
      if digits.isEmpty || !rest.isEmpty then none
      else
        let value := Int.ofNat (digitsValue digits)
        some (if negative then -value else value)
    else none

/-- An unsigned decimal which takes up the whole text. -/
def unsigned? (cs : List Char) : Option Float :=
  let (whole, rest) := spanDigits cs
  let (fraction, rest) :=
    match rest with
    | '.' :: rest => spanDigits rest
    | rest => ([], rest)
  if whole.isEmpty && fraction.isEmpty then none
  else
    (exponent? rest).map fun exponent =>
      nearest (digitsValue (whole ++ fraction)) (exponent - fraction.length)

/-- The number a text gives. -/
def number? (s : String) : Option Float :=
  let (negative, rest) := splitSign s.toList
  let word := rest.map Char.toLower
  let magnitude :=
    if word == "inf".toList || word == "infinity".toList then
      some (Float.ofBits 0x7FF0000000000000)
    else if word == "nan".toList then some (Float.ofBits 0x7FF8000000000000)
    else unsigned? rest
  magnitude.map (signed negative)

end Astrogation.Decimal
