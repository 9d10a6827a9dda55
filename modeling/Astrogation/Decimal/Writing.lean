import Astrogation.Decimal.BinaryParts

/-!
# Writing decimals

In documents a number is written in its shortest decimal, the one with the fewest
digits that reads back as the number, and of several the nearest to it
(`numeral?`). A decimal reads back if it lies in the interval of the reals which
round to the number. For `1, 2, …, 17` digits the two neighbours of the number on
that decimal grid are tried; the first grid with a neighbour in the interval gives
the answer. It is written with a point and no exponent between `10⁻⁵` and `10¹⁶`,
and with an exponent, which always has a sign, beyond. A whole number written
without an exponent ends in `.0`, so that it reads back as a number with places.

In reports a number has a fixed number of places (`fixed`). The exact value is
rounded; a value halfway between two decimals goes to the one with the even last
digit.
-/

namespace Astrogation.Decimal

/-! ## Shortest decimals -/

/-- The decimal `digits · 10 ^ exponent`. -/
structure Scaled where
  digits : Nat
  exponent : Int
  deriving DecidableEq, Repr

/-- The number of decimal digits of a natural number (`1` for `0`). -/
def digitCount (n : Nat) : Nat := (Nat.toDigits 10 n).length

/-- The interval of the reals that round to a positive number, in quarters of its
    last binary place: the lower end, the number and the upper end. Below a power
    of two the places are half as wide. -/
structure Interval where
  low : Nat
  middle : Nat
  high : Nat
  /-- Whether the ends round to the number too. -/
  closed : Bool

/-- The interval of the reals that round to a number. -/
def Interval.ofParts (b : BinaryParts) : Interval :=
  let m := b.mantissa
  let narrow := m == Nat.pow 2 52 && decide (-1074 < b.exponent)
  ⟨if narrow then 4 * m - 1 else 4 * m - 2, 4 * m, 4 * m + 2, m % 2 == 0⟩

/-- The exponent of the leading decimal digit of `num / den`, both positive. -/
def leadingExponent (num den : Nat) : Int :=
  let shift := if den ≤ num then 0 else digitCount (den / num)
  Int.ofNat (digitCount (num * Nat.pow 10 shift / den)) - 1 - shift

/-- The decimal of `count` digits nearest to the middle of an interval, of those
    inside it. The places of the interval are of size `2 ^ place`, and `leading` is
    the exponent of the middle's leading digit. -/
def onGrid? (i : Interval) (place leading : Int) (count : Nat) : Option Scaled :=
  let grid := leading + 1 - count
  -- One step of the grid is `step` and one place is `one`, in a common unit.
  let step := Nat.pow 10 grid.toNat * Nat.pow 2 (-place).toNat
  let one := Nat.pow 2 place.toNat * Nat.pow 10 (-grid).toNat
  let inside (d : Nat) : Bool :=
    let value := d * step
    if i.closed then decide (i.low * one ≤ value && value ≤ i.high * one)
    else decide (i.low * one < value && value < i.high * one)
  let below := i.middle * one / step
  let above := below + 1
  if inside below then
    if inside above then
      let down := i.middle * one - below * step
      let up := above * step - i.middle * one
      if up < down || (up == down && below % 2 == 1) then some ⟨above, grid⟩
      else some ⟨below, grid⟩
    else some ⟨below, grid⟩
  else if inside above then some ⟨above, grid⟩
  else none

/-- The shortest decimal of a positive number. Seventeen digits always suffice;
    the number itself, in the digits of its numerator, stands for the case that
    does not arise. -/
def shortest (b : BinaryParts) : Scaled :=
  let interval := Interval.ofParts b
  let leading := leadingExponent b.numerator b.denominator
  ((List.range 17).findSome? fun k => onGrid? interval (b.exponent - 2) leading (k + 1)).getD
    ⟨b.numerator, 0⟩

/-- A decimal without zeros at the end of its digits; `fuel` bounds their number. -/
def stripZeros : (fuel : Nat) → Scaled → Scaled
  | 0, d => d
  | fuel + 1, d =>
    if d.digits % 10 == 0 && d.digits != 0 then stripZeros fuel ⟨d.digits / 10, d.exponent + 1⟩
    else d

/-- The digits of a decimal without zeros at their end, and the exponent of the
    first of them. -/
def significant (d : Scaled) : List Char × Int :=
  let d := stripZeros (digitCount d.digits) d
  let digits := Nat.toDigits 10 d.digits
  (digits, d.exponent + digits.length - 1)

/-! ## The notation of documents -/

/-- The digits of a number whose leading digit has the exponent `leading`, with a
    point. -/
def pointed (digits : List Char) (leading : Int) : List Char :=
  if leading < 0 then '0' :: '.' :: (List.replicate (-leading - 1).toNat '0' ++ digits)
  else
    let whole := leading.toNat + 1
    if digits.length ≤ whole then
      digits ++ List.replicate (whole - digits.length) '0' ++ ['.', '0']
    else digits.take whole ++ '.' :: digits.drop whole

/-- The digits of a number whose leading digit has the exponent `leading`, with
    that exponent. -/
def withExponent (digits : List Char) (leading : Int) : List Char :=
  let mantissa :=
    match digits with
    | d :: e :: rest => d :: '.' :: e :: rest
    | digits => digits
  let sign := if leading < 0 then '-' else '+'
  mantissa ++ 'e' :: sign :: Nat.toDigits 10 leading.natAbs

/-- A finite number in the notation of documents, and none for infinities and
    NaN. -/
def numeral? (x : Float) : Option String :=
  (BinaryParts.ofFloat? x).map fun b =>
    let magnitude :=
      if b.mantissa == 0 then ['0', '.', '0']
      else
        let (digits, leading) := significant (shortest b)
        if -5 ≤ leading && leading < 16 then pointed digits leading
        else withExponent digits leading
    String.ofList (if b.negative then '-' :: magnitude else magnitude)

/-! ## Fixed places -/

/-- The digits of a natural number, at least `width` of them. -/
def paddedDigits (width n : Nat) : List Char :=
  let digits := Nat.toDigits 10 n
  List.replicate (width - digits.length) '0' ++ digits

/-- The text of `units / 10 ^ places`, for at least one place. -/
def placed (places units : Nat) : String :=
  let one := Nat.pow 10 places
  String.ofList (paddedDigits 1 (units / one) ++ '.' :: paddedDigits places (units % one))

/-- A number with `places` decimal places, at least one. A number which rounds to
    zero keeps its sign. -/
def fixed (places : Nat) (x : Float) : String :=
  match BinaryParts.ofFloat? x with
  | some b =>
    let text := placed places (roundToEven (b.numerator * Nat.pow 10 places) b.denominator)
    if b.negative then "-" ++ text else text
  | none => if 0 < x then "inf" else if x < 0 then "-inf" else "NaN"

end Astrogation.Decimal
