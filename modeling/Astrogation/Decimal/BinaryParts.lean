/-!
# The parts of a binary number

A finite floating-point number is `± mantissa · 2 ^ exponent` for a natural
mantissa and a whole exponent. All that is written or rounded is computed from
these parts, in exact arithmetic.

A number is rounded to a natural one (`toNatural`), or to the nearest of single
precision (`toSingle`), in which the spatial index of a chart holds coordinates:
to the even one if it lies halfway between two, and to an infinity if it is too
large.
-/

namespace Astrogation.Decimal

/-- The parts of a finite floating-point number: it is
    `mantissa · 2 ^ exponent`, with a minus sign if it is `negative`. -/
structure BinaryParts where
  negative : Bool
  mantissa : Nat
  exponent : Int
  deriving DecidableEq, Repr

/-- The largest of the stored exponents, kept for infinities and NaN. -/
def specialExponent : Nat := 2047

/-- The parts of a number, and none for infinities and NaN. -/
def BinaryParts.ofFloat? (x : Float) : Option BinaryParts :=
  let bits := x.toBits.toNat
  let fraction := bits % Nat.pow 2 52
  let stored := bits / Nat.pow 2 52 % Nat.pow 2 11
  let negative := decide (Nat.pow 2 63 ≤ bits)
  if stored == specialExponent then none
  else if stored == 0 then some ⟨negative, fraction, -1074⟩
  else some ⟨negative, fraction + Nat.pow 2 52, Int.ofNat stored - 1075⟩

namespace BinaryParts

/-- The numerator of the magnitude, over `denominator`. -/
def numerator (b : BinaryParts) : Nat := b.mantissa * Nat.pow 2 b.exponent.toNat

/-- The denominator of the magnitude, a power of two. -/
def denominator (b : BinaryParts) : Nat := Nat.pow 2 (-b.exponent).toNat

end BinaryParts

/-- The quotient of two natural numbers, rounded to the nearest natural number;
    halfway between two, to the even one. -/
def roundToEven (num den : Nat) : Nat :=
  let floor := num / den
  let rest := 2 * (num % den)
  if rest < den then floor
  else if den < rest then floor + 1
  else floor + floor % 2

/-- The quotient of two natural numbers, rounded to the nearest natural number;
    halfway between two, up. -/
def roundHalfUp (num den : Nat) : Nat := (2 * num + den) / (2 * den)

/-- The nearest natural number to `x`, halves rounded up, between `0` and
    `bound`: `0` for negative numbers and NaN. -/
def toNatural (bound : Nat) (x : Float) : Nat :=
  match BinaryParts.ofFloat? x with
  | some b => if b.negative then 0 else min bound (roundHalfUp b.numerator b.denominator)
  | none => if 0 < x then bound else 0

/-! ## Single precision -/

/-- The bits of an infinity of single precision, without its sign. -/
def singleInfinity : Nat := 255 * Nat.pow 2 23

/-- The bits of the number of single precision nearest to
    `mantissa · 2 ^ exponent`. -/
def singleMagnitude (mantissa : Nat) (exponent : Int) : Nat :=
  if mantissa == 0 then 0
  else
    let width : Int := mantissa.log2 + 1
    let unit := max (exponent + width - 24) (-149)
    let rounded :=
      roundToEven (mantissa * Nat.pow 2 (exponent - unit).toNat)
        (Nat.pow 2 (unit - exponent).toNat)
    -- The number is `rounded · 2 ^ unit` and `rounded ≤ 2 ^ 24`. A carry into the
    -- next power of two raises the stored exponent by itself.
    let bits := ((unit + 149).toNat * Nat.pow 2 23) + rounded
    min bits singleInfinity

/-- The number of single precision nearest to `x`. -/
def toSingle (x : Float) : Float32 :=
  match BinaryParts.ofFloat? x with
  | some b =>
    let sign := if b.negative then Nat.pow 2 31 else 0
    Float32.ofBits (UInt32.ofNat (sign + singleMagnitude b.mantissa b.exponent))
  | none =>
    if 0 < x then Float32.ofBits (UInt32.ofNat singleInfinity)
    else if x < 0 then Float32.ofBits (UInt32.ofNat (Nat.pow 2 31 + singleInfinity))
    else Float32.ofBits 0x7FC00000

end Astrogation.Decimal
