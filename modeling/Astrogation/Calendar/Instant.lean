import Astrogation.Calendar.Date
import Astrogation.Decimal.Reading
import Astrogation.Decimal.Writing
import Astrogation.Text.Basic

/-!
# Instants

The moment at which a mission expires. It is written as a date, a time of day and
an offset from universal time, as in `3311-05-01T12:00:00Z`, and read with some
freedom: fields may be short and have blanks around them, and the time may follow
the date after a blank. A minute may have a 60th second, which stays apart from
the first of the next minute.
-/

namespace Astrogation.Calendar

/-- A moment in universal time: seconds since the start of 1970, and nanoseconds.
    The nanoseconds go on beyond a billion through the 60th second of a minute. -/
structure Instant where
  seconds : Int
  nanos : Nat
  deriving DecidableEq, Repr

/-- A second in nanoseconds. -/
def billion : Nat := 1000000000

/-- A day in seconds. -/
def daySeconds : Int := 86400

namespace Instant

/-- Whether one moment comes no later than another. -/
def notAfter (a b : Instant) : Bool :=
  a.seconds < b.seconds || (a.seconds == b.seconds && a.nanos ≤ b.nanos)

/-! ## Reading -/

/-- A text without the blanks at its start. -/
def skipBlank (cs : List Char) : List Char := cs.dropWhile Text.isBlank

/-- A number of one to `width` digits after blanks, and the rest. -/
def readField? (width : Nat) (cs : List Char) : Option (Nat × List Char) :=
  let cs := skipBlank cs
  let digits := (cs.take width).takeWhile Char.isDigit
  if digits.isEmpty then none else some (Decimal.digitsValue digits, cs.drop digits.length)

/-- A character after blanks, and the rest. -/
def expect? (c : Char) (cs : List Char) : Option (List Char) :=
  match skipBlank cs with
  | d :: rest => if c == d then some rest else none
  | [] => none

/-- A year after blanks, of at most four digits unless it has a sign, and the
    rest. -/
def readYear? (cs : List Char) : Option (Int × List Char) :=
  match skipBlank cs with
  | '-' :: rest =>
    let (digits, rest) := Decimal.spanDigits rest
    if digits.isEmpty then none else some (-Int.ofNat (Decimal.digitsValue digits), rest)
  | '+' :: rest =>
    let (digits, rest) := Decimal.spanDigits rest
    if digits.isEmpty then none else some (Decimal.digitsValue digits, rest)
  | rest => (readField? 4 rest).map fun (year, rest) => (year, rest)

/-- A date, and the rest. -/
def readDate? (cs : List Char) : Option (Date × List Char) := do
  let (year, cs) ← readYear? cs
  let cs ← expect? '-' cs
  let (month, cs) ← readField? 2 cs
  let cs ← expect? '-' cs
  let (day, cs) ← readField? 2 cs
  let date : Date := ⟨year, month, day⟩
  if date.isValid then some (date, cs) else none

/-- A fraction of a second in nanoseconds, and the rest. Digits beyond the ninth
    are passed over. -/
def readFraction? : List Char → Option (Nat × List Char)
  | '.' :: rest =>
    let (digits, rest) := Decimal.spanDigits rest
    let kept := digits.take 9
    if digits.isEmpty then none
    else some (Decimal.digitsValue kept * Nat.pow 10 (9 - kept.length), rest)
  | rest => some (0, rest)

/-- A time of day in seconds and nanoseconds, and the rest. -/
def readTime? (cs : List Char) : Option (Nat × Nat × List Char) := do
  let (hour, cs) ← readField? 2 cs
  let cs ← expect? ':' cs
  let (minute, cs) ← readField? 2 cs
  let cs ← expect? ':' cs
  let (second, cs) ← readField? 2 cs
  let (nanos, cs) ← readFraction? cs
  if hour < 24 && minute < 60 && second ≤ 60 then
    let start := 3600 * hour + 60 * minute
    if second == 60 then some (start + 59, nanos + billion, cs)
    else some (start + second, nanos, cs)
  else none

/-- Two digits, and the rest. -/
def readPair? : List Char → Option (Nat × List Char)
  | a :: b :: rest =>
    if a.isDigit && b.isDigit then some (Decimal.digitsValue [a, b], rest) else none
  | _ => none

/-- Hours and minutes in seconds, perhaps with colons or blanks between them, and
    the rest. -/
def readOffsetTime? (cs : List Char) : Option (Nat × List Char) := do
  let (hours, cs) ← readPair? cs
  let (minutes, cs) ← readPair? (cs.dropWhile fun c => c == ':' || Text.isBlank c)
  let seconds := 3600 * hours + 60 * minutes
  if minutes < 60 && seconds < daySeconds.toNat then some (seconds, cs) else none

/-- An offset from universal time in seconds, and the rest. -/
def readOffset? (cs : List Char) : Option (Int × List Char) :=
  let cs := skipBlank cs
  if (cs.take 3).map Char.toLower == ['u', 't', 'c'] then some (0, cs.drop 3)
  else
    match cs with
    | 'Z' :: rest | 'z' :: rest => some (0, rest)
    | '+' :: rest => (readOffsetTime? rest).map fun (seconds, rest) => (seconds, rest)
    | '-' :: rest | '−' :: rest =>
      (readOffsetTime? rest).map fun (seconds, rest) => (-Int.ofNat seconds, rest)
    | _ => none

/-- The moment that a text gives. -/
def read? (s : String) : Option Instant := do
  let (date, cs) ← readDate? s.toList
  let cs ←
    match cs with
    | 'T' :: rest | 't' :: rest | ' ' :: rest => some rest
    | _ => none
  let (second, nanos, cs) ← readTime? cs
  let (offset, cs) ← readOffset? cs
  let seconds := date.dayNumber * daySeconds + second - offset
  let year := (Date.ofDayNumber (seconds / daySeconds)).year
  if (skipBlank cs).isEmpty && firstYear ≤ year && year ≤ lastYear then some ⟨seconds, nanos⟩
  else none

/-! ## Writing -/

/-- A year in at least four digits, with a sign if it takes more or is negative. -/
def yearText (year : Int) : List Char :=
  let digits := Decimal.paddedDigits 4 year.natAbs
  if year < 0 then '-' :: digits else if 9999 < year then '+' :: digits else digits

/-- A fraction of a second in the fewest of `0`, `3`, `6` or `9` digits. -/
def fractionText (nanos : Nat) : List Char :=
  if nanos == 0 then []
  else if nanos % 1000000 == 0 then '.' :: Decimal.paddedDigits 3 (nanos / 1000000)
  else if nanos % 1000 == 0 then '.' :: Decimal.paddedDigits 6 (nanos / 1000)
  else '.' :: Decimal.paddedDigits 9 nanos

/-- The text of a moment, in universal time. -/
def text (t : Instant) : String :=
  let date := Date.ofDayNumber (t.seconds / daySeconds)
  let time := (t.seconds % daySeconds).toNat
  let extra := t.nanos / billion
  let two := Decimal.paddedDigits 2
  String.ofList
    (yearText date.year ++ '-' :: two date.month ++ '-' :: two date.day ++
      'T' :: two (time / 3600) ++ ':' :: two (time / 60 % 60) ++ ':' :: two (time % 60 + extra) ++
      fractionText (t.nanos % billion) ++ ['Z'])

end Instant

end Astrogation.Calendar
