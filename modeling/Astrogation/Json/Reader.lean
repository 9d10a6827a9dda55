import Astrogation.Decimal.Reading
import Astrogation.Json.Value

/-!
# Reading JSON

`Json.read?` reads a text which holds one JSON value, blanks around it apart.

The reader follows the grammar: each function takes what is left of the text and
gives the value at its start together with the rest. Values nest, so their
readers take a bound on the steps they may make; two steps for each character of
the text are enough, since no two steps in a row leave the text as it is.
-/

namespace Astrogation.Json

/-- The blanks that JSON allows between its tokens. -/
def isSpace (c : Char) : Bool := c == ' ' || c == '\n' || c == '\t' || c == '\r'

/-- A text without the blanks at its start. -/
def skipSpace (cs : List Char) : List Char := cs.dropWhile isSpace

/-- The value of a hexadecimal digit. -/
def hexDigit? (c : Char) : Option Nat :=
  if c.isDigit then some (c.toNat - '0'.toNat)
  else if 'a' ≤ c && c ≤ 'f' then some (c.toNat - 'a'.toNat + 10)
  else if 'A' ≤ c && c ≤ 'F' then some (c.toNat - 'A'.toNat + 10)
  else none

/-- The value of four hexadecimal digits. -/
def hexUnit? (a b c d : Char) : Option Nat := do
  some ((((← hexDigit? a) * 16 + (← hexDigit? b)) * 16 + (← hexDigit? c)) * 16 + (← hexDigit? d))

/-- What an escape of one letter stands for. -/
def escaped? : Char → Option Char
  | '"' => some '"'
  | '\\' => some '\\'
  | '/' => some '/'
  | 'b' => some '\x08'
  | 'f' => some '\x0c'
  | 'n' => some '\n'
  | 'r' => some '\r'
  | 't' => some '\t'
  | _ => none

/-- Whether a unit is the first half of a surrogate pair. -/
def isHighHalf (unit : Nat) : Bool := decide (0xD800 ≤ unit ∧ unit < 0xDC00)

/-- Whether a unit is the second half of a surrogate pair. -/
def isLowHalf (unit : Nat) : Bool := decide (0xDC00 ≤ unit ∧ unit < 0xE000)

/-- The character of a surrogate pair. -/
def joinHalves (high low : Nat) : Char :=
  Char.ofNat (0x10000 + (high - 0xD800) * 0x400 + (low - 0xDC00))

/-- What a string is written with: characters, and units given by their code. -/
inductive Piece where
  | char (c : Char)
  | unit (code : Nat)

/-- The pieces of a string after its opening quote, and the text after its closing
    quote. There is no result if the string is not closed, or holds a control
    character or an escape that JSON does not have. -/
def readPieces? : List Char → Option (List Piece × List Char)
  | [] => none
  | '"' :: rest => some ([], rest)
  | '\\' :: 'u' :: a :: b :: c :: d :: rest =>
    match hexUnit? a b c d with
    | some code => (readPieces? rest).map fun (pieces, rest) => (.unit code :: pieces, rest)
    | none => none
  | '\\' :: letter :: rest =>
    match escaped? letter with
    | some c => (readPieces? rest).map fun (pieces, rest) => (.char c :: pieces, rest)
    | none => none
  | c :: rest =>
    if c.toNat < 0x20 then none
    else (readPieces? rest).map fun (pieces, rest) => (.char c :: pieces, rest)

/-- The characters that pieces stand for, after the first half `high?` of a
    surrogate pair if there is one. There are none if a half is left alone. -/
def joinPieces? : (high? : Option Nat) → List Piece → Option (List Char)
  | none, [] => some []
  | none, .char c :: rest => (joinPieces? none rest).map (c :: ·)
  | none, .unit code :: rest =>
    if isHighHalf code then joinPieces? (some code) rest
    else if isLowHalf code then none
    else (joinPieces? none rest).map (Char.ofNat code :: ·)
  | some high, .unit code :: rest =>
    if isLowHalf code then (joinPieces? none rest).map (joinHalves high code :: ·) else none
  | some _, _ => none

/-- The contents of a string after its opening quote, and the text after its
    closing quote. The contents are none if they hold half a surrogate pair. -/
def readString? (cs : List Char) : Option (Option String × List Char) :=
  (readPieces? cs).map fun (pieces, rest) => ((joinPieces? none pieces).map String.ofList, rest)

/-- A number, if it is not beyond those that can be represented. -/
def finiteNumber (x : Float) : Json := if x.isFinite then float x else unreadable

/-- A whole number, or the number nearest to it if it takes more than 64 bits. A
    zero with a minus sign is a number with places. -/
def wholeNumber (negative : Bool) (value : Nat) : Json :=
  if negative then
    if value == 0 then float (-0.0)
    else if value ≤ Nat.pow 2 63 then int (-Int.ofNat value)
    else finiteNumber (-(Decimal.nearest value 0))
  else if value < UInt64.size then int (Int.ofNat value)
  else finiteNumber (Decimal.nearest value 0)

/-- The exponent at the start of a text, if it starts with one, and the rest. -/
def readExponent? : List Char → Option (Option Int × List Char)
  | [] => some (none, [])
  | e :: rest =>
    if e == 'e' || e == 'E' then
      let (negative, rest) := Decimal.splitSign rest
      let (digits, rest) := Decimal.spanDigits rest
      if digits.isEmpty then none
      else
        let value := Int.ofNat (Decimal.digitsValue digits)
        some (some (if negative then -value else value), rest)
    else some (none, e :: rest)

/-- The fraction at the start of a text, if it starts with one, and the rest. -/
def readFraction? : List Char → Option (Option (List Char) × List Char)
  | '.' :: rest =>
    let (digits, rest) := Decimal.spanDigits rest
    if digits.isEmpty then none else some (some digits, rest)
  | rest => some (none, rest)

/-- The number at the start of a text, and the rest. -/
def readNumber? (cs : List Char) : Option (Json × List Char) := do
  let (negative, rest) :=
    match cs with
    | '-' :: rest => (true, rest)
    | rest => (false, rest)
  let (whole, rest) := Decimal.spanDigits rest
  if whole.isEmpty || (whole.length != 1 && whole.head? == some '0') then none
  else
    let (fraction, rest) ← readFraction? rest
    let (exponent, rest) ← readExponent? rest
    match fraction, exponent with
    | none, none => some (wholeNumber negative (Decimal.digitsValue whole), rest)
    | fraction, exponent =>
      let places := fraction.getD []
      let x := Decimal.nearest (Decimal.digitsValue (whole ++ places))
        (exponent.getD 0 - places.length)
      some (finiteNumber (Decimal.signed negative x), rest)

/-- The key of a member and its colon, and the rest. The key is none if it holds half
    a surrogate pair. -/
def readKey? (cs : List Char) : Option (Option String × List Char) :=
  match skipSpace cs with
  | '"' :: rest =>
    match readString? rest with
    | some (key, rest) =>
      match skipSpace rest with
      | ':' :: rest => some (key, rest)
      | _ => none
    | none => none
  | _ => none

/-- The object of members whose keys are all there. -/
def objectOf (members : List (Option String × Json)) : Json :=
  match members.mapM fun (key, value) => key.map (·, value) with
  | some members => object members
  | none => unreadable

/-- How many arrays and objects may stand inside each other. -/
def maxDepth : Nat := 127

/-- An array or object which stands where `depth` more may be opened. -/
def nested : (depth : Nat) → Json → Json
  | 0, _ => unreadable
  | _ + 1, value => value

mutual

/-- The value at the start of a text, inside which `depth` arrays and objects may be
    nested, and the rest. -/
def readValue? : (steps depth : Nat) → List Char → Option (Json × List Char)
  | 0, _, _ => none
  | steps + 1, depth, cs =>
    match skipSpace cs with
    | 'n' :: 'u' :: 'l' :: 'l' :: rest => some (null, rest)
    | 't' :: 'r' :: 'u' :: 'e' :: rest => some (bool true, rest)
    | 'f' :: 'a' :: 'l' :: 's' :: 'e' :: rest => some (bool false, rest)
    | '"' :: rest =>
      (readString? rest).map fun (contents, rest) => ((contents.map string).getD unreadable, rest)
    | '[' :: rest =>
      match skipSpace rest with
      | ']' :: rest => some (nested depth (array []), rest)
      | _ =>
        (readItems? steps (depth - 1) rest).map fun (items, rest) =>
          (nested depth (array items), rest)
    | '{' :: rest =>
      match skipSpace rest with
      | '}' :: rest => some (nested depth (object []), rest)
      | _ =>
        (readMembers? steps (depth - 1) rest).map fun (members, rest) =>
          (nested depth (objectOf members), rest)
    | cs => readNumber? cs

/-- The items of an array up to its closing bracket, at least one, and the rest. -/
def readItems? : (steps depth : Nat) → List Char → Option (List Json × List Char)
  | 0, _, _ => none
  | steps + 1, depth, cs =>
    match readValue? steps depth cs with
    | some (item, rest) =>
      match skipSpace rest with
      | ',' :: rest => (readItems? steps depth rest).map fun (items, rest) => (item :: items, rest)
      | ']' :: rest => some ([item], rest)
      | _ => none
    | none => none

/-- The members of an object up to its closing brace, at least one, and the rest. -/
def readMembers? :
    (steps depth : Nat) → List Char → Option (List (Option String × Json) × List Char)
  | 0, _, _ => none
  | steps + 1, depth, cs =>
    match readKey? cs with
    | some (key, rest) =>
      match readValue? steps depth rest with
      | some (value, rest) =>
        match skipSpace rest with
        | ',' :: rest =>
          (readMembers? steps depth rest).map fun (members, rest) => ((key, value) :: members, rest)
        | '}' :: rest => some ([(key, value)], rest)
        | _ => none
      | none => none
    | none => none

end

/-- The value which a text holds. -/
def read? (text : String) : Option Json :=
  let cs := text.toList
  match readValue? (2 * cs.length + 2) maxDepth cs with
  | some (value, rest) => if (skipSpace rest).isEmpty then some value else none
  | none => none

end Astrogation.Json
