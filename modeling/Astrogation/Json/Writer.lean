import Astrogation.Decimal.Writing
import Astrogation.Json.Value

/-!
# Writing JSON

Two forms of a value: `pretty` with one item or member to a line, indented by two
spaces, as files and reports have it, and `compact` on a single line.

Infinities and NaN have no notation and are written `null`.
-/

namespace Astrogation.Json

/-- The digits of a character code below `0x20`, as an escape writes them. -/
def controlDigits (n : Nat) : List Char :=
  ['0', '0', Nat.digitChar (n / 16), Nat.digitChar (n % 16)]

/-- A character as it stands in a string. Only quotes, backslashes and control
    characters are escaped. -/
def writeChar (c : Char) : List Char :=
  if c == '"' then ['\\', '"']
  else if c == '\\' then ['\\', '\\']
  else if c == '\n' then ['\\', 'n']
  else if c == '\r' then ['\\', 'r']
  else if c == '\t' then ['\\', 't']
  else if c == '\x08' then ['\\', 'b']
  else if c == '\x0c' then ['\\', 'f']
  else if c.toNat < 0x20 then '\\' :: 'u' :: controlDigits c.toNat
  else [c]

/-- A string between quotes. -/
def writeString (s : String) : String :=
  String.ofList ('"' :: s.toList.flatMap writeChar ++ ['"'])

/-- A value which has no parts. -/
def writeScalar : Json → String
  | bool true => "true"
  | bool false => "false"
  | int value => toString value
  | float value => (Decimal.numeral? value).getD "null"
  | string value => writeString value
  | _ => "null"

/-- The start of a line indented by `depth` steps. -/
def newLine (depth : Nat) : String :=
  String.ofList ('\n' :: List.replicate (2 * depth) ' ')

mutual

/-- A value over several lines, those after the first indented by at least
    `depth` steps. -/
def prettyAt (depth : Nat) : Json → String
  | array [] => "[]"
  | array (item :: items) =>
    "[" ++ newLine (depth + 1) ++ prettyAt (depth + 1) item ++ prettyItems (depth + 1) items ++
      newLine depth ++ "]"
  | object [] => "\x7b\x7d"
  | object ((key, value) :: members) =>
    "\x7b" ++ newLine (depth + 1) ++ writeString key ++ ": " ++ prettyAt (depth + 1) value ++
      prettyMembers (depth + 1) members ++ newLine depth ++ "\x7d"
  | scalar => writeScalar scalar

/-- The items after the first, each on a line of its own. -/
def prettyItems (depth : Nat) : List Json → String
  | [] => ""
  | item :: items => "," ++ newLine depth ++ prettyAt depth item ++ prettyItems depth items

/-- The members after the first, each on a line of its own. -/
def prettyMembers (depth : Nat) : List (String × Json) → String
  | [] => ""
  | (key, value) :: members =>
    "," ++ newLine depth ++ writeString key ++ ": " ++ prettyAt depth value ++
      prettyMembers depth members

end

/-- A value over several lines. -/
def pretty (value : Json) : String := prettyAt 0 value

mutual

/-- A value on one line. -/
def compact : Json → String
  | array [] => "[]"
  | array (item :: items) => "[" ++ compact item ++ compactItems items ++ "]"
  | object [] => "\x7b\x7d"
  | object ((key, value) :: members) =>
    "\x7b" ++ writeString key ++ ":" ++ compact value ++ compactMembers members ++ "\x7d"
  | scalar => writeScalar scalar

/-- The items after the first. -/
def compactItems : List Json → String
  | [] => ""
  | item :: items => "," ++ compact item ++ compactItems items

/-- The members after the first. -/
def compactMembers : List (String × Json) → String
  | [] => ""
  | (key, value) :: members =>
    "," ++ writeString key ++ ":" ++ compact value ++ compactMembers members

end

end Astrogation.Json
