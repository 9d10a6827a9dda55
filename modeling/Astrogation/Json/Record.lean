import Astrogation.Json.Value

/-!
# Records in JSON

How the fields of a record are read from a value and written to one.

A record is an object; members it does not know are passed over, but a field may
not be given twice. It may also be an array of the values of its first fields in
their order. A field is *required*, *optional* (absent and `null` mean the same)
or *defaulted* (absent means the default, but `null` has to be a value).
-/

namespace Astrogation.Json

variable {α : Type}

/-- The members of a record with these fields. -/
def record? (fields : List String) : Json → Option (List (String × Json))
  | object members => some members
  | array items => if items.length ≤ fields.length then some (fields.zip items) else none
  | _ => none

/-- The value given for a field, if one is; no result if several are. -/
def field? (members : List (String × Json)) (key : String) : Option (Option Json) :=
  match members.filter fun m => m.1 == key with
  | [] => some none
  | [m] => some (some m.2)
  | _ => none

/-- The value of a required field. -/
def required? (members : List (String × Json)) (key : String) (read? : Json → Option α) :
    Option α :=
  match field? members key with
  | some (some value) => read? value
  | _ => none

/-- The value of an optional field, if it has one. -/
def optional? (members : List (String × Json)) (key : String) (read? : Json → Option α) :
    Option (Option α) :=
  match field? members key with
  | some none => some none
  | some (some null) => some none
  | some (some value) => (read? value).map some
  | none => none

/-- The value of a field which may be left out. -/
def defaulted? (members : List (String × Json)) (key : String) (fallback : α)
    (read? : Json → Option α) : Option α :=
  match field? members key with
  | some none => some fallback
  | some (some value) => read? value
  | none => none

/-- The name of a choice without contents: a string, or an object with this one
    member and nothing in it. -/
def choice? : Json → Option String
  | string name => some name
  | object [(name, null)] => some name
  | _ => none

/-- A truth value. -/
def toBool? : Json → Option Bool
  | bool value => some value
  | _ => none

/-- A string. -/
def toString? : Json → Option String
  | string value => some value
  | _ => none

/-- A number, written with or without places. -/
def toFloat? : Json → Option Float
  | float value => some value
  | int value => some (Float.ofInt value)
  | _ => none

/-- A whole number between two bounds. -/
def toIntWithin? (low high : Int) : Json → Option Int
  | int value => if low ≤ value && value ≤ high then some value else none
  | _ => none

/-- A natural number below `bound`. -/
def toNatBelow? (bound : Nat) : Json → Option Nat
  | int (.ofNat value) => if value < bound then some value else none
  | _ => none

/-- A natural number of 64 bits. -/
def toUInt64? (value : Json) : Option UInt64 := (value.toNatBelow? UInt64.size).map UInt64.ofNat

/-- A natural number of 32 bits. -/
def toUInt32? (value : Json) : Option UInt32 := (value.toNatBelow? UInt32.size).map UInt32.ofNat

/-- A whole number of 64 bits. -/
def toInt64? (value : Json) : Option Int64 :=
  (value.toIntWithin? Int64.minValue.toInt Int64.maxValue.toInt).map Int64.ofInt

/-- All items of a list, if each can be read. -/
def listOf? (read? : Json → Option α) : Json → Option (List α)
  | array items => items.mapM read?
  | _ => none

/-- A value or `null`. -/
def orNull? (read? : Json → Option α) : Json → Option (Option α)
  | null => some none
  | value => (read? value).map some

/-- A natural number. -/
def ofNat (n : Nat) : Json := int (Int.ofNat n)

/-- A natural number of 64 bits. -/
def ofUInt64 (n : UInt64) : Json := ofNat n.toNat

/-- A whole number of 64 bits. -/
def ofInt64 (n : Int64) : Json := int n.toInt

/-- A value, `null` if there is none. -/
def ofOption (write : α → Json) : Option α → Json
  | some a => write a
  | none => null

/-- A member which is left out if it has no value. -/
def member? (key : String) (write : α → Json) : Option α → List (String × Json)
  | some a => [(key, write a)]
  | none => []

/-- A member which is left out if it is an empty list. -/
def listMember? (key : String) (write : α → Json) : List α → List (String × Json)
  | [] => []
  | items => [(key, array (items.map write))]

end Astrogation.Json
