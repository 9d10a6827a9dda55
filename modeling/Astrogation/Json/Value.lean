/-!
# JSON values

The values that charts, states and configurations are stored as. Whole numbers
are kept apart from numbers with places, since an address may not be written with
a point; the members of an object are kept in their order, with repetitions,
since a record may not name a field twice.
-/

namespace Astrogation

/-- A JSON value. -/
inductive Json where
  | null
  | bool (value : Bool)
  /-- A whole number of at most 64 bits, written without a point or exponent. -/
  | int (value : Int)
  | float (value : Float)
  | string (value : String)
  | array (items : List Json)
  | object (members : List (String × Json))
  /-- A number too large, a string with half a surrogate pair, or a value nested too
      deep: it is written as JSON is, but stands for no value. It only passes where it
      is not looked at. -/
  | unreadable
  deriving BEq, Repr

namespace Json

mutual

/-- Whether a value can be read, down to its last part. -/
def isReadable : Json → Bool
  | unreadable => false
  | array items => allReadable items
  | object members => allMembersReadable members
  | _ => true

/-- Whether all values of a list can be read. -/
def allReadable : List Json → Bool
  | [] => true
  | item :: items => item.isReadable && allReadable items

/-- Whether the values of all members can be read. -/
def allMembersReadable : List (String × Json) → Bool
  | [] => true
  | (_, value) :: members => value.isReadable && allMembersReadable members

end

/-- The first member of this name in an object. -/
def get? (key : String) : Json → Option Json
  | object members => members.lookup key
  | _ => none

end Json

end Astrogation
