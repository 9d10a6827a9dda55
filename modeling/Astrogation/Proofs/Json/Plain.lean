import Astrogation.Json.Record
import Astrogation.Proofs.Floating.Whole

/-!
# What can be written and read

An infinity or NaN has no notation, so it is written as `null`: what is read back of a value is
`Json.plain` of it. The values that are read are *proper* (`Json.isProper`): their numbers are
finite, and their whole numbers have no more than 64 bits. A number of a proper value is finite
also when it is read as one with places (`isFinite_of_toFloat?`).
-/

namespace Astrogation.Json

/-! ## Values with a notation -/

mutual

/-- What is read back of a value: `null` for numbers without a notation. -/
def plain : Json → Json
  | float x => if x.isFinite then float x else null
  | array items => array (plainItems items)
  | object members => object (plainMembers members)
  | value => value

/-- What is read back of the items of a list. -/
def plainItems : List Json → List Json
  | [] => []
  | item :: items => item.plain :: plainItems items

/-- What is read back of the members of an object. -/
def plainMembers : List (String × Json) → List (String × Json)
  | [] => []
  | (key, value) :: members => (key, value.plain) :: plainMembers members

end

/-- The items of a list are read back one by one. -/
theorem plainItems_eq_map : ∀ items : List Json, plainItems items = items.map plain
  | [] => rfl
  | item :: items => congrArg (item.plain :: ·) (plainItems_eq_map items)

/-- The members of an object are read back one by one, in their order. -/
theorem plainMembers_eq_map : ∀ members : List (String × Json),
    plainMembers members = members.map fun m => (m.1, m.2.plain)
  | [] => rfl
  | (key, value) :: members => congrArg ((key, value.plain) :: ·) (plainMembers_eq_map members)

@[simp]
theorem plain_null : null.plain = null := rfl

@[simp]
theorem plain_bool (value : Bool) : (bool value).plain = bool value := rfl

@[simp]
theorem plain_int (value : Int) : (int value).plain = int value := rfl

@[simp]
theorem plain_string (value : String) : (string value).plain = string value := rfl

@[simp]
theorem plain_array (items : List Json) : (array items).plain = array (items.map plain) :=
  congrArg array (plainItems_eq_map items)

@[simp]
theorem plain_object (members : List (String × Json)) :
    (object members).plain = object (members.map fun m => (m.1, m.2.plain)) :=
  congrArg object (plainMembers_eq_map members)

/-- A finite number has a notation. -/
theorem plain_float {x : Float} (h : x.isFinite) : (float x).plain = float x := if_pos h

/-- An infinity or NaN has none. -/
theorem plain_float_of_not {x : Float} (h : ¬x.isFinite) : (float x).plain = null := if_neg h

/-! ## Values which are read -/

mutual

/-- Whether all numbers of a value are finite, and its whole numbers have no more than 64
    bits. -/
def isProper : Json → Bool
  | int value => decide (-2 ^ 63 ≤ value ∧ value < 2 ^ 64)
  | float value => value.isFinite
  | array items => allProper items
  | object members => allMembersProper members
  | _ => true

/-- Whether all values of a list are proper. -/
def allProper : List Json → Bool
  | [] => true
  | item :: items => item.isProper && allProper items

/-- Whether the values of all members are proper. -/
def allMembersProper : List (String × Json) → Bool
  | [] => true
  | (_, value) :: members => value.isProper && allMembersProper members

end

theorem allProper_iff {items : List Json} :
    allProper items = true ↔ ∀ item ∈ items, item.isProper = true := by
  induction items with
  | nil => simp [allProper]
  | cons item items ih => simp [allProper, ih]

/-- The members of an object are proper if the value of each is, whatever its key. -/
theorem allMembersProper_iff {members : List (String × Json)} :
    allMembersProper members = true ↔ ∀ m ∈ members, m.2.isProper = true := by
  induction members with
  | nil => simp [allMembersProper]
  | cons m members ih => simp [allMembersProper, ih]

theorem allReadable_iff {items : List Json} :
    allReadable items = true ↔ ∀ item ∈ items, item.isReadable = true := by
  induction items with
  | nil => simp [allReadable]
  | cons item items ih => simp [allReadable, ih]

theorem allMembersReadable_iff {members : List (String × Json)} :
    allMembersReadable members = true ↔ ∀ m ∈ members, m.2.isReadable = true := by
  induction members with
  | nil => simp [allMembersReadable]
  | cons m members ih => simp [allMembersReadable, ih]

mutual

/-- What is read back of a readable value is readable. -/
theorem isReadable_plain : ∀ value : Json, value.plain.isReadable = value.isReadable
  | float x => by
    rw [plain]
    split
    · rfl
    · rfl
  | array items => allReadable_plainItems items
  | object members => allMembersReadable_plainMembers members
  | null | bool _ | int _ | string _ | unreadable => rfl

/-- What is read back of readable items is readable. -/
theorem allReadable_plainItems : ∀ items : List Json,
    allReadable (plainItems items) = allReadable items
  | [] => rfl
  | item :: items => congrArg₂ and (isReadable_plain item) (allReadable_plainItems items)

/-- What is read back of readable members is readable. -/
theorem allMembersReadable_plainMembers : ∀ members : List (String × Json),
    allMembersReadable (plainMembers members) = allMembersReadable members
  | [] => rfl
  | (_, value) :: members =>
    congrArg₂ and (isReadable_plain value) (allMembersReadable_plainMembers members)

end

/-- A number of a proper value is finite: if it is a whole number, its size is bounded by the 64
    bits it has at most. -/
theorem isFinite_of_toFloat? {value : Json} {x : Float} (proper : value.isProper = true)
    (h : value.toFloat? = some x) : x.isFinite := by
  cases value with
  | float y => exact Option.some.inj h ▸ proper
  | int n =>
    obtain rfl := Option.some.inj h
    have bounds := of_decide_eq_true proper
    exact Floating.isFinite_ofInt (by omega)
  | _ => cases h

end Astrogation.Json
