import Astrogation.Document.Answer
import Astrogation.Document.Traveller
import Astrogation.Proofs.Json.Fields

/-!
# What stands in documents

Numbers of a fixed size, names of choices, and lists are read back as they were written.
-/

namespace Astrogation

namespace Json

/-- What is read back of a value that may be absent: it is `null` where the value was. -/
@[simp]
theorem plain_ofOption {α : Type} (write : α → Json) (a? : Option α) :
    (ofOption write a?).plain = ofOption (fun a => (write a).plain) a? := by
  cases a? <;> rfl

/-! ## Readable values -/

@[simp]
theorem isReadable_bool (value : Bool) : (bool value).isReadable = true := rfl

@[simp]
theorem isReadable_float (value : Float) : (float value).isReadable = true := rfl

@[simp]
theorem isReadable_string (value : String) : (string value).isReadable = true := rfl

@[simp]
theorem isReadable_ofUInt64 (n : UInt64) : (ofUInt64 n).isReadable = true := rfl

@[simp]
theorem isReadable_ofOption_float (x? : Option Float) :
    (ofOption float x?).isReadable = true := by
  cases x? <;> rfl

/-- A list is readable if each of its items is written readably. -/
theorem isReadable_of_listValue? {α : Type} {write : α → Json} {as : List α} {value : Json}
    (readable : ∀ a, (write a).isReadable = true) (h : listValue? write as = some value) :
    value.isReadable = true := by
  obtain rfl := eq_of_listValue? h
  exact allReadable_iff.2 (List.forall_mem_map.2 fun a _ => readable a)

/-! ## Numbers and lists -/

/-- A natural number is read back if it is below the bound of the reader. -/
theorem toNatBelow?_ofNat {n bound : Nat} (h : n < bound) : toNatBelow? bound (ofNat n) = some n :=
  if_pos h

/-- Addresses and markets are read back as they were written. -/
theorem toUInt64?_ofUInt64 (n : UInt64) : toUInt64? (ofUInt64 n) = some n := by
  rw [toUInt64?, ofUInt64, toNatBelow?_ofNat n.toNat_lt, Option.map_some, UInt64.ofNat_toNat]

theorem toUInt32?_ofNat (n : UInt32) : toUInt32? (ofNat n.toNat) = some n := by
  rw [toUInt32?, toNatBelow?_ofNat n.toNat_lt, Option.map_some, UInt32.ofNat_toNat]

/-- Missions are read back as they were written, with their signs. -/
theorem toInt64?_ofInt64 (n : Int64) : toInt64? (ofInt64 n) = some n := by
  have within : (Int64.minValue.toInt ≤ n.toInt && n.toInt ≤ Int64.maxValue.toInt) = true := by
    rw [Bool.and_eq_true, decide_eq_true_iff, decide_eq_true_iff]
    exact ⟨n.minValue_le_toInt, n.toInt_le⟩
  rw [toInt64?, ofInt64, toIntWithin?, if_pos within, Option.map_some, Int64.ofInt_toInt]

/-- A list is read item by item. What is read of an item may differ from what was written, as it
    does of a stop whose distances have no notation. -/
theorem listOf?_map {α β : Type} {read? : Json → Option β} {write : α → Json} {f : α → β}
    {as : List α} (h : ∀ a ∈ as, read? (write a) = some (f a)) :
    listOf? read? (array (as.map write)) = some (as.map f) := by
  rw [listOf?]
  induction as with
  | nil => rfl
  | cons a as ih =>
    obtain ⟨ha, has⟩ := List.forall_mem_cons.1 h
    rw [List.map_cons, List.mapM_cons, ha, ih has]
    rfl

/-- A list which is left out if it is empty. -/
theorem defaulted?_list {α : Type} {members : List (String × Json)} {key : String}
    {read? : Json → Option α} {write : α → Json} {as : List α}
    (h : field? members key = some ((listValue? write as).map plain))
    (reads : ∀ a, read? (write a).plain = some a) :
    defaulted? members key [] (listOf? read?) = some as := by
  cases as with
  | nil => rw [defaulted?, h]; rfl
  | cons a as =>
    have h : field? members key = some (some (array (((a :: as).map write).map plain))) :=
      h.trans (congrArg (some ∘ some) (plain_array ((a :: as).map write)))
    have read : listOf? read? (array ((a :: as).map fun a => (write a).plain)) =
        some ((a :: as).map id) := listOf?_map fun a _ => reads a
    rw [List.map_id] at read
    rw [List.map_map] at h
    exact (defaulted?_of_field? h).trans read

end Json

/-! ## Choices -/

theorem QueryType.ofJson?_toJson (q : QueryType) : ofJson? q.toJson = some q := by
  cases q <;> rfl

theorem Service.ofJson?_toJson (s : Service) : ofJson? s.toJson = some s := by
  cases s <;> rfl

theorem Pad.ofJson?_toJson (p : Pad) : ofJson? p.toJson = some p := by
  cases p <;> rfl

/-- A category is either a string or an object that holds a service, so the two are told apart. -/
theorem SearchCategory.ofJson?_toJson : ∀ c : SearchCategory, ofJson? c.toJson.plain = some c
  | scoopableStar => rfl
  | facility service => congrArg (Option.map facility) service.ofJson?_toJson

end Astrogation
