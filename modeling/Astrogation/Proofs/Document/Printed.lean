import Astrogation.Proofs.Document.Routes
import Astrogation.Proofs.Json.Proper
import Astrogation.Proofs.Json.Text
import Astrogation.Storage.Documents

/-!
# Configurations in texts

The text of a configuration whose coordinates are finite is read as `Config.readBack` of it
(`Config.ofJson?_text`), and a configuration which has been read from a file has finite numbers
(`Config.isFinite_of_load`).
-/

namespace Astrogation

open Json

namespace Json

variable {depth : Nat}

theorem printable_ofUInt64 (n : UInt64) : Printable depth (ofUInt64 n) := by
  have bound := n.toNat_lt
  exact .int (by rw [Int.ofNat_eq_natCast]; omega) (by rw [Int.ofNat_eq_natCast]; omega)

theorem printable_ofInt64 (n : Int64) : Printable depth (ofInt64 n) := by
  have low := n.le_toInt
  have high := n.toInt_lt
  exact .int (by omega) (by omega)

/-- A value which may be absent takes no more depth than the value, as `null` takes none. -/
theorem printable_ofOption {α : Type} {write : α → Json} (a? : Option α)
    (each : ∀ a, Printable depth (write a)) : Printable depth (ofOption write a?) := by
  cases a? with
  | none => exact .null
  | some a => exact each a

theorem printable_map {α : Type} {write : α → Json} (as : List α)
    (each : ∀ a, Printable depth (write a)) : Printable (depth + 1) (array (as.map write)) :=
  .array (List.forall_mem_map.2 fun a _ => each a)

theorem printable_listValue? {α : Type} {write : α → Json} {as : List α} {value : Json}
    (each : ∀ a, Printable depth (write a)) (h : listValue? write as = some value) :
    Printable (depth + 1) value :=
  eq_of_listValue? h ▸ printable_map as each

/-- A record is printable if the values of its fields are, one level deeper. -/
theorem printable_written {entries : List (String × Option Json)}
    (each : ∀ e ∈ entries, ∀ value, e.2 = some value → Printable depth value) :
    Printable (depth + 1) (object (written entries)) :=
  .object (forall_written each)

end Json

variable {depth : Nat}

theorem Waypoint.printable_toJson (w : Waypoint) : Printable (depth + 2) w.toJson := by
  rw [toJson_eq]
  refine printable_written ?_
  have missions : ∀ value, listValue? ofInt64 w.missionIds = some value →
      Printable (depth + 1) value := fun _ => printable_listValue? printable_ofInt64
  simpa [entries, printable_ofUInt64, Printable.string, Printable.bool, Printable.float,
    printable_ofOption] using missions

theorem Position.printable_toJson (p : Position) : Printable (depth + 1) p.toJson := by
  refine .object ?_
  simp [Printable.float]

/-- A route is four levels deep: in it there are the list of its stops, the stops, and the lists
    of their missions. -/
theorem Route.printable_toJson (r : Route) : Printable (depth + 4) r.toJson := by
  rw [toJson_eq]
  refine printable_written ?_
  have waypoints : Printable (depth + 3) (array (r.waypoints.map Waypoint.toJson)) :=
    printable_map _ fun w => w.printable_toJson
  simp [entries, waypoints, Position.printable_toJson]

/-- A document is what the text of its file gives. -/
theorem Files.readDocument_of_read {α : Type} {f : Files} {p : Path} {text : String}
    (ofJson? : Json → Option α) (found : f.read p = .ok text) :
    f.readDocument p ofJson? =
      match (Json.read? text).bind ofJson? with
      | some value => .ok value
      | none => .error .document := by
  rw [readDocument, found]
  rfl

/-- A document is read if its file is there and the text is that of such a value. -/
theorem Files.readDocument_eq_ok_iff {α : Type} {f : Files} {p : Path} {ofJson? : Json → Option α}
    {a : α} : f.readDocument p ofJson? = .ok a ↔
      ∃ text, f.read p = .ok text ∧ (Json.read? text).bind ofJson? = some a := by
  cases found : f.read p with
  | error reason =>
    rw [readDocument, found]
    constructor
    · rintro ⟨⟩
    · rintro ⟨_, ⟨⟩, _⟩
  | ok text =>
    rw [readDocument_of_read ofJson? found]
    simp only [Except.ok.injEq, exists_eq_left']
    cases (Json.read? text).bind ofJson? with
    | none =>
      constructor
      · rintro ⟨⟩
      · rintro ⟨⟩
    | some value =>
      dsimp only
      rw [Except.ok.injEq, Option.some.injEq]

namespace Config

/-- A configuration is one level deeper than the routes in it. -/
theorem printable_toJson (c : Config) : Printable (depth + 5) c.toJson := by
  rw [toJson_eq]
  refine printable_written ?_
  have query : ∀ q : QueryType, Printable (depth + 4) q.toJson := fun _ => .string _
  simp [entries, printable_ofOption, query, Route.printable_toJson, Printable.string,
    Printable.float, Printable.bool]

/-- The finite numbers of a configuration are read as they were written. -/
def ReadsBack (c : Config) : Prop := ∀ x ∈ c.toJson.numbers, x.isFinite → Json.ReadsBack x

instance (c : Config) : Decidable c.ReadsBack :=
  inferInstanceAs (Decidable (∀ x ∈ c.toJson.numbers, x.isFinite → Json.ReadsBack x))

/-- What is read of the text of a configuration. -/
theorem ofJson?_text {c : Config} (placed : c.IsPlaced) (reads : c.ReadsBack) :
    (Json.read? c.text).bind ofJson? = some c.readBack := by
  have printed : Printable (122 + 5) c.toJson := c.printable_toJson
  rw [text, read?_pretty printed reads, Option.bind_some]
  exact ofJson?_rearranged placed (rearranged_self fields _)

theorem isFinite_default : ({} : Config).IsFinite :=
  ⟨fun _ none => (nomatch none), fun _ none => (nomatch none), rfl⟩

/-- A configuration which could be loaded has finite numbers. -/
theorem isFinite_of_load {p : Path} {f : Files} {c : Config} (h : load p f = .ok c) :
    c.IsFinite := by
  rw [load] at h
  split at h
  · exact Except.ok.inj h ▸ isFinite_default
  · obtain ⟨text, -, read⟩ := Files.readDocument_eq_ok_iff.1 h
    obtain ⟨value, parsed, decoded⟩ := Option.bind_eq_some_iff.1 read
    exact yields_ofJson? value c (isProper_of_read? parsed) decoded

end Config

end Astrogation
