import Astrogation.Proofs.Chart.Systems
import Astrogation.Proofs.Text.Trimmed

/-!
# Systems and their names

A chart enters a system under its name in lower case, as it is, but leaves away the blanks
around a name that is looked up. So a system is found under its own name if and only if
that name is trimmed (`Chart.find?_name_iff`); then it is found under every text which
*respells* the name (`Text.Respells`), and otherwise under no text at all.

The stations without an address are given that of the system which is entered under the
name of their system, again as it is (`Chart.linked?`). This is the address of the system
which is looked up, if the name is trimmed; if it is not, the two agree only where there is
neither (`Chart.linked?_eq_iff`).

Both are said of every chart that can be made (`Chart.names_agree`). With blanks around the
name of a system, or of the system of a station, they do not agree
(`Chart.names_disagree`).
-/

namespace Astrogation

/-! ## Respelled names -/

/-- A text is a name, but for the case of `A` to `Z` and for blanks around it. -/
def Text.Respells (text name : String) : Prop :=
  ∃ before core after, text.toList = before ++ core.toList ++ after ∧
    (∀ c ∈ before, isBlank c = true) ∧ (∀ c ∈ after, isBlank c = true) ∧
    sameIgnoringCase core name = true

open Text

theorem Text.respells_self (name : String) : Respells name name :=
  ⟨[], name, [], (List.append_nil _).symm, List.forall_mem_nil _, List.forall_mem_nil _,
    sameIgnoringCase_refl name⟩

namespace StarSystem

variable {s : StarSystem} {name text : String}

/-- A name is looked up however it is spelled. -/
theorem lookupKey_of_respells (h : Respells text name) : lookupKey text = lookupKey name := by
  obtain ⟨before, core, after, split, hbefore, hafter, same⟩ := h
  rw [← lookupKey_congr same, lookupKey, lookupKey, trim, trim, split,
    trimChars_surrounded _ hbefore hafter]

theorem lookupKey_of_isTrimmed (h : IsTrimmed name.toList) : lookupKey name = lower name := by
  rw [lookupKey, isTrimmed_iff_trim_eq.1 h]

/-- What is entered under a name which is not trimmed is not looked up under any. -/
theorem isTrimmed_of_lower_eq (h : lower name = lookupKey text) : IsTrimmed name.toList :=
  isTrimmed_name (s := { name, address := 0, position := ⟨0, 0, 0⟩ }) h

end StarSystem

namespace Chart

open StarSystem

variable {c : Chart} {s : StarSystem} {name text : String}

/-! ## Looking up the systems of a chart -/

theorem find?_of_respells (hs : s ∈ c.systems) (trimmed : IsTrimmed s.name.toList)
    (h : Respells text s.name) : c.find? text = some s := by
  refine find?_eq_some_iff.2 ⟨hs, ?_⟩
  rw [lookupKey_of_respells h, lookupKey_of_isTrimmed trimmed, key]

theorem isTrimmed_of_find? (h : c.find? text = some s) : IsTrimmed s.name.toList :=
  isTrimmed_name (find?_eq_some_iff.1 h).2

/-- A system is found under its own name if and only if that is trimmed. -/
theorem find?_name_iff (hs : s ∈ c.systems) :
    c.find? s.name = some s ↔ IsTrimmed s.name.toList :=
  ⟨isTrimmed_of_find?, fun trimmed => find?_of_respells hs trimmed (respells_self s.name)⟩

theorem require_of_find? (h : c.find? text = some s) : c.require text = .ok s.waypoint := by
  rw [require, h]

theorem systemNamed_of_find? (h : c.find? text = some s) :
    c.atlas.systemNamed text = .reply (some s.waypoint) := by
  show Call.reply ((c.find? text).map waypoint) = _
  rw [h, Option.map_some]

/-! ## Linking stations -/

/-- The address of the system which is entered under a name. -/
def linked? (c : Chart) (name : String) : Option Address :=
  (c.systems.find? fun t => t.key == lower name).map (·.address)

/-- The address of the system which is looked up under a name. -/
def foundAddress? (c : Chart) (name : String) : Option Address :=
  (c.find? name).map (·.address)

theorem linked?_of_isTrimmed (trimmed : IsTrimmed name.toList) :
    c.linked? name = c.foundAddress? name := by
  rw [foundAddress?, find?, lookupKey_of_isTrimmed trimmed, linked?]

/-- If a name is not trimmed, the system which is entered under it is not the one which is
    looked up, even if there are both. -/
theorem linked?_eq_iff (untrimmed : ¬IsTrimmed name.toList) :
    c.linked? name = c.foundAddress? name ↔
      c.linked? name = none ∧ c.foundAddress? name = none := by
  refine ⟨fun same => ?_, fun ⟨unlinked, unfound⟩ => unlinked.trans unfound.symm⟩
  cases linked : c.linked? name with
  | none => exact ⟨rfl, (same.symm.trans linked)⟩
  | some address =>
    obtain ⟨t, entered, rfl⟩ := Option.map_eq_some_iff.1 linked
    obtain ⟨u, found, there⟩ := Option.map_eq_some_iff.1 (same.symm.trans linked)
    have here := find?_eq_some_iff.1 found
    obtain rfl := eq_of_address here.1 (List.mem_of_find?_eq_some entered) there
    have spelled := List.find?_some entered
    exact absurd (isTrimmed_of_lower_eq ((beq_iff_eq.1 spelled).symm.trans here.2)) untrimmed

/-- What becomes of a station: nothing if it has an address, and otherwise it is given that
    of the system which is entered under the name of its system. -/
theorem withAddress_cases (given : Station) :
    (∃ address, given.address = some address ∧ withAddress c.systems given = given) ∨
      (given.address = none ∧ withAddress c.systems given =
        { given with address := c.linked? given.systemName }) := by
  rw [withAddress]
  cases given.address with
  | some address => exact .inl ⟨address, rfl, rfl⟩
  | none => exact .inr ⟨rfl, rfl⟩

/-! ## Charts that can be made -/

/-- How a station of a chart relates to the one that was given for it. If that has no
    address, it has been given one by the name of its system; this is the address of the
    system which the chart finds under the name, if the name is trimmed, and otherwise only
    if both are missing. -/
structure Links (c : Chart) (given kept : Station) : Prop where
  same : kept = { given with address := kept.address }
  addressed : given.address.isSome = true → kept = given
  trimmed : given.address = none → IsTrimmed given.systemName.toList →
    kept.address = c.foundAddress? given.systemName
  untrimmed : given.address = none → ¬IsTrimmed given.systemName.toList →
    (kept.address = c.foundAddress? given.systemName ↔
      kept.address = none ∧ c.foundAddress? given.systemName = none)

theorem links_withAddress (given : Station) : c.Links given (withAddress c.systems given) := by
  rcases c.withAddress_cases given with ⟨address, known, kept⟩ | ⟨unknown, kept⟩
  · have absent : given.address ≠ none := by
      rw [known]
      exact Option.some_ne_none address
    rw [kept]
    exact ⟨rfl, fun _ => rfl, fun none => absurd none absent, fun none => absurd none absent⟩
  · rw [kept]
    refine ⟨rfl, fun some => ?_, fun _ => linked?_of_isTrimmed, fun _ => linked?_eq_iff⟩
    rw [unknown] at some
    cases some

/-- On every chart that can be made, a system is found under its own name if and only if
    that is trimmed. Then all ways to look it up lead to it, however the name is spelled, and
    otherwise it is found under no text. And the stations without an address have been given
    that of the system which the chart finds under the name of their system, if that is
    trimmed. -/
theorem names_agree {systems : List StarSystem} {stations : List Station}
    (made : build? systems stations = some c) :
    (∀ s ∈ c.systems,
      (c.find? s.name = some s ↔ IsTrimmed s.name.toList) ∧
      (IsTrimmed s.name.toList → ∀ text, Respells text s.name →
        c.find? text = some s ∧ c.atlas.systemNamed text = .reply (some s.waypoint) ∧
          c.require text = .ok s.waypoint) ∧
      (¬IsTrimmed s.name.toList → ∀ text, c.find? text ≠ some s)) ∧
    List.Forall₂ c.Links stations c.stations := by
  refine ⟨fun s hs => ⟨find?_name_iff hs, fun trimmed text h => ?_,
    fun untrimmed text found => untrimmed (isTrimmed_of_find? found)⟩, ?_⟩
  · have found := find?_of_respells hs trimmed h
    exact ⟨found, systemNamed_of_find? found, require_of_find? found⟩
  · rw [(of_build? made).2]
    exact List.forall₂_map_right_iff.2 (List.forall₂_same.2 fun given _ => links_withAddress given)

/-- A station in the system of a name. -/
def orbis (system : String) : Station :=
  { name := "Orbis", systemName := system, arrivalDistance := 500, maxPad := .large }

/-- On a chart with Sol and a station there which does not say where Sol is, both are found
    under the name in capitals with a blank before it. -/
theorem names_agree_sol :
    ∃ c, build? [sol, jackson] [orbis "sol"] = some c ∧ sol ∈ c.systems ∧
      IsTrimmed sol.name.toList ∧ Respells " SOL" sol.name ∧
      c.find? sol.name = some sol ∧ c.find? " SOL" = some sol ∧
      c.require " SOL" = .ok sol.waypoint ∧
      c.stations.map (·.address) = [some sol.address] := by
  obtain ⟨c, made⟩ : ∃ c, build? [sol, jackson] [orbis "sol"] = some c :=
    Option.isSome_iff_exists.1 (by decide +kernel)
  have onChart : sol ∈ c.systems := (of_build? made).1 ▸ List.mem_cons_self
  have trimmed : IsTrimmed sol.name.toList := ⟨rfl, rfl⟩
  have capitals : Respells " SOL" sol.name :=
    ⟨[' '], "SOL", [], rfl, List.forall_mem_singleton.2 rfl, List.forall_mem_nil _, rfl⟩
  have small : Respells "sol" sol.name :=
    ⟨[], "sol", [], rfl, List.forall_mem_nil _, List.forall_mem_nil _, rfl⟩
  obtain ⟨systems, stations⟩ := names_agree made
  obtain ⟨named, found, -⟩ := systems sol onChart
  obtain ⟨lookedUp, -, required⟩ := found trimmed " SOL" capitals
  refine ⟨c, made, onChart, trimmed, capitals, named.2 trimmed, lookedUp, required, ?_⟩
  obtain ⟨kept, _, links, rest, hstations⟩ := List.forall₂_cons_left_iff.1 stations
  obtain rfl := List.forall₂_nil_left_iff.1 rest
  have address : kept.address = some sol.address := by
    rw [links.trimmed rfl ⟨rfl, rfl⟩]
    exact congrArg (Option.map (·.address)) (found trimmed "sol" small).1
  rw [hstations, List.map_cons, address, List.map_nil]

def lave : StarSystem := { name := "Lave", address := 2, position := ⟨3, 0, 0⟩ }

/-- A system of the same name but for a blank after it. -/
def laveBlank : StarSystem := { name := "Lave ", address := 3, position := ⟨0, 4, 0⟩ }

/-- On a chart with both, the name with the blank leads to Lave, and the system which has this
    name is not found under it. A station in Sol, written with a blank, is given no address,
    although the look-up leads to Sol. -/
theorem names_disagree :
    ∃ c, build? [sol, lave, laveBlank] [orbis "Sol "] = some c ∧ laveBlank ∈ c.systems ∧
      c.find? laveBlank.name = some lave ∧ c.require laveBlank.name = .ok lave.waypoint ∧
      (orbis "Sol ").address = none ∧ c.stations.map (·.address) = [none] ∧
      c.foundAddress? (orbis "Sol ").systemName = some sol.address := by
  obtain ⟨c, made⟩ : ∃ c, build? [sol, lave, laveBlank] [orbis "Sol "] = some c :=
    Option.isSome_iff_exists.1 (by decide +kernel)
  obtain ⟨hsystems, hstations⟩ := of_build? made
  have found : c.find? laveBlank.name = some lave := by
    rw [find?, hsystems]
    rfl
  refine ⟨c, made, ?_, found, require_of_find? found, rfl, ?_, ?_⟩
  · rw [hsystems]
    exact List.mem_cons_of_mem _ (List.mem_cons_of_mem _ List.mem_cons_self)
  · rw [hstations, hsystems]
    rfl
  · rw [foundAddress?, find?, hsystems]
    rfl

end Chart

end Astrogation
