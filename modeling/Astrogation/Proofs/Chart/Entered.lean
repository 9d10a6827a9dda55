import Astrogation.Proofs.Chart.Names

/-!
# How systems are entered

The systems which are given for a chart are entered one after the other, and one which collides
with a system that has been entered before is left out. So the places of those which are entered
are determined from the first to the last (`StarSystem.EnteredAt`), and these are the systems of
the chart (`exists_enteredAt`).

A `Ledger` is what the systems are entered in: a row of systems, and for their names and for their
addresses an index which has the places in the row (`Indexes`). As a system and its place in both
indexes are entered together or not at all, the indexes stay aligned with the row
(`Ledger.Aligned.enter`). So every look-up through them finds a system in the row, and it is the
one that the chart finds (`Ledger.lookUp_of_indexes`).

All this is said of every chart that can be made in `Chart.enters_first_of_colliding`.
-/

namespace Astrogation

variable {systems : List StarSystem}

/-! ## The places of the systems which are entered -/

namespace StarSystem

/-- Some places in a list of systems, in their order, such that a system is at one of them if and
    only if it collides with none at an earlier one. -/
structure EnteredAt (systems : List StarSystem) (places : List (Fin systems.length)) : Prop where
  sorted : places.Pairwise (· < ·)
  mem_iff : ∀ i, i ∈ places ↔ ∀ j ∈ places, j < i → (systems.get j).Apart (systems.get i)

/-- A system which is left out collides with an earlier one that is not. -/
theorem EnteredAt.exists_collision {places : List (Fin systems.length)}
    (h : EnteredAt systems places) {i : Fin systems.length} (out : i ∉ places) :
    ∃ j ∈ places, j < i ∧ ¬(systems.get j).Apart (systems.get i) := by
  by_contra apart
  refine out ((h.mem_iff i).2 fun j hj earlier => ?_)
  by_contra collides
  exact apart ⟨j, hj, earlier, collides⟩

end StarSystem

theorem StarSystem.not_mem_cons_iff {names : List String} {addresses : List Address}
    {s t : StarSystem} :
    (t.key ∉ s.key :: names ∧ t.address ∉ s.address :: addresses) ↔
      (t.key ∉ names ∧ t.address ∉ addresses) ∧ s.Apart t := by
  simp only [List.mem_cons, not_or, Apart, ne_eq, eq_comm (a := t.key), eq_comm (a := t.address)]
  tauto

/-- The systems that are kept are those at some places, determined from the first to the last by
    the names and addresses given and by those that are kept. -/
theorem exists_places_distinctSystems (names : List String) (addresses : List Address)
    (systems : List StarSystem) :
    ∃ places : List (Fin systems.length), places.Pairwise (· < ·) ∧
      distinctSystems names addresses systems = places.map systems.get ∧
      ∀ i, i ∈ places ↔
        ((systems.get i).key ∉ names ∧ (systems.get i).address ∉ addresses) ∧
          ∀ j ∈ places, j < i → (systems.get j).Apart (systems.get i) := by
  fun_induction distinctSystems names addresses systems with
  | case1 => exact ⟨[], .nil, rfl, fun i => i.elim0⟩
  | case2 names addresses s rest seen ih =>
    obtain ⟨places, sorted, kept, mem⟩ := ih
    refine ⟨places.map Fin.succ, ?_, ?_, Fin.cases ?_ fun i => ?_⟩
    · exact List.pairwise_map.2 (sorted.imp Fin.succ_lt_succ_iff.2)
    · rw [kept, List.map_map]
      rfl
    · -- The first system has been seen.
      have first : (0 : Fin (rest.length + 1)) ∉ places.map Fin.succ := fun h => by
        obtain ⟨j, -, hj⟩ := List.mem_map.1 h
        exact Fin.succ_ne_zero j hj
      have seen : s.key ∈ names ∨ s.address ∈ addresses := by simpa using seen
      refine iff_of_false first ?_
      rintro ⟨⟨name, address⟩, -⟩
      exact seen.elim name address
    · rw [List.mem_map_of_injective (Fin.succ_injective _), mem, List.forall_mem_map]
      simp only [Fin.succ_lt_succ_iff]
      rfl
  | case3 names addresses s rest fresh ih =>
    obtain ⟨places, sorted, kept, mem⟩ := ih
    refine ⟨0 :: places.map Fin.succ, ?_, ?_, Fin.cases ?_ fun i => ?_⟩
    · refine .cons (List.forall_mem_map.2 fun j _ => Fin.succ_pos j) ?_
      exact List.pairwise_map.2 (sorted.imp Fin.succ_lt_succ_iff.2)
    · rw [kept, List.map_cons, List.map_map]
      rfl
    · have fresh : s.key ∉ names ∧ s.address ∉ addresses := by simpa using fresh
      exact iff_of_true List.mem_cons_self
        ⟨fresh, fun j _ before => absurd before (Fin.not_lt_zero j)⟩
    · rw [List.mem_cons, List.mem_map_of_injective (Fin.succ_injective _), mem,
        List.forall_mem_cons, List.forall_mem_map]
      simp only [Fin.succ_lt_succ_iff]
      have later : (i.succ : Fin (rest.length + 1)) ≠ 0 := Fin.succ_ne_zero i
      constructor
      · rintro (h | ⟨h, apart⟩)
        · exact absurd h later
        · obtain ⟨h, first⟩ := StarSystem.not_mem_cons_iff.1 h
          exact ⟨h, fun _ => first, apart⟩
      · rintro ⟨h, first, apart⟩
        exact .inr ⟨StarSystem.not_mem_cons_iff.2 ⟨h, first (Fin.succ_pos i)⟩, apart⟩

theorem StarSystem.exists_enteredAt (systems : List StarSystem) :
    ∃ places, EnteredAt systems places ∧ distinctSystems [] [] systems = places.map systems.get := by
  obtain ⟨places, sorted, kept, mem⟩ := exists_places_distinctSystems [] [] systems
  exact ⟨places, ⟨sorted, fun i => by simpa using mem i⟩, kept⟩

/-! ## Indexes -/

section Indexes

variable {κ : Type} [BEq κ] [LawfulBEq κ] [Hashable κ] {key : StarSystem → κ}
  {row : Array StarSystem} {index : Std.HashMap κ Nat}

/-- An index has the systems of a row under their keys, by their places. -/
def Indexes (key : StarSystem → κ) (row : Array StarSystem) (index : Std.HashMap κ Nat) : Prop :=
  ∀ k i, index[k]? = some i ↔ ∃ s, row[i]? = some s ∧ key s = k

theorem indexes_empty : Indexes key #[] ∅ := fun k i => by simp

/-- Nothing in the row has a key which is not in the index. -/
theorem Indexes.key_ne (h : Indexes key row index) {k : κ} (absent : k ∉ index) {s : StarSystem}
    (hs : s ∈ row) : key s ≠ k := by
  rintro rfl
  obtain ⟨i, hi, rfl⟩ := Array.mem_iff_getElem.1 hs
  have present := (h _ i).2 ⟨_, Array.getElem?_eq_getElem hi, rfl⟩
  rw [Std.HashMap.getElem?_eq_none absent] at present
  cases present

/-- An index stays one if a system is put at the end of the row, and its place is entered under
    its key. -/
theorem Indexes.push (h : Indexes key row index) {s : StarSystem} (absent : key s ∉ index) :
    Indexes key (row.push s) (index.insert (key s) row.size) := by
  intro k i
  rw [Std.HashMap.getElem?_insert, Array.getElem?_push]
  by_cases new : i = row.size
  · -- The last place is that of the new system, and of no key from before.
    subst new
    have beyond : index[k]? ≠ some row.size := fun found => by
      obtain ⟨t, ht, -⟩ := (h k row.size).1 found
      rw [Array.getElem?_size] at ht
      cases ht
    simp [beyond]
  · have other (same : key s = k) : ¬∃ t, row[i]? = some t ∧ key t = k := fun ⟨t, ht, hkey⟩ =>
      h.key_ne (same ▸ absent) (Array.mem_of_getElem? ht) hkey
    rw [if_neg new]
    split
    · next same =>
      exact iff_of_false (fun last => new (Option.some.inj last).symm) (other (eq_of_beq same))
    · exact h k i

/-- What is found through an index is the system of the row which has the key. -/
theorem Indexes.exists_of_find? (h : Indexes key row index) (k : κ) :
    (index[k]? = none ∧ row.toList.find? (key · == k) = none) ∨
      ∃ i s, index[k]? = some i ∧ row[i]? = some s ∧ row.toList.find? (key · == k) = some s := by
  cases found : row.toList.find? (key · == k) with
  | none =>
    refine .inl ⟨?_, rfl⟩
    cases place : index[k]? with
    | none => rfl
    | some i =>
      obtain ⟨s, hs, hkey⟩ := (h k i).1 place
      have other := List.find?_eq_none.1 found s (Array.mem_toList_iff.2 (Array.mem_of_getElem? hs))
      exact absurd (beq_iff_eq.2 hkey) other
  | some s =>
    have inRow := Array.mem_toList_iff.1 (List.mem_of_find?_eq_some found)
    have hkey := List.find?_some found
    obtain ⟨i, hs⟩ := Array.getElem?_of_mem inRow
    exact .inr ⟨i, s, (h k i).2 ⟨s, hs, eq_of_beq hkey⟩, hs, rfl⟩

end Indexes

/-! ## Ledgers -/

/-- What systems are entered in: a row of systems, and indexes of their places under their names
    in lower case and under their addresses. -/
structure Ledger where
  row : Array StarSystem := #[]
  names : Std.HashMap String Nat := ∅
  addresses : Std.HashMap Address Nat := ∅

namespace Ledger

/-- The ledger after a system has been given: it is entered, unless its name or its address is
    there already. -/
def enter (l : Ledger) (s : StarSystem) : Ledger :=
  if l.names.contains s.key || l.addresses.contains s.address then l
  else
    { row := l.row.push s
      names := l.names.insert s.key l.row.size
      addresses := l.addresses.insert s.address l.row.size }

/-- The ledger of systems which are given one after the other. -/
def ofSystems (systems : List StarSystem) : Ledger := systems.foldl enter {}

/-- The system at a place that has been looked up, if it has. A place beyond the row crashes. -/
def lookUp (l : Ledger) : (place : Option Nat) → Call (Option StarSystem)
  | none => .reply none
  | some i =>
    match l.row[i]? with
    | some s => .reply (some s)
    | none => .crash

/-- Both indexes are those of the row. -/
structure Aligned (l : Ledger) : Prop where
  names : Indexes StarSystem.key l.row l.names
  addresses : Indexes StarSystem.address l.row l.addresses

theorem aligned_empty : ({} : Ledger).Aligned := ⟨indexes_empty, indexes_empty⟩

variable {l : Ledger} {s : StarSystem}

theorem enter_of_seen (h : s.key ∈ l.names ∨ s.address ∈ l.addresses) : l.enter s = l := by
  rw [enter, if_pos]
  simpa [Std.HashMap.contains_iff_mem] using h

theorem enter_of_not_seen (name : s.key ∉ l.names) (address : s.address ∉ l.addresses) :
    l.enter s =
      { row := l.row.push s
        names := l.names.insert s.key l.row.size
        addresses := l.addresses.insert s.address l.row.size } := by
  rw [enter, if_neg]
  simp [name, address]

/-- The row and the indexes stay aligned, as a system is put in all of them or in none. -/
theorem Aligned.enter (h : l.Aligned) (s : StarSystem) : (l.enter s).Aligned := by
  by_cases seen : s.key ∈ l.names ∨ s.address ∈ l.addresses
  · rwa [enter_of_seen seen]
  · obtain ⟨name, address⟩ := not_or.1 seen
    rw [enter_of_not_seen name address]
    exact ⟨h.names.push name, h.addresses.push address⟩

theorem Aligned.foldl_enter (h : l.Aligned) (systems : List StarSystem) :
    (systems.foldl Ledger.enter l).Aligned := by
  induction systems generalizing l with
  | nil => exact h
  | cons s rest ih => exact ih (h.enter s)

theorem aligned_ofSystems (systems : List StarSystem) : (ofSystems systems).Aligned :=
  aligned_empty.foldl_enter systems

/-- What is entered are the systems that are kept, whatever has been entered before. -/
theorem row_foldl_enter (names : List String) (addresses : List Address)
    (systems : List StarSystem) (hnames : ∀ name, name ∈ names ↔ name ∈ l.names)
    (haddresses : ∀ address, address ∈ addresses ↔ address ∈ l.addresses) :
    (systems.foldl enter l).row.toList =
      l.row.toList ++ distinctSystems names addresses systems := by
  induction systems generalizing l names addresses with
  | nil => rw [List.foldl_nil, distinctSystems, List.append_nil]
  | cons s rest ih =>
    rw [List.foldl_cons, distinctSystems]
    by_cases seen : s.key ∈ l.names ∨ s.address ∈ l.addresses
    · rw [enter_of_seen seen, ih names addresses hnames haddresses, if_pos]
      simpa [hnames, haddresses] using seen
    · obtain ⟨name, address⟩ := not_or.1 seen
      rw [enter_of_not_seen name address, if_neg (by simp [hnames, haddresses, name, address]),
        ih (s.key :: names) (s.address :: addresses)]
      · rw [Array.toList_push, List.append_assoc, List.singleton_append]
      · intro other
        rw [List.mem_cons, Std.HashMap.mem_insert, hnames, beq_iff_eq, eq_comm]
      · intro other
        rw [List.mem_cons, Std.HashMap.mem_insert, haddresses, beq_iff_eq, eq_comm]

theorem row_ofSystems (systems : List StarSystem) :
    (ofSystems systems).row.toList = distinctSystems [] [] systems := by
  rw [ofSystems, row_foldl_enter [] []]
  · rfl
  · simp
  · simp

/-- A look-up through an index of the row does not crash, and finds the system of the row which has
    the key. -/
theorem lookUp_of_indexes {κ : Type} [BEq κ] [LawfulBEq κ] [Hashable κ] {key : StarSystem → κ}
    {index : Std.HashMap κ Nat} (h : Indexes key l.row index) (k : κ) :
    l.lookUp index[k]? = .reply (l.row.toList.find? (key · == k)) := by
  rcases h.exists_of_find? k with ⟨absent, found⟩ | ⟨i, s, place, there, found⟩
  · rw [absent, found, lookUp]
  · rw [place, found, lookUp, there]

end Ledger

/-! ## Charts that can be made -/

namespace Chart

variable {c : Chart}

theorem systemAt?_eq_none_iff {address : Address} :
    c.systemAt? address = none ↔ ∀ s ∈ c.systems, s.address ≠ address := by
  rw [systemAt?, List.find?_eq_none]
  simp only [beq_iff_eq, ne_eq]

theorem withAddress_eq (given : Station) :
    withAddress c.systems given =
      { given with address := given.address.or (c.linked? given.systemName) } := by
  rcases c.withAddress_cases given with ⟨address, known, kept⟩ | ⟨unknown, kept⟩
  · rw [kept, known, Option.some_or, ← known]
  · rw [kept, unknown, Option.none_or]

/-- The systems of a chart which can be made are those of the ones given which collide with none
    that is entered before them, in their order. They do not collide, and one is found at an address
    exactly if it has it. The stations are those given, as they are, except that one without an
    address has been given that of the system which is entered under the name of its system.

    And so it is if the systems are entered one after the other in a row, with indexes of their
    names and addresses: the indexes stay aligned with the row, which has the systems of the chart,
    and whatever is looked up through an index, it does not lead beyond the row, and what it leads
    to is what the chart finds. -/
theorem enters_first_of_colliding {systems : List StarSystem} {stations : List Station}
    (made : build? systems stations = some c) :
    (∃ places : List (Fin systems.length), StarSystem.EnteredAt systems places ∧
      c.systems = places.map systems.get ∧
      ∀ i, i ∉ places → ∃ j ∈ places, j < i ∧ ¬(systems.get j).Apart (systems.get i)) ∧
    c.systems.Pairwise StarSystem.Apart ∧
    (∀ address,
      (∀ s, c.systemAt? address = some s ↔ s ∈ c.systems ∧ s.address = address) ∧
      (c.systemAt? address = none ↔ ∀ s ∈ c.systems, s.address ≠ address) ∧
      c.atlas.systemAt address = .reply ((c.systemAt? address).map StarSystem.waypoint)) ∧
    c.stations = stations.map (fun given =>
      { given with address := given.address.or (c.linked? given.systemName) }) ∧
    let l := Ledger.ofSystems systems
    l.Aligned ∧ l.row.toList = c.systems ∧
      (∀ key, l.lookUp l.names[key]? = .reply (c.systems.find? (·.key == key))) ∧
      ∀ address, l.lookUp l.addresses[address]? = .reply (c.systemAt? address) := by
  obtain ⟨hsystems, hstations⟩ := of_build? made
  have row : (Ledger.ofSystems systems).row.toList = c.systems := by
    rw [Ledger.row_ofSystems, hsystems]
  have aligned := Ledger.aligned_ofSystems systems
  refine ⟨?_, c.apart, fun address => ⟨fun s => systemAt?_eq_some_iff, systemAt?_eq_none_iff, rfl⟩,
    ?_, aligned, row, fun key => ?_, fun address => ?_⟩
  · obtain ⟨places, entered, kept⟩ := StarSystem.exists_enteredAt systems
    exact ⟨places, entered, hsystems.trans kept, fun i => entered.exists_collision⟩
  · rw [hstations]
    exact List.map_congr_left fun given _ => withAddress_eq given
  · rw [Ledger.lookUp_of_indexes aligned.names, row]
  · rw [Ledger.lookUp_of_indexes aligned.addresses, row]
    rfl

def thule : StarSystem := { name := "THULE", address := 3, position := ⟨4, 0, 0⟩ }

/-- Five systems of which the second has the name of the first, the third the address of the first,
    the fourth the address of the second and the fifth the name of the third. -/
def colliding : List StarSystem :=
  [sol, { name := "SOL", address := 2, position := ⟨1, 0, 0⟩ },
    { name := "Thule", address := 1, position := ⟨2, 0, 0⟩ }, jackson, thule]

/-- Of these the second and the third are left out, and then nothing collides with them. A station
    in Thule is given the address of the fifth. -/
theorem enters_three_of_five :
    ∃ c, build? colliding [orbis "thule"] = some c ∧ c.systems = [sol, jackson, thule] ∧
      c.systemAt? 2 = some jackson ∧ c.stations = [{ orbis "thule" with address := some 3 }] ∧
      (Ledger.ofSystems colliding).lookUp (Ledger.ofSystems colliding).addresses[(2 : Address)]? =
        .reply (some jackson) := by
  obtain ⟨c, made⟩ : ∃ c, build? colliding [orbis "thule"] = some c :=
    Option.isSome_iff_exists.1 (by decide +kernel)
  have hsystems : c.systems = [sol, jackson, thule] := (of_build? made).1
  obtain ⟨-, -, found, hstations, -, -, -, lookUp⟩ := enters_first_of_colliding made
  have there : c.systemAt? 2 = some jackson := by
    refine ((found 2).1 jackson).2 ⟨?_, rfl⟩
    rw [hsystems]
    exact List.mem_cons_of_mem _ List.mem_cons_self
  have linked : c.linked? "thule" = some 3 := by
    show (c.systems.find? _).map _ = _
    rw [hsystems]
    rfl
  refine ⟨c, made, hsystems, there, ?_, ?_⟩
  · rw [hstations, List.map_cons, List.map_nil]
    exact congrArg (fun address => [{ orbis "thule" with address }]) linked
  · rw [lookUp, there]

end Chart

end Astrogation
