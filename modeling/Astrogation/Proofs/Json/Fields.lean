import Astrogation.Proofs.Json.Plain

/-!
# Fields of records

A record is written as the members of those of its fields that have a value (`written`). What
its fields are given does not depend on the order of the members, nor on members which are no
fields (`gives_of_rearranged`). So a reader which only looks at its fields finds in a rearranged
object what it finds in the one that was written.

The fields of a proper value are given proper values. So what a reader makes of proper values
(`Yields`) is also what it makes of fields and lists of them.
-/

namespace Astrogation.Json

variable {α β : Type}

/-! ## Members of objects -/

/-- The members which are written for fields: none for a field without a value. -/
def written (entries : List (String × Option Json)) : List (String × Json) :=
  entries.filterMap fun e => e.2.map (e.1, ·)

/-- The value that is written for a list: none if it is empty. -/
def listValue? (write : α → Json) (as : List α) : Option Json :=
  if as.isEmpty then none else some (array (as.map write))

/-- What is read back of the values of fields. -/
def plainEntries (entries : List (String × Option Json)) : List (String × Option Json) :=
  entries.map fun e => (e.1, e.2.map plain)

/-- Members which give these values to fields, and nothing to fields without a value. -/
def Gives (members : List (String × Json)) (entries : List (String × Option Json)) : Prop :=
  ∀ e ∈ entries, field? members e.1 = some e.2

/-- The members of an object in any order, among others that are no fields. -/
def Rearranged (fields : List String) (value : Json) (members : List (String × Json)) : Prop :=
  ∃ own others, value = object own ∧ members.Perm (own ++ others) ∧
    ∀ o ∈ others, o.1 ∉ fields ∧ o.2.isReadable = true

section

variable {members : List (String × Json)} {entries : List (String × Option Json)} {key : String}

@[simp]
theorem gives_nil (members : List (String × Json)) : Gives members [] := List.forall_mem_nil _

@[simp]
theorem gives_cons {value? : Option Json} : Gives members ((key, value?) :: entries) ↔
    field? members key = some value? ∧ Gives members entries :=
  List.forall_mem_cons

theorem written_nil : written [] = [] := rfl

theorem written_cons_some (key : String) (value : Json) :
    written ((key, some value) :: entries) = (key, value) :: written entries := rfl

theorem written_cons_map (key : String) (write : α → Json) (a? : Option α) :
    written ((key, a?.map write) :: entries) = member? key write a? ++ written entries := by
  cases a? with
  | none => rfl
  | some a => rfl

theorem written_cons_listValue? (key : String) (write : α → Json) (as : List α) :
    written ((key, listValue? write as) :: entries) =
      listMember? key write as ++ written entries := by
  cases as with
  | nil => rfl
  | cons a as => rfl

/-- What is read back of a record is the record of what is read back of its fields. -/
theorem plain_written (entries : List (String × Option Json)) :
    (object (written entries)).plain = object (written (plainEntries entries)) := by
  rw [plain_object, written, written, plainEntries, List.map_filterMap, List.filterMap_map]
  congr 2
  funext ⟨key, value?⟩
  cases value? <;> rfl

theorem keys_plainEntries (entries : List (String × Option Json)) :
    (plainEntries entries).map (·.1) = entries.map (·.1) := by
  rw [plainEntries, List.map_map]
  rfl

/-- The members for one field are no more than one. -/
theorem filter_written {value? : Option Json} (distinct : (entries.map (·.1)).Nodup)
    (h : (key, value?) ∈ entries) :
    (written entries).filter (·.1 == key) = (value?.map (key, ·)).toList := by
  induction entries with
  | nil => cases h
  | cons e entries ih =>
    obtain ⟨fresh, distinct⟩ := List.nodup_cons.1 distinct
    -- Nothing behind is written for the first field.
    have others : ∀ m ∈ written entries, m.1 ≠ e.1 := by
      intro m hm same
      obtain ⟨e', he', hm'⟩ := List.mem_filterMap.1 hm
      obtain ⟨value, -, rfl⟩ := Option.map_eq_some_iff.1 hm'
      exact fresh (List.mem_map.2 ⟨e', he', same⟩)
    have split : written (e :: entries) = (e.2.map (e.1, ·)).toList ++ written entries := by
      rw [written, List.filterMap_cons]
      cases e.2 <;> rfl
    rw [split, List.filter_append]
    rcases List.mem_cons.1 h with rfl | h
    · have none : (written entries).filter (·.1 == key) = [] :=
        List.filter_eq_nil_iff.2 fun m hm => by simpa using others m hm
      rw [none, List.append_nil]
      cases value? <;> simp
    · have away : e.1 ≠ key := fun same => fresh (List.mem_map.2 ⟨_, h, same.symm⟩)
      rw [ih distinct h]
      cases e.2 <;> simp [away]

/-- What the values of fields have in common, the members have that are written for them. -/
theorem forall_written {P : Json → Prop}
    (h : ∀ e ∈ entries, ∀ value, e.2 = some value → P value) : ∀ m ∈ written entries, P m.2 := by
  intro m hm
  obtain ⟨e, he, hm⟩ := List.mem_filterMap.1 hm
  obtain ⟨value, given, rfl⟩ := Option.map_eq_some_iff.1 hm
  exact h e he value given

theorem eq_of_listValue? {write : α → Json} {as : List α} {value : Json}
    (h : listValue? write as = some value) : value = array (as.map write) := by
  rw [listValue?] at h
  split at h
  · cases h
  · exact (Option.some.inj h).symm

/-- Rearranged members give fields what the members that were written give them. -/
theorem Rearranged.gives {fields : List String}
    (h : Rearranged fields (object (written entries)) members) (distinct : fields.Nodup)
    (keys : entries.map (·.1) = fields) : Gives members entries := by
  obtain ⟨own, others, same, perm, unknown⟩ := h
  obtain rfl := object.inj same
  subst keys
  intro e he
  have none : others.filter (·.1 == e.1) = [] :=
    List.filter_eq_nil_iff.2 fun o ho here =>
      (unknown o ho).1 (beq_iff_eq.1 here ▸ List.mem_map_of_mem he)
  -- At most one member is left for a field, and one member has only one order.
  have kept := perm.filter (·.1 == e.1)
  rw [List.filter_append, none, List.append_nil, filter_written distinct he] at kept
  rw [field?]
  cases hvalue : e.2 with
  | none =>
    rw [hvalue] at kept
    rw [List.perm_nil.1 kept]
  | some value =>
    rw [hvalue] at kept
    rw [List.perm_singleton.1 kept]

/-- Rearranged members give fields what is read back of the values that were written. -/
theorem Rearranged.gives_plain {fields : List String}
    (h : Rearranged fields (object (written entries)).plain members) (distinct : fields.Nodup)
    (keys : entries.map (·.1) = fields) : Gives members (plainEntries entries) := by
  rw [plain_written] at h
  exact h.gives distinct ((keys_plainEntries entries).trans keys)

/-- Members which are readable stay so when they are rearranged. -/
theorem Rearranged.readable {fields : List String} {value : Json}
    (h : Rearranged fields value members) (readable : value.isReadable = true) :
    allMembersReadable members = true := by
  obtain ⟨own, others, rfl, perm, unknown⟩ := h
  rw [allMembersReadable_iff]
  intro m hm
  rcases List.mem_append.1 (perm.mem_iff.1 hm) with hm | hm
  · exact allMembersReadable_iff.1 readable m hm
  · exact (unknown m hm).2

theorem rearranged_self (fields : List String) (members : List (String × Json)) :
    Rearranged fields (object members) members :=
  ⟨members, [], rfl, by rw [List.append_nil], List.forall_mem_nil _⟩

end

/-! ## What is read from a field -/

section

variable {members : List (String × Json)} {key : String} {read? : Json → Option α} {value : Json}

theorem required?_of_field? (h : field? members key = some (some value)) :
    required? members key read? = read? value := by
  rw [required?, h]

theorem defaulted?_of_field? {fallback : α} (h : field? members key = some (some value)) :
    defaulted? members key fallback read? = read? value := by
  rw [defaulted?, h]

/-- A field which is left out if it has no value. -/
theorem optional?_of_map {write : β → Json} {f : β → α} {b? : Option β}
    (h : field? members key = some (b?.map write)) (null : read? null = none)
    (reads : ∀ b, b? = some b → read? (write b) = some (f b)) :
    optional? members key read? = some (b?.map f) := by
  rw [optional?, h]
  cases b? with
  | none => rfl
  | some b =>
    have reads := reads b rfl
    dsimp only [Option.map_some]
    split
    · next absent => cases absent
    · next absent =>
      rw [Option.some.inj (Option.some.inj absent), null] at reads
      cases reads
    · next value _ given =>
      rw [← Option.some.inj (Option.some.inj given), reads]
      rfl
    · next missing => cases missing

/-- A field which is left out if it has no value, and whose value is read as it was written. -/
theorem optional?_of_reads {write : α → Json} {a? : Option α}
    (h : field? members key = some (a?.map write)) (null : read? null = none)
    (reads : ∀ a, read? (write a) = some a) : optional? members key read? = some a? := by
  rw [optional?_of_map (f := id) h null fun a _ => reads a, Option.map_id_apply]

/-- A field which is `null` if it has no value. -/
theorem optional?_of_ofOption {write : β → Json} {f : β → α} {b? : Option β}
    (h : field? members key = some (some (ofOption write b?))) (null : read? null = none)
    (reads : ∀ b, b? = some b → read? (write b) = some (f b)) :
    optional? members key read? = some (b?.map f) := by
  cases b? with
  | none => rw [optional?, h]; rfl
  | some b =>
    have h : field? members key = some ((some b).map write) := h
    exact optional?_of_map h null reads

theorem optional?_of_ofOption_reads {write : α → Json} {a? : Option α}
    (h : field? members key = some (some (ofOption write a?))) (null : read? null = none)
    (reads : ∀ a, a? = some a → read? (write a) = some a) :
    optional? members key read? = some a? := by
  rw [optional?_of_ofOption (f := id) h null reads, Option.map_id_apply]

/-- Of a number which is left out if it has no value, what is finite is read back. -/
theorem optional?_finite {x? : Option Float}
    (h : field? members key = some (x?.map fun x => (float x).plain)) :
    optional? members key toFloat? = some (x?.filter (·.isFinite)) := by
  cases x? with
  | none => rw [optional?, h]; rfl
  | some x =>
    rw [Option.map_some] at h
    by_cases finite : x.isFinite
    · rw [plain_float finite] at h
      rw [optional?, h, Option.filter_some_pos finite]
      rfl
    · rw [plain_float_of_not finite] at h
      rw [optional?, h, Option.filter_some_neg (Bool.eq_false_of_not_eq_true finite)]

end

/-! ## What proper values give -/

/-- What a reader makes of proper values. -/
def Yields (read? : Json → Option α) (P : α → Prop) : Prop :=
  ∀ value a, value.isProper = true → read? value = some a → P a

section

variable {members : List (String × Json)} {key : String} {read? : Json → Option α} {P : α → Prop}

/-- The value which is given to a field is proper if the members are. -/
theorem isProper_of_field? {value : Json} (proper : allMembersProper members = true)
    (h : field? members key = some (some value)) : value.isProper = true := by
  rw [field?] at h
  split at h
  · cases h
  · next m only =>
    have given : m ∈ members := (List.mem_filter.1 (only ▸ List.mem_singleton_self m)).1
    exact Option.some.inj (Option.some.inj h) ▸ allMembersProper_iff.1 proper m given
  · cases h

theorem allMembersProper_of_record? {fields : List String} {value : Json}
    (proper : value.isProper = true) (h : record? fields value = some members) :
    allMembersProper members = true := by
  cases value with
  | object own => exact Option.some.inj h ▸ proper
  | array items =>
    rw [record?] at h
    split at h
    · obtain rfl := Option.some.inj h
      exact allMembersProper_iff.2 fun m hm =>
        allProper_iff.1 proper m.2 (List.of_mem_zip hm).2
    · cases h
  | _ => cases h

/-- A number which is read of a proper value is finite. -/
theorem yields_toFloat? : Yields toFloat? fun x => x.isFinite := fun _ _ => isFinite_of_toFloat?

theorem Yields.required (h : Yields read? P) (proper : allMembersProper members = true) {a : α}
    (given : required? members key read? = some a) : P a := by
  rw [required?] at given
  split at given
  · next value here => exact h value a (isProper_of_field? proper here) given
  · cases given

theorem Yields.optional (h : Yields read? P) (proper : allMembersProper members = true)
    {a? : Option α} (given : optional? members key read? = some a?) : ∀ a, a? = some a → P a := by
  rintro a rfl
  rw [optional?] at given
  split at given
  · cases given
  · cases given
  · next value _ here =>
    obtain ⟨a', read, same⟩ := Option.map_eq_some_iff.1 given
    exact Option.some.inj same ▸ h value a' (isProper_of_field? proper here) read
  · cases given

theorem Yields.defaulted (h : Yields read? P) (proper : allMembersProper members = true)
    {fallback a : α} (default : P fallback)
    (given : defaulted? members key fallback read? = some a) : P a := by
  rw [defaulted?] at given
  split at given
  · exact Option.some.inj given ▸ default
  · next value here => exact h value a (isProper_of_field? proper here) given
  · cases given

/-- What a reader makes of proper values, it makes of the items of a proper list. -/
theorem Yields.listOf (h : Yields read? P) : Yields (listOf? read?) fun as => ∀ a ∈ as, P a := by
  intro value as proper read
  cases value with
  | array items =>
    replace proper := allProper_iff.1 proper
    rw [listOf?] at read
    induction items generalizing as with
    | nil =>
      obtain rfl := Option.some.inj read
      exact List.forall_mem_nil _
    | cons item items ih =>
      rw [List.mapM_cons] at read
      obtain ⟨a, ha, read⟩ := Option.bind_eq_some_iff.1 read
      obtain ⟨rest, hrest, same⟩ := Option.bind_eq_some_iff.1 read
      obtain rfl := Option.some.inj same
      exact List.forall_mem_cons.2 ⟨h item a (proper item List.mem_cons_self) ha,
        ih rest hrest fun i hi => proper i (List.mem_cons_of_mem item hi)⟩
  | _ => cases read

end

end Astrogation.Json
