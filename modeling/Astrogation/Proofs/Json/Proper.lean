import Astrogation.Proofs.Json.Tokens

/-!
# What is read is proper

Whatever a text holds: the numbers of the value that is read are finite, and its whole numbers
have no more than 64 bits (`isProper_of_read?`).
-/

namespace Astrogation.Json

theorem isProper_int {n : Int} : (int n).isProper = true ↔ -2 ^ 63 ≤ n ∧ n < 2 ^ 64 :=
  decide_eq_true_iff

/-- A number which is too large is read as no value, so none is left that is not finite. -/
theorem isProper_finiteNumber (x : Float) : (finiteNumber x).isProper = true := by
  rw [finiteNumber]
  split
  · next finite => exact finite
  · rfl

/-- A whole number of more than 64 bits is read as the number with places nearest to it. -/
theorem isProper_wholeNumber (negative : Bool) (n : Nat) :
    (wholeNumber negative n).isProper = true := by
  rw [wholeNumber]
  split
  · split
    · exact show (-0.0 : Float).isFinite = true by decide +kernel
    · split
      · next bound =>
        have bound : n ≤ 2 ^ 63 := bound
        rw [isProper_int, Int.ofNat_eq_natCast]
        omega
      · exact isProper_finiteNumber _
  · split
    · next bound =>
      rw [UInt64.size] at bound
      rw [isProper_int, Int.ofNat_eq_natCast]
      omega
    · exact isProper_finiteNumber _

/-- Whichever parts a number in a text has, what is read is proper. -/
theorem isProper_of_readNumber? {cs rest : List Char} {value : Json}
    (h : readNumber? cs = some (value, rest)) : value.isProper = true := by
  obtain ⟨negative, -, -, -, -, -, -⟩ := numeral_of_read h
  rw [numberOf.eq_def]
  split
  · exact isProper_wholeNumber _ _
  · exact isProper_finiteNumber _

theorem isProper_nested {value : Json} (depth : Nat) (h : value.isProper = true) :
    (nested depth value).isProper = true := by
  cases depth with
  | zero => rfl
  | succ depth => exact h

/-- An object is as proper as its members, also if a key is missing and it is no value. -/
theorem isProper_objectOf {members : List (Option String × Json)}
    (h : ∀ m ∈ members, m.2.isProper = true) : (objectOf members).isProper = true := by
  rw [objectOf]
  split
  · next named all =>
    refine allMembersProper_iff.2 ?_
    induction members generalizing named with
    | nil =>
      obtain rfl := Option.some.inj all
      exact List.forall_mem_nil _
    | cons m members ih =>
      rw [List.mapM_cons] at all
      obtain ⟨first, hfirst, all⟩ := Option.bind_eq_some_iff.1 all
      obtain ⟨others, hothers, same⟩ := Option.bind_eq_some_iff.1 all
      obtain ⟨key, -, rfl⟩ := Option.map_eq_some_iff.1 hfirst
      obtain rfl := Option.some.inj same
      exact List.forall_mem_cons.2 ⟨h m List.mem_cons_self,
        ih (fun m' hm' => h m' (List.mem_cons_of_mem m hm')) others hothers⟩
  · rfl

/-- Whatever is read within some steps is proper. -/
theorem isProper_of_steps (steps : Nat) :
    (∀ depth cs value rest, readValue? steps depth cs = some (value, rest) →
      value.isProper = true) ∧
    (∀ depth cs items rest, readItems? steps depth cs = some (items, rest) →
      ∀ item ∈ items, item.isProper = true) ∧
    ∀ depth cs members rest, readMembers? steps depth cs = some (members, rest) →
      ∀ m ∈ members, m.2.isProper = true := by
  -- Each of the three readers makes a step before it uses another.
  induction steps with
  | zero =>
    exact ⟨fun _ _ _ _ none => (nomatch none), fun _ _ _ _ none => (nomatch none),
      fun _ _ _ _ none => (nomatch none)⟩
  | succ steps ih =>
    obtain ⟨values, items, members⟩ := ih
    refine ⟨fun depth cs value rest h => ?value, fun depth cs read rest h => ?items,
      fun depth cs read rest h => ?members⟩
    case value =>
      rw [readValue?] at h
      split at h
      · cases h; rfl
      · cases h; rfl
      · cases h; rfl
      · obtain ⟨⟨contents, rest'⟩, -, same⟩ := Option.map_eq_some_iff.1 h
        cases contents <;> cases same <;> rfl
      · split at h
        · cases h
          exact isProper_nested depth rfl
        · obtain ⟨⟨read, rest'⟩, hread, same⟩ := Option.map_eq_some_iff.1 h
          cases same
          exact isProper_nested depth (allProper_iff.2 (items _ _ read _ hread))
      · split at h
        · cases h
          exact isProper_nested depth rfl
        · obtain ⟨⟨read, rest'⟩, hread, same⟩ := Option.map_eq_some_iff.1 h
          cases same
          exact isProper_nested depth (isProper_objectOf (members _ _ read _ hread))
      · exact isProper_of_readNumber? h
    case items =>
      rw [readItems?] at h
      split at h
      · next item rest' hitem =>
        have first := values _ _ item _ hitem
        split at h
        · obtain ⟨⟨others, rest''⟩, hothers, same⟩ := Option.map_eq_some_iff.1 h
          cases same
          exact List.forall_mem_cons.2 ⟨first, items _ _ others _ hothers⟩
        · cases h
          exact List.forall_mem_singleton.2 first
        · cases h
      · cases h
    case members =>
      rw [readMembers?] at h
      split at h
      · split at h
        · next value rest' hvalue =>
          have first := values _ _ value _ hvalue
          split at h
          · obtain ⟨⟨others, rest''⟩, hothers, same⟩ := Option.map_eq_some_iff.1 h
            cases same
            exact List.forall_mem_cons.2 ⟨first, members _ _ others _ hothers⟩
          · cases h
            exact List.forall_mem_singleton.2 first
          · cases h
        · cases h
      · cases h

/-- A value that is read from a text is proper. -/
theorem isProper_of_read? {text : String} {value : Json} (h : read? text = some value) :
    value.isProper = true := by
  rw [read?] at h
  split at h
  · next read rest hread =>
    split at h
    · exact Option.some.inj h ▸ (isProper_of_steps _).1 _ _ _ _ hread
    · cases h
  · cases h

end Astrogation.Json
