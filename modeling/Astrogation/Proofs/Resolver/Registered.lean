import Astrogation.Resolver.Registry
import Mathlib.Data.List.Dedup
import Mathlib.Data.List.Induction
import Mathlib.Data.List.Sort

/-!
# Registering resolvers in turn

A resolver is *offered* to a registry, which stays as it is if there is one for its type already
(`Registry.offer`). After several have been offered in turn, the registry has the first of each type
(`Registry.get?_ofResolvers`), and so an offer fails if and only if an earlier one was of the same
type (`Registry.first_stays`).

The registry may be kept as a map which is ordered by the types, with a search before each insertion
(`Shelf`). Such a map answers the same to all offers, has the same resolvers, and lists their types
in the same order as the registry it stands for (`Shelf.Holds`).
-/

namespace Astrogation

/-! ## Offers in turn -/

section InTurn

variable {S T : Type} {offer : S → Resolver → Except Fault Unit × S}
  {offer' : T → Resolver → Except Fault Unit × T}

/-- Resolvers are offered to a collection one after the other: what comes of each offer, and the
    collection after the last. -/
def inTurn (offer : S → Resolver → Except Fault Unit × S) :
    S → List Resolver → List (Except Fault Unit) × S
  | s, [] => ([], s)
  | s, r :: rest =>
    let (outcome, s') := offer s r
    let (outcomes, last) := inTurn offer s' rest
    (outcome :: outcomes, last)

theorem inTurn_cons (s : S) (r : Resolver) (rest : List Resolver) :
    inTurn offer s (r :: rest) =
      ((offer s r).1 :: (inTurn offer (offer s r).2 rest).1,
        (inTurn offer (offer s r).2 rest).2) := rfl

theorem inTurn_append (s : S) (rs rs' : List Resolver) :
    inTurn offer s (rs ++ rs') =
      ((inTurn offer s rs).1 ++ (inTurn offer (inTurn offer s rs).2 rs').1,
        (inTurn offer (inTurn offer s rs).2 rs').2) := by
  induction rs generalizing s with
  | nil => rfl
  | cons r rest ih =>
    rw [List.cons_append, inTurn_cons, inTurn_cons, ih]
    rfl

theorem length_inTurn (s : S) (rs : List Resolver) : (inTurn offer s rs).1.length = rs.length := by
  induction rs generalizing s with
  | nil => rfl
  | cons r rest ih => exact congrArg (· + 1) (ih _)

/-- What comes of an offer depends on the collection after the earlier ones. -/
theorem getElem?_inTurn (s : S) (before : List Resolver) (r : Resolver) (after : List Resolver) :
    (inTurn offer s (before ++ r :: after)).1[before.length]? =
      some (offer (inTurn offer s before).2 r).1 := by
  rw [inTurn_append, ← length_inTurn s before, List.getElem?_append_right (Nat.le_refl _),
    Nat.sub_self]
  rfl

/-- Two collections which answer the same to each offer answer the same to all. -/
theorem inTurn_simulation {R : S → T → Prop}
    (step : ∀ s t r, R s t → (offer s r).1 = (offer' t r).1 ∧ R (offer s r).2 (offer' t r).2)
    {s : S} {t : T} (h : R s t) (rs : List Resolver) :
    (inTurn offer s rs).1 = (inTurn offer' t rs).1 ∧
      R (inTurn offer s rs).2 (inTurn offer' t rs).2 := by
  induction rs generalizing s t with
  | nil => exact ⟨rfl, h⟩
  | cons r rest ih =>
    obtain ⟨same, next⟩ := step s t r h
    obtain ⟨rest_same, last⟩ := ih next
    exact ⟨congrArg₂ List.cons same rest_same, last⟩

end InTurn

/-! ## The order of the types -/

namespace QueryType

/-- The place of a type in their order. -/
def place (q : QueryType) : Nat := all.idxOf q

/-- No two types have the same place. -/
theorem place_inj {p q : QueryType} : p.place = q.place ↔ p = q :=
  List.idxOf_inj (mem_all p)

theorem pairwise_place : all.Pairwise (·.place < ·.place) := by decide

theorem nodup_all : all.Nodup := by decide

/-- The order of the types by their places. -/
def order : QueryType → QueryType → Ordering := compareOn place

theorem order_eq_lt_iff {p q : QueryType} : order p q = .lt ↔ p.place < q.place :=
  Nat.compare_eq_lt

theorem order_eq_eq_iff {p q : QueryType} : order p q = .eq ↔ p = q :=
  Nat.compare_eq_eq.trans place_inj

instance : Std.TransCmp order := inferInstanceAs (Std.TransCmp (compareOn place))

instance : Std.LawfulEqCmp order where
  eq_of_compare := order_eq_eq_iff.1

end QueryType

/-! ## Registries -/

namespace Registry

variable {g : Registry} {q : QueryType} {r : Resolver}

/-- A resolver is registered in place: if this fails, the registry stays as it is. -/
def offer (g : Registry) (r : Resolver) : Except Fault Unit × Registry :=
  match g.register r with
  | .ok g' => (.ok (), g')
  | .error fault => (.error fault, g)

/-- An offer fails if there is a resolver of the same type, and changes nothing. -/
theorem offer_of_contains (h : g.contains r.type = true) :
    g.offer r = (.error (.duplicateResolver r.type), g) := by
  rw [offer, register, if_pos h]

theorem offer_of_not_contains (h : ¬g.contains r.type = true) :
    g.offer r = (.ok (), g.insert r) := by
  rw [offer, register, if_neg h]

/-- The resolvers that there are stay, and the one which is offered comes to the place of its type
    if that is free. -/
theorem get?_offer (g : Registry) (r : Resolver) (q : QueryType) :
    (g.offer r).2.get? q = (g.get? q).or (if r.type = q then some r else none) := by
  by_cases taken : g.contains r.type = true
  · rw [g.offer_of_contains taken]
    split
    · next same =>
      subst same
      obtain ⟨s, hs⟩ := Option.isSome_iff_exists.1 taken
      rw [hs, Option.some_or]
    · exact Option.or_none.symm
  · rw [g.offer_of_not_contains taken, get?_insert]
    by_cases same : r.type = q
    · subst same
      rw [if_pos rfl, if_pos rfl, Option.not_isSome_iff_eq_none.1 taken, Option.none_or]
    · rw [if_neg (Ne.symm same), if_neg same, Option.or_none]

/-- To make a registry of one more resolver is to offer it last. -/
theorem ofResolvers_concat (rs : List Resolver) (r : Resolver) :
    ofResolvers (rs ++ [r]) = ((ofResolvers rs).offer r).2 := by
  rw [ofResolvers, List.foldl_append, List.foldl_cons, List.foldl_nil, ← ofResolvers, offer]
  cases (ofResolvers rs).register r with
  | ok g' => rfl
  | error fault => rfl

/-- The registry of some resolvers has the first of each type. -/
theorem get?_ofResolvers (rs : List Resolver) (q : QueryType) :
    (ofResolvers rs).get? q = rs.find? (·.type = q) := by
  induction rs using List.reverseRecOn with
  | nil => rfl
  | append_singleton rs r ih =>
    rw [ofResolvers_concat, get?_offer, ih, List.find?_append, List.find?_singleton]
    simp only [decide_eq_true_eq]

/-- To offer resolvers in turn to the registry without any is to make the registry of them. -/
theorem inTurn_offer (rs : List Resolver) : (inTurn offer empty rs).2 = ofResolvers rs := by
  induction rs using List.reverseRecOn with
  | nil => rfl
  | append_singleton rs r ih => rw [inTurn_append, ofResolvers_concat, ← ih]; rfl

theorem contains_ofResolvers_iff {rs : List Resolver} :
    (ofResolvers rs).contains q = true ↔ ∃ r ∈ rs, r.type = q := by
  rw [contains, get?_ofResolvers, List.find?_isSome]
  simp only [decide_eq_true_eq]

theorem mem_types : q ∈ g.types ↔ g.contains q = true := by
  rw [types, List.mem_filter, and_iff_right (QueryType.mem_all q)]

theorem pairwise_types (g : Registry) : g.types.Pairwise (·.place < ·.place) :=
  QueryType.pairwise_place.filter _

theorem nodup_types (g : Registry) : g.types.Nodup := QueryType.nodup_all.filter _

/-- A registry of some resolvers has as many as they have types. -/
theorem size_ofResolvers (rs : List Resolver) :
    (ofResolvers rs).size = (rs.map (·.type)).dedup.length := by
  refine List.Perm.length_eq ((List.perm_ext_iff_of_nodup (nodup_types _) (List.nodup_dedup _)).2
    fun q => ?_)
  rw [mem_types, contains_ofResolvers_iff, List.mem_dedup, List.mem_map]

end Registry

/-! ## Shelves -/

/-- Resolvers in a map which is ordered by their types. -/
abbrev Shelf := Std.TreeMap QueryType Resolver QueryType.order

namespace Shelf

variable {m : Shelf} {g : Registry}

/-- A resolver is put on a shelf unless there is one of its type. -/
def offer (m : Shelf) (r : Resolver) : Except Fault Unit × Shelf :=
  if m.contains r.type then (.error (.duplicateResolver r.type), m)
  else (.ok (), m.insert r.type r)

/-- The shelf has the resolvers of the registry. -/
def Holds (m : Shelf) (g : Registry) : Prop := ∀ q, m[q]? = g.get? q

theorem holds_empty : Holds ∅ .empty := fun _ => Std.TreeMap.getElem?_emptyc

theorem Holds.contains_eq (h : m.Holds g) (q : QueryType) : m.contains q = g.contains q := by
  rw [Std.TreeMap.contains_eq_isSome_getElem?, h q, Registry.contains]

/-- A shelf and the registry that it stands for answer the same to an offer, and it still stands
    for it afterwards. -/
theorem Holds.offer (h : m.Holds g) (r : Resolver) :
    (m.offer r).1 = (g.offer r).1 ∧ (m.offer r).2.Holds (g.offer r).2 := by
  rw [Shelf.offer, h.contains_eq]
  by_cases taken : g.contains r.type = true
  · rw [if_pos taken, g.offer_of_contains taken]
    exact ⟨rfl, h⟩
  · rw [if_neg taken, g.offer_of_not_contains taken]
    refine ⟨rfl, fun q => ?_⟩
    rw [Std.TreeMap.getElem?_insert, Registry.get?_insert, h q]
    by_cases same : q = r.type
    · rw [if_pos same, if_pos (QueryType.order_eq_eq_iff.2 same.symm)]
    · rw [if_neg same, if_neg fun eq => same (QueryType.order_eq_eq_iff.1 eq).symm]

theorem pairwise_keys (m : Shelf) : m.keys.Pairwise (·.place < ·.place) :=
  Std.TreeMap.ordered_keys.imp QueryType.order_eq_lt_iff.1

/-- A shelf lists the types in the same order as the registry that it stands for. -/
theorem Holds.keys_eq (h : m.Holds g) : m.keys = g.types := by
  -- Both are in the order of the places, so they need only have the same members.
  refine List.Perm.eq_of_pairwise (fun p q _ _ lt gt => absurd lt (Nat.lt_asymm gt))
    m.pairwise_keys g.pairwise_types ?_
  refine (List.perm_ext_iff_of_nodup Std.TreeMap.nodup_keys g.nodup_types).2 fun q => ?_
  rw [Std.TreeMap.mem_keys, ← Std.TreeMap.contains_iff_mem, h.contains_eq, Registry.mem_types]

theorem Holds.size_eq (h : m.Holds g) : m.size = g.size := by
  rw [Registry.size, ← h.keys_eq, Std.TreeMap.length_keys]

/-- Shelves and registries answer the same to resolvers which are offered in turn. -/
theorem holds_inTurn (rs : List Resolver) :
    (inTurn Shelf.offer ∅ rs).1 = (inTurn Registry.offer .empty rs).1 ∧
      (inTurn Shelf.offer ∅ rs).2.Holds (Registry.ofResolvers rs) := by
  rw [← Registry.inTurn_offer]
  exact inTurn_simulation (fun _ _ r h => h.offer r) holds_empty rs

end Shelf

namespace Registry

theorem types_ofResolvers (rs : List Resolver) :
    (ofResolvers rs).types = QueryType.all.filter fun q => rs.any (·.type = q) := by
  refine List.filter_congr fun q _ => ?_
  rw [Bool.eq_iff_iff, contains_ofResolvers_iff, List.any_eq_true]
  simp only [decide_eq_true_eq]

/-- An offer fails if and only if an earlier resolver has the same type. -/
theorem outcome_offer_ofResolvers (rs : List Resolver) (r : Resolver) :
    ((ofResolvers rs).offer r).1 =
      if ∃ e ∈ rs, e.type = r.type then .error (.duplicateResolver r.type) else .ok () := by
  by_cases taken : (ofResolvers rs).contains r.type = true
  · rw [offer_of_contains taken, if_pos (contains_ofResolvers_iff.1 taken)]
  · rw [offer_of_not_contains taken, if_neg fun h => taken (contains_ofResolvers_iff.2 h)]

/-- Of resolvers which are registered in turn the first of each type stays. To register one fails,
    with its type as a duplicate, if and only if an earlier one is of its type, and then the
    registry stays as it is. In the end the registry has for each type the first resolver of it,
    if there is one; its size is the number of their types, and it lists these once each in their
    order. It is also the registry which is made of all the resolvers at once.

    If they are kept in a map which is ordered by the types, it comes to the same. -/
theorem first_stays (resolvers : List Resolver) :
    let run := inTurn offer empty resolvers
    let shelved := inTurn Shelf.offer ∅ resolvers
    (run.1.length = resolvers.length ∧
      ∀ before r after, resolvers = before ++ r :: after →
        run.1[before.length]? = some
          (if ∃ e ∈ before, e.type = r.type then .error (.duplicateResolver r.type) else .ok ()) ∧
        ((∃ e ∈ before, e.type = r.type) →
          (inTurn offer empty (before ++ [r])).2 = (inTurn offer empty before).2)) ∧
    (∀ q, run.2.get? q = resolvers.find? (·.type = q)) ∧
    run.2.size = (resolvers.map (·.type)).dedup.length ∧
    (run.2.types = QueryType.all.filter (fun q => resolvers.any (·.type = q)) ∧
      run.2.types.Nodup) ∧
    ofResolvers resolvers = run.2 ∧
    shelved.1 = run.1 ∧ (∀ q, shelved.2[q]? = run.2.get? q) ∧
      shelved.2.keys = run.2.types ∧ shelved.2.size = run.2.size := by
  intro run shelved
  have last : run.2 = ofResolvers resolvers := inTurn_offer resolvers
  obtain ⟨same, holds⟩ := Shelf.holds_inTurn resolvers
  rw [last]
  refine ⟨⟨length_inTurn empty resolvers, ?_⟩, get?_ofResolvers resolvers,
    size_ofResolvers resolvers, ⟨types_ofResolvers resolvers, nodup_types _⟩, rfl, same, holds,
    holds.keys_eq, holds.size_eq⟩
  rintro before r after rfl
  constructor
  · rw [← outcome_offer_ofResolvers, ← inTurn_offer]
    exact getElem?_inTurn empty before r after
  · intro earlier
    rw [inTurn_offer, inTurn_offer, ofResolvers_concat,
      offer_of_contains (contains_ofResolvers_iff.2 earlier)]

/-- Of two resolvers of one type, the second is rejected. -/
example :
    ((inTurn offer empty [.cancel, .cancel, .nearest]).1.map Except.isOk,
      (ofResolvers [.cancel, .cancel, .nearest]).types) =
        ([true, false, true], [.nearest, .cancel]) := by
  decide

end Registry

end Astrogation
