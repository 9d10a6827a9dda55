import Astrogation.Resolver.Circuit
import Astrogation.Resolver.Destinations
import Astrogation.Resolver.Facility
import Astrogation.Resolver.Plots

/-!
# The registry of resolvers

A `Registry` has at most one resolver for each type of query. Of several that are
registered for a type, the first stays.
-/

namespace Astrogation

/-- The resolvers for the types of queries. -/
structure Registry where
  get? : QueryType → Option Resolver
  type_eq : ∀ q r, get? q = some r → r.type = q

namespace Registry

/-- The registry without resolvers. -/
def empty : Registry := ⟨fun _ => none, by simp⟩

/-- Whether there is a resolver for a type. -/
def contains (g : Registry) (q : QueryType) : Bool := (g.get? q).isSome

/-- The types for which there is a resolver, in their order. -/
def types (g : Registry) : List QueryType := QueryType.all.filter g.contains

/-- The number of resolvers. -/
def size (g : Registry) : Nat := g.types.length

/-- The registry with a resolver, whatever it had for its type. -/
def insert (g : Registry) (r : Resolver) : Registry where
  get? q := if q = r.type then some r else g.get? q
  type_eq q s h := by
    split at h
    · next e => cases h; exact e.symm
    · exact g.type_eq q s h

/-- The registry with one more resolver, unless it has one for the type. -/
def register (g : Registry) (r : Resolver) : Except Fault Registry :=
  if g.contains r.type then .error (.duplicateResolver r.type) else .ok (g.insert r)

/-- The registry of some resolvers, the first for each type. -/
def ofResolvers (resolvers : List Resolver) : Registry :=
  resolvers.foldl (fun g r => (g.register r).toOption.getD g) empty

/-- The built-in resolvers, one for each type. -/
def builtIn : List Resolver :=
  [.scoop, .neutron, .set, .expiring, .farthest, .most, .nearest, .circuit, .source, .carrier,
    .cancel, .update] ++ QueryType.all.filterMap Resolver.facility?

/-- The registry of the built-in resolvers. -/
def standard : Registry := ofResolvers builtIn

/-- The title of a type: its name with capitals instead of underscores. -/
def title (q : QueryType) : String :=
  String.ofList ((q.name.toList.foldl step ([], true)).1.reverse)
where
  /-- The title after one more character, and whether the next is a capital. -/
  step : List Char × Bool → Char → List Char × Bool
    | (title, _), '_' => (title, true)
    | (title, true), c => (c.toUpper :: title, false)
    | (title, false), c => (c :: title, false)

/-- A one-line description of a registry. -/
def description (g : Registry) : String :=
  "ResolverRegistry \x7b query_types: [" ++ ", ".intercalate (g.types.map title) ++ "] \x7d"

@[simp]
theorem get?_insert (g : Registry) (r : Resolver) (q : QueryType) :
    (g.insert r).get? q = if q = r.type then some r else g.get? q := rfl

end Registry

end Astrogation
