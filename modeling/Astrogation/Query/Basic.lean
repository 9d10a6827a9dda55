import Astrogation.Station.Basic
import Astrogation.Text.Basic

/-!
# Queries

What can be asked for: a `QueryType` and its arguments. Most types belong to a
group; the two that manage the plotted route do not.

A route that was plotted for one type may answer another if the types are
*continuous*: mission circuits among each other, and the other plots within their
group.
-/

namespace Astrogation

/-- The families of queries. -/
inductive QueryGroup where
  | galaxy
  | missions
  | services
  | carrier
  deriving DecidableEq, Repr

/-- The types of queries. -/
inductive QueryType where
  | scoop
  | neutron
  | set
  | expiring
  | farthest
  | most
  | nearest
  | route
  | source
  | encoded
  | manufactured
  | raw
  | guardian
  | human
  | interstellar
  | facilitator
  | blackMarket
  | carrier
  | cancel
  | update
  deriving DecidableEq, Repr

namespace QueryType

/-- All types, in their order. -/
def all : List QueryType :=
  [scoop, neutron, set, expiring, farthest, most, nearest, route, source, encoded, manufactured,
    raw, guardian, human, interstellar, facilitator, blackMarket, carrier, cancel, update]

/-- The group of a type; none for the management of the plotted route. -/
def group? : QueryType → Option QueryGroup
  | scoop | neutron | set => some .galaxy
  | expiring | farthest | most | nearest | route | source => some .missions
  | encoded | manufactured | raw | guardian | human | interstellar | facilitator | blackMarket =>
    some .services
  | carrier => some .carrier
  | cancel | update => none

/-- The service that a type looks for. -/
def service? : QueryType → Option Service
  | encoded => some .encodedMaterialTrader
  | manufactured => some .manufacturedMaterialTrader
  | raw => some .rawMaterialTrader
  | guardian => some .guardianTechBroker
  | human => some .humanTechBroker
  | interstellar => some .interstellarFactors
  | facilitator => some .facilitator
  | blackMarket => some .blackMarket
  | _ => none

/-- Whether a fresh route of this type is compared with the stored one. -/
def isContinuityChecked (q : QueryType) : Bool :=
  q.group? == some .galaxy || q.group? == some .carrier || q == route

/-- Whether a route stored for the type `r` may answer a query of type `q`. -/
def isContinuousWith (q r : QueryType) : Bool :=
  q.isContinuityChecked && r.isContinuityChecked &&
    if q == route || r == route then q == r else q.group? == r.group?

/-- The name of a type. -/
def name : QueryType → String
  | scoop => "scoop"
  | neutron => "neutron"
  | set => "set"
  | expiring => "expiring"
  | farthest => "farthest"
  | most => "most"
  | nearest => "nearest"
  | route => "route"
  | source => "source"
  | encoded => "encoded"
  | manufactured => "manufactured"
  | raw => "raw"
  | guardian => "guardian"
  | human => "human"
  | interstellar => "interstellar"
  | facilitator => "facilitator"
  | blackMarket => "black_market"
  | carrier => "carrier"
  | cancel => "cancel"
  | update => "update"

/-- The type with this name. -/
def ofName? (name : String) : Option QueryType := all.find? (·.name == name)

/-- The type that a text names: blanks around it and the case of its letters do
    not matter, and hyphens stand for underscores. -/
def read? (text : String) : Option QueryType :=
  let normalised := (Text.foldAscii (Text.trim text)).map fun c => if c == '-' then '_' else c
  ofName? (String.ofList normalised)

theorem mem_all (q : QueryType) : q ∈ all := by cases q <;> decide

end QueryType

/-- A question, with arguments of which each type takes its own. -/
structure Query where
  type : QueryType
  arg0 : Option String := none
  arg1 : Option String := none
  numeric : Option Float := none
  flag : Option Bool := none
  /-- Whether it was asked by hand. -/
  fromUi : Bool := false
  deriving BEq, Repr

namespace Query

/-- The first argument without blanks around it, unless it is blank. -/
def first? (q : Query) : Option String := q.arg0.bind Text.nonBlank?

/-- The second argument without blanks around it, unless it is blank. -/
def second? (q : Query) : Option String := q.arg1.bind Text.nonBlank?

end Query

end Astrogation
