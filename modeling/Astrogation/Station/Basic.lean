import Astrogation.Space.Waypoint

/-!
# Stations

A `Station` offers services and has pads up to a size. A search for a facility
asks for a service, a pad that is large enough, and a bound on the distance from
the star at which a ship arrives (`SearchFilter.accepts`).
-/

namespace Astrogation

/-- A service that stations offer. -/
inductive Service where
  | encodedMaterialTrader
  | manufacturedMaterialTrader
  | rawMaterialTrader
  | guardianTechBroker
  | humanTechBroker
  | interstellarFactors
  | facilitator
  | blackMarket
  deriving DecidableEq, Repr

/-- The size of a landing pad. -/
inductive Pad where
  | small
  | medium
  | large
  deriving DecidableEq, Repr

/-- The place of a size in the order from small to large. -/
def Pad.rank : Pad → Nat
  | small => 0
  | medium => 1
  | large => 2

/-- A station of a star system. -/
structure Station where
  name : String
  marketId : Option MarketId := none
  systemName : String
  address : Option Address := none
  /-- The distance from the star of arrival, in light-seconds. -/
  arrivalDistance : Float
  maxPad : Pad
  planetary : Bool := false
  services : List Service := []
  deriving BEq, Repr

/-- Whether a station offers a service. -/
def Station.offers (s : Station) (service : Service) : Bool := s.services.contains service

/-- Whether a ship which needs this pad, or any, can land at a station. -/
def Station.fits (s : Station) : (pad : Option Pad) → Bool
  | none => true
  | some pad => pad.rank ≤ s.maxPad.rank

/-- Whether a station has this name and is in the system of this name, whatever
    their case. -/
def Station.isNamed (s : Station) (system station : String) : Bool :=
  Text.sameIgnoringCase s.systemName system && Text.sameIgnoringCase s.name station

/-- What a search looks for. -/
inductive SearchCategory where
  /-- A star that fuel can be scooped from. -/
  | scoopableStar
  /-- A station which offers a service. -/
  | facility (service : Service)
  deriving DecidableEq, Repr

/-- What the answer to a search has to fulfil. -/
structure SearchFilter where
  category : SearchCategory
  /-- How far the system may be, in light-years. -/
  maxRadius : Option Float := none
  /-- How far the station may be from the star of arrival, in light-seconds. -/
  maxArrivalDistance : Option Float := none
  pad : Option Pad := none
  /-- Whether, in the same system, stations in orbit come first. -/
  preferOrbital : Bool := false
  deriving BEq, Repr

/-- Whether a number is within a bound, if there is one. -/
def withinBound (x : Float) : (bound : Option Float) → Bool
  | none => true
  | some bound => x ≤ bound

/-- Whether a station is what a search for a facility looks for. -/
def SearchFilter.accepts (f : SearchFilter) (s : Station) : Bool :=
  match f.category with
  | .scoopableStar => false
  | .facility service =>
    s.offers service && s.fits f.pad && withinBound s.arrivalDistance f.maxArrivalDistance

/-- The answer to a search: a system, or a station in it. -/
structure SearchMatch where
  waypoint : Waypoint
  arrivalDistance : Option Float
  deriving BEq, Repr

end Astrogation
