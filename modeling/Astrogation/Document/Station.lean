import Astrogation.Json.Record
import Astrogation.Station.Basic

/-!
# Documents of stations and searches
-/

namespace Astrogation

open Json

namespace Service

/-- All services. -/
def all : List Service :=
  [encodedMaterialTrader, manufacturedMaterialTrader, rawMaterialTrader, guardianTechBroker,
    humanTechBroker, interstellarFactors, facilitator, blackMarket]

/-- The name of a service. -/
def name : Service → String
  | encodedMaterialTrader => "encoded_material_trader"
  | manufacturedMaterialTrader => "manufactured_material_trader"
  | rawMaterialTrader => "raw_material_trader"
  | guardianTechBroker => "guardian_tech_broker"
  | humanTechBroker => "human_tech_broker"
  | interstellarFactors => "interstellar_factors"
  | facilitator => "facilitator"
  | blackMarket => "black_market"

def toJson (s : Service) : Json := string s.name

def ofJson? (value : Json) : Option Service :=
  (choice? value).bind fun name => all.find? (·.name == name)

end Service

namespace Pad

/-- All sizes, the smallest first. -/
def all : List Pad := [small, medium, large]

/-- The name of a size. -/
def name : Pad → String
  | small => "small"
  | medium => "medium"
  | large => "large"

def toJson (p : Pad) : Json := string p.name

def ofJson? (value : Json) : Option Pad :=
  (choice? value).bind fun name => all.find? (·.name == name)

end Pad

namespace Station

def toJson (s : Station) : Json :=
  object <|
    ("name", string s.name) :: member? "market_id" ofUInt64 s.marketId ++
    ("system_name", string s.systemName) :: member? "system_address" ofUInt64 s.address ++
    [("distance_from_arrival_ls", float s.arrivalDistance), ("max_pad", s.maxPad.toJson),
      ("planetary", bool s.planetary), ("services", array (s.services.map Service.toJson))]

def ofJson? (value : Json) : Option Station := do
  let m ← record?
    ["name", "market_id", "system_name", "system_address", "distance_from_arrival_ls", "max_pad",
      "planetary", "services"] value
  some
    { name := ← required? m "name" toString?
      marketId := ← optional? m "market_id" toUInt64?
      systemName := ← required? m "system_name" toString?
      address := ← optional? m "system_address" toUInt64?
      arrivalDistance := ← required? m "distance_from_arrival_ls" toFloat?
      maxPad := ← required? m "max_pad" Pad.ofJson?
      planetary := ← defaulted? m "planetary" false toBool?
      services := ← defaulted? m "services" [] (listOf? Service.ofJson?) }

end Station

namespace SearchCategory

def toJson : SearchCategory → Json
  | scoopableStar => string "scoopable_star"
  | facility service => object [("facility", service.toJson)]

def ofJson? : Json → Option SearchCategory
  | string "scoopable_star" => some scoopableStar
  | object [("scoopable_star", null)] => some scoopableStar
  | object [("facility", service)] => (Service.ofJson? service).map facility
  | _ => none

end SearchCategory

namespace SearchFilter

def toJson (f : SearchFilter) : Json :=
  object <|
    ("category", f.category.toJson) :: member? "max_radius_ly" float f.maxRadius ++
    member? "max_distance_from_arrival_ls" float f.maxArrivalDistance ++
    member? "landing_pad" Pad.toJson f.pad ++ [("prefer_orbital", bool f.preferOrbital)]

def ofJson? (value : Json) : Option SearchFilter := do
  let m ← record?
    ["category", "max_radius_ly", "max_distance_from_arrival_ls", "landing_pad", "prefer_orbital"]
    value
  some
    { category := ← required? m "category" SearchCategory.ofJson?
      maxRadius := ← optional? m "max_radius_ly" toFloat?
      maxArrivalDistance := ← optional? m "max_distance_from_arrival_ls" toFloat?
      pad := ← optional? m "landing_pad" Pad.ofJson?
      preferOrbital := ← defaulted? m "prefer_orbital" false toBool? }

end SearchFilter

end Astrogation
