import Astrogation.Document.Mission
import Astrogation.Document.Station
import Astrogation.Traveller

/-!
# Documents of travellers

A file of a traveller's state gives the name of the system they are in; which
system that is has to be looked up.
-/

namespace Astrogation

open Json

namespace Ship

def toJson (s : Ship) : Json :=
  object
    [("name", string s.name), ("jump_range_ly", float s.jumpRange), ("landing_pad", s.pad.toJson)]

def ofJson? (value : Json) : Option Ship := do
  let m ← record? ["name", "jump_range_ly", "landing_pad"] value
  some
    { name := ← defaulted? m "name" "" toString?
      jumpRange := ← required? m "jump_range_ly" toFloat?
      pad := ← required? m "landing_pad" Pad.ofJson? }

end Ship

namespace Carrier

def toJson (c : Carrier) : Json :=
  object <|
    ("name", string c.name) :: member? "current_system" string c.system ++
      [("used_capacity", ofNat c.usedCapacity.toNat)]

def ofJson? (value : Json) : Option Carrier := do
  let m ← record? ["name", "current_system", "used_capacity"] value
  some
    { name := ← defaulted? m "name" "" toString?
      system := ← optional? m "current_system" toString?
      usedCapacity := ← defaulted? m "used_capacity" 0 toUInt32? }

end Carrier

/-- A traveller's state as it is stored. -/
structure TravellerRecord where
  systemName : Option String := none
  ship : Option Ship := none
  carrier : Option Carrier := none
  missions : List Mission := []

def TravellerRecord.ofJson? (value : Json) : Option TravellerRecord := do
  let m ← record? ["current_system", "ship", "carrier", "missions"] value
  some
    { systemName := ← optional? m "current_system" toString?
      ship := ← optional? m "ship" Ship.ofJson?
      carrier := ← optional? m "carrier" Carrier.ofJson?
      missions := ← defaulted? m "missions" [] (listOf? Mission.ofJson?) }

end Astrogation
