import Astrogation.Call
import Astrogation.Mission.Basic
import Astrogation.Station.Basic

/-!
# Travellers

Who asks: where they are, their ship, their fleet carrier and their missions. A
`Traveller` is asked for each of them when it is needed; a `TravellerState` is
what they all are at one moment.
-/

namespace Astrogation

/-- The ship of a traveller. -/
structure Ship where
  name : String := ""
  /-- How far it jumps, in light-years. -/
  jumpRange : Float
  pad : Pad
  deriving BEq, Repr

/-- The fleet carrier of a traveller. -/
structure Carrier where
  name : String := ""
  /-- The name of the system it is in. -/
  system : Option String := none
  usedCapacity : UInt32 := 0
  deriving DecidableEq, Repr

/-- What is known of a traveller at a moment. -/
structure TravellerState where
  system : Option Waypoint := none
  ship : Option Ship := none
  carrier : Option Carrier := none
  missions : List Mission := []

/-- What a traveller is asked. -/
structure Traveller where
  system : Call (Option Waypoint)
  ship : Call (Option Ship)
  carrier : Call (Option Carrier)
  missions : Call (List Mission)

/-- The traveller who answers from a state. -/
def TravellerState.traveller (s : TravellerState) : Traveller :=
  ⟨.reply s.system, .reply s.ship, .reply s.carrier, .reply s.missions⟩

end Astrogation
