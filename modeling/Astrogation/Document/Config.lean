import Astrogation.Document.Answer
import Astrogation.Document.Space
import Astrogation.Navigator.Memory

/-!
# Documents of configurations

Every member is written; one that is missing takes its value from the default
configuration.
-/

namespace Astrogation.Config

open Json

def toJson (c : Config) : Json :=
  object
    [("last_query", ofOption QueryType.toJson c.lastQuery),
      ("last_arg0", ofOption string c.lastArg0),
      ("last_arg1", ofOption string c.lastArg1),
      ("last_carrier_destination", ofOption string c.lastCarrierDestination),
      ("plotted_route", ofOption Route.toJson c.plottedRoute),
      ("plotted_query", ofOption QueryType.toJson c.plottedQuery),
      ("carrier_route", ofOption Route.toJson c.carrierRoute),
      ("max_station_distance_ls", float c.maxStationDistance),
      ("prioritize_orbital_stations", bool c.prioritizeOrbital)]

def ofJson? (value : Json) : Option Config := do
  let fallback : Config := {}
  let m ← record?
    ["last_query", "last_arg0", "last_arg1", "last_carrier_destination", "plotted_route",
      "plotted_query", "carrier_route", "max_station_distance_ls", "prioritize_orbital_stations"]
    value
  some
    { lastQuery := ← optional? m "last_query" QueryType.ofJson?
      lastArg0 := ← optional? m "last_arg0" toString?
      lastArg1 := ← optional? m "last_arg1" toString?
      lastCarrierDestination := ← optional? m "last_carrier_destination" toString?
      plottedRoute := ← optional? m "plotted_route" Route.ofJson?
      plottedQuery := ← optional? m "plotted_query" QueryType.ofJson?
      carrierRoute := ← optional? m "carrier_route" Route.ofJson?
      maxStationDistance :=
        ← defaulted? m "max_station_distance_ls" fallback.maxStationDistance toFloat?
      prioritizeOrbital :=
        ← defaulted? m "prioritize_orbital_stations" fallback.prioritizeOrbital toBool? }

end Astrogation.Config
