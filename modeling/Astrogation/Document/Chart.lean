import Astrogation.Chart.Basic
import Astrogation.Document.Station

/-!
# Documents of charts

A chart is stored as the list of its systems and that of its stations.
-/

namespace Astrogation

open Json

namespace StarSystem

def toJson (s : StarSystem) : Json :=
  object
    [("name", string s.name), ("address", ofUInt64 s.address), ("x", float s.position.x),
      ("y", float s.position.y), ("z", float s.position.z), ("scoopable", bool s.scoopable),
      ("neutron", bool s.neutron)]

def ofJson? (value : Json) : Option StarSystem := do
  let m ← record? ["name", "address", "x", "y", "z", "scoopable", "neutron"] value
  some
    { name := ← required? m "name" toString?
      address := ← required? m "address" toUInt64?
      position :=
        { x := ← required? m "x" toFloat?
          y := ← required? m "y" toFloat?
          z := ← required? m "z" toFloat? }
      scoopable := ← defaulted? m "scoopable" false toBool?
      neutron := ← defaulted? m "neutron" false toBool? }

end StarSystem

/-- The systems and stations that a document lists. -/
structure ChartRecords where
  systems : List StarSystem
  stations : List Station

def ChartRecords.ofJson? (value : Json) : Option ChartRecords := do
  let m ← record? ["systems", "stations"] value
  some
    { systems := ← required? m "systems" (listOf? StarSystem.ofJson?)
      stations := ← defaulted? m "stations" [] (listOf? Station.ofJson?) }

end Astrogation
