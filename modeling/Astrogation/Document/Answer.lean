import Astrogation.Answer
import Astrogation.Document.Space

/-!
# Documents of queries and answers

Answers are only written.
-/

namespace Astrogation

open Json

namespace QueryType

def toJson (q : QueryType) : Json := string q.name

def ofJson? (value : Json) : Option QueryType := (choice? value).bind ofName?

end QueryType

namespace Query

def toJson (q : Query) : Json :=
  object <|
    ("query_type", q.type.toJson) :: member? "arg0" string q.arg0 ++ member? "arg1" string q.arg1 ++
    member? "numeric" float q.numeric ++ member? "flag" bool q.flag ++ [("from_ui", bool q.fromUi)]

def ofJson? (value : Json) : Option Query := do
  let m ← record? ["query_type", "arg0", "arg1", "numeric", "flag", "from_ui"] value
  some
    { type := ← required? m "query_type" QueryType.ofJson?
      arg0 := ← optional? m "arg0" toString?
      arg1 := ← optional? m "arg1" toString?
      numeric := ← optional? m "numeric" toFloat?
      flag := ← optional? m "flag" toBool?
      fromUi := ← defaulted? m "from_ui" false toBool? }

end Query

def Answer.toJson (a : Answer) : Json :=
  object <|
    ("query_type", a.type.toJson) :: member? "system" string a.system ++
    member? "station" string a.station ++ member? "system_address" ofUInt64 a.address ++
    member? "market_id" ofUInt64 a.marketId ++
    [("route", a.route.toJson), ("count", ofNat a.count),
      ("mission_ids", array (a.missionIds.map ofInt64))] ++
    member? "tour_distance" float a.circuitLength

end Astrogation
