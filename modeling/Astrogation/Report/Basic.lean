import Astrogation.Answer
import Astrogation.Decimal.Writing
import Astrogation.Document.Answer
import Astrogation.Json.Writer
import Astrogation.Report.Palette
import Astrogation.Route.Distance

/-!
# Reports

How an answer is shown: as text, with a line for the target and one for each stop,
or as the JSON document of the whole answer.
-/

namespace Astrogation.Report

/-- The two forms of a report. -/
inductive Format where
  | text
  | json
  deriving DecidableEq, Repr

/-- What the count of an answer measures. -/
def countLabel (type : QueryType) : String :=
  match type with
  | .route => "stops"
  | .update => "stops remaining"
  | .cancel => "route cleared"
  | type =>
    match type.group? with
    | some .galaxy | some .carrier => "jumps"
    | some .services => "ls from arrival"
    | _ => "missions"

/-- A text filled up with blanks to at least `width` characters. -/
def padRight (width : Nat) (s : String) : String :=
  String.ofList (s.toList ++ List.replicate (width - s.toList.length) ' ')

/-- A text with blanks before it, at least `width` characters together. -/
def padLeft (width : Nat) (s : String) : String :=
  String.ofList (List.replicate (width - s.toList.length) ' ' ++ s.toList)

/-- Characters with a comma before every group of three that is not the first,
    counted from the end. -/
def groupDigits : List Char → List Char
  | [] => []
  | c :: rest =>
    if !rest.isEmpty && rest.length % 3 == 0 then c :: ',' :: groupDigits rest
    else c :: groupDigits rest

/-- A number with separators. -/
def withSeparators (n : Nat) : String := String.ofList (groupDigits (Nat.toDigits 10 n))

theorem filter_groupDigits (cs : List Char) (h : ',' ∉ cs) :
    (groupDigits cs).filter (· != ',') = cs := by
  induction cs with
  | nil => rfl
  | cons c rest ih =>
    simp only [List.mem_cons, not_or] at h
    have hc : c ≠ ',' := fun e => h.1 e.symm
    unfold groupDigits
    split <;> simp [hc, ih h.2]

/-- A distance with two decimal places. -/
def distanceText (d : Float) : String := Decimal.fixed 2 d

/-! ## Text -/

/-- The target of an answer. -/
def targetPieces (a : Answer) : List Piece :=
  match a.system, a.station with
  | some system, some station => .text (system ++ " / ") :: styled .station station
  | some system, none => [.text system]
  | none, _ => [.text "-"]

/-- The line which says where an answer leads. -/
def headPieces (a : Answer) : List Piece :=
  .text (a.type.name ++ ": ") :: .style .title :: targetPieces a ++
    [.style .reset,
      .text (" (" ++ withSeparators a.count ++ " " ++ countLabel a.type ++ ")\n")]

/-- What is said of a stop after its distance. -/
def notes (w : Waypoint) : List (List Piece) :=
  let ids := w.missionIds.map fun id => toString id.toInt
  (if ids.isEmpty then [] else [styled .mission ("missions " ++ ",".intercalate ids)]) ++
    (w.stationName.map (styled .station)).toList ++
    (if w.hasNeutronStar then [[.text "neutron"]] else []) ++
    (if w.isScoopable then [[.text "scoopable"]] else [])

/-- What is said of a stop after its distance, each part set off. -/
def notePieces (w : Waypoint) : List Piece :=
  (notes w).flatMap fun note => .text "  " :: note

/-- What a stop is on the way: visited, the last one, the next one or any other. -/
inductive Tag where
  | here
  | goal
  | next
  | stop
  deriving DecidableEq, Repr

/-- The word for a tag. -/
def Tag.word : Tag → String
  | here => "HERE"
  | goal => "GOAL"
  | next => "NEXT"
  | stop => "STOP"

/-- The style of a tag. -/
def Tag.style : Tag → Style
  | here => .here
  | goal => .goal
  | next => .next
  | stop => .stop

/-- The line of a stop. -/
def stopPieces (tag : Tag) (w : Waypoint) : List Piece :=
  .text "  " :: styled tag.style tag.word ++
    [.text (" " ++ padRight 28 w.systemName ++ " "), .style .dim,
      .text (padLeft 9 (distanceText (w.travelled.getD 0)) ++ " ly"), .style .reset] ++
    notePieces w ++ [.text "\n"]

/-- The tag of a stop; `isLast` and `isNext` say whether it is the last stop, and
    the first which is not visited. -/
def tagOf (w : Waypoint) (isLast isNext : Bool) : Tag :=
  if w.visited then .here else if isLast then .goal else if isNext then .next else .stop

/-- The lines of stops; `unvisited` says whether a stop which is not visited has
    come before. -/
def stopsPieces : (unvisited : Bool) → List Waypoint → List Piece
  | _, [] => []
  | unvisited, w :: rest =>
    stopPieces (tagOf w rest.isEmpty !unvisited) w ++ stopsPieces (unvisited || !w.visited) rest

/-- The line of a length. -/
def lengthPieces (label : String) (d : Float) : List Piece :=
  styled .dim (label ++ ": " ++ distanceText d ++ " ly") ++ [.text "\n"]

/-- The text of an answer. -/
def pieces (a : Answer) : List Piece :=
  headPieces a ++ stopsPieces false a.route.waypoints ++
    (if 1 < a.route.size then lengthPieces "Total" a.route.totalDistance else []) ++
    (a.circuitLength.map (lengthPieces "Circuit")).getD []

/-- The report of an answer. -/
def render (format : Format) (palette : Palette) (a : Answer) : String :=
  match format with
  | .text => showPieces palette (pieces a)
  | .json => Json.pretty a.toJson ++ "\n"

/-! ## The list of queries -/

/-- The name of a group, also of the queries which have none. -/
def groupName : Option QueryGroup → String
  | some .galaxy => "galaxy"
  | some .missions => "missions"
  | some .services => "services"
  | some .carrier => "carrier"
  | none => "route"

/-- The list of all types of queries with their groups. -/
def queryList : String :=
  String.join (QueryType.all.map fun q => padRight 14 q.name ++ " " ++ groupName q.group? ++ "\n")

end Astrogation.Report
