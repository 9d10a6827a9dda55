import Astrogation.Document.Chart
import Astrogation.Document.Config
import Astrogation.Document.Traveller
import Astrogation.Json.Reader
import Astrogation.Json.Writer
import Astrogation.Navigator.Session
import Astrogation.Storage.Files

/-!
# Stored documents

Charts, travellers and configurations in files. The configuration is written
beside its file first and then moved over it, so that it is never found half
written; without a file it is the default one.
-/

namespace Astrogation

namespace Files

/-- The document in a file. -/
def readDocument {α : Type} (f : Files) (p : Path) (ofJson? : Json → Option α) : Except Fault α := do
  let text ← f.read p
  match (Json.read? text).bind ofJson? with
  | some value => return value
  | none => .error .document

/-- Why there is no chart. -/
inductive ChartFailure where
  | fault (reason : Fault)
  /-- The index of a chart has no room for all systems at a point. -/
  | crowded

/-- The chart in a file. -/
def readChart (f : Files) (p : Path) : Except ChartFailure Chart :=
  match f.readDocument p ChartRecords.ofJson? with
  | .ok records =>
    match Chart.build? records.systems records.stations with
    | some chart => .ok chart
    | none => .error .crowded
  | .error reason => .error (.fault reason)

end Files

/-- The state of a traveller whose system is looked up on a chart. -/
def TravellerRecord.state (r : TravellerRecord) (chart : Chart) : Except Fault TravellerState := do
  let system ← r.systemName.mapM chart.require
  return { system, ship := r.ship, carrier := r.carrier, missions := r.missions }

namespace Config

/-- The configuration in a file. -/
def load (p : Path) (f : Files) : Except Fault Config :=
  match f.lookup? p with
  | none => .ok {}
  | some _ => f.readDocument p ofJson?

/-- The text of a configuration. -/
def text (c : Config) : String := Json.pretty c.toJson

/-- Where a configuration is written before it is moved. -/
def draftPath (p : Path) : Path := p.withExtension "json.tmp"

/-- A configuration is put into a file. What has been done stays done if a later
    step fails. -/
def save (p : Path) (c : Config) (f : Files) : Except Fault Unit × Files :=
  match f.makeDirectories p.parent with
  | .error reason => (.error reason, f)
  | .ok f =>
    match f.write (draftPath p) c.text with
    | .error reason => (.error reason, f)
    | .ok f =>
      match f.move (draftPath p) p with
      | .error reason => (.error reason, f)
      | .ok f => (.ok (), f)

/-- The store which keeps the configuration in a file. -/
def fileStore (p : Path) : ConfigStore Files where
  load := load p
  save c f :=
    let (result, f) := save p c f
    (.reply result, f)

/-- The store which only keeps the configuration itself. -/
def memoryStore : ConfigStore Config where
  load := .ok
  save c _ := (.reply (.ok ()), c)

end Config

end Astrogation
