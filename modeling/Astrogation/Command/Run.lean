import Astrogation.Chart.Plot
import Astrogation.Command.Arguments
import Astrogation.Command.Environment
import Astrogation.Navigator.Resolve
import Astrogation.Storage.Documents

/-!
# The command line

Three commands: a query is resolved and its answer reported, the types of queries
are listed, and the stored configuration is printed. A query loads the chart, then
the traveller, then the configuration; what fails first is reported.

The exit code is `0` for success, `1` for a failure, which is reported with its
cause, `2` for arguments that cannot be made sense of, and `101` if something
crashes.
-/

namespace Astrogation.Command

/-- What a run of the program leaves behind, its files apart. -/
structure Output where
  exitCode : Nat
  stdout : String := ""
  stderr : String := ""

/-- Why a command has failed. -/
inductive Failure where
  /-- What could not be done and why. -/
  | failed (what : String) (cause : Option Fault)
  | crashed

namespace Failure

/-- A text with each line set in. -/
def indented (s : String) : String :=
  "\n".intercalate ((s.splitOn "\n").map fun line => "    " ++ line)

/-- The report of a failure. The wording of some causes is left to the system. -/
def report (what : String) : (cause : Option Fault) → String
  | none => "Error: " ++ what ++ "\n"
  | some cause =>
    "Error: " ++ what ++ "\n\nCaused by:\n" ++
      ((cause.message?.map fun message => indented message ++ "\n").getD "")

/-- What is left behind by a failure. -/
def output : Failure → Output
  | failed what cause => { exitCode := 1, stderr := report what cause }
  | crashed => { exitCode := 101 }

end Failure

/-- A result, or the failure with this wording for a fault. -/
def orFail {α : Type} (what : String) : Except Fault α → Except Failure α
  | .ok value => .ok value
  | .error reason => .error (.failed what (some reason))

/-- Where a file is: at the path that was given, or among the data of the program. -/
def dataPath (e : Environment) (given : Option String) (name : String) : Except Failure String :=
  match given.or (e.dataPath? name) with
  | some path => .ok path
  | none => .error (.failed "failed to resolve the platform data directory" none)

/-- Where the configuration is. -/
def configPath (e : Environment) (given : Option String) : Except Failure String :=
  match given.or e.configPath? with
  | some path => .ok path
  | none =>
    .error (.failed "no --config given and no platform configuration directory"
      (some .configPathUnavailable))

/-- The chart in a file. -/
def loadChart (f : Files) (path : String) : Except Failure Chart :=
  match f.readChart (.ofText path) with
  | .ok chart => .ok chart
  | .error .crowded => .error .crashed
  | .error (.fault reason) =>
    .error (.failed ("failed to load star catalogue from " ++ path) (some reason))

/-- The traveller's state in a file. -/
def loadTraveller (f : Files) (path : String) (chart : Chart) : Except Failure TravellerState := do
  let text ← orFail ("failed to read state file " ++ path) (f.read (.ofText path))
  match (Json.read? text).bind TravellerRecord.ofJson? with
  | some record => orFail "current system in state file" (record.state chart)
  | none => .error (.failed ("failed to parse state file " ++ path) (some .document))

/-- A wording for a configuration that cannot be loaded. -/
def configFailure : String := "failed to load navigation config"

/-- The query that is given. -/
def Given.query? (g : Given) : Option Query :=
  g.query.map fun type =>
    { type, arg0 := g.arg0, arg1 := g.arg1, numeric := g.numeric, flag := g.flag, fromUi := true }

/-- All that a query needs. -/
structure Journey where
  navigator : Navigator Files
  session : Session Files

/-- All that a query needs, from the files. -/
def prepare (e : Environment) (g : Given) (f : Files) : Except Failure Journey := do
  let chart ← loadChart f (← dataPath e g.catalog "catalog.json")
  let state ← loadTraveller f (← dataPath e g.state "state.json") chart
  let store := Config.fileStore (.ofText (← configPath e g.config))
  let session ← orFail configFailure (Session.start store f)
  return ⟨{ atlas := chart.atlas, traveller := state.traveller, store }, session⟩

/-- The palette for an environment. -/
def palette (e : Environment) : Report.Palette :=
  if e.supportsColour then Report.coloured else Report.plain

/-- A query is resolved and its answer reported. -/
def resolve (e : Environment) (g : Given) (query : Query) (f : Files) :
    Except Failure Output × Files :=
  match prepare e g f with
  | .error failure => (.error failure, f)
  | .ok journey =>
    let turn := journey.navigator.resolve query journey.session
    let result : Except Failure Output :=
      match turn.outcome with
      | .ok (some answer) =>
        .ok { exitCode := 0, stdout := Report.render (g.format.getD .text) (palette e) answer }
      | .ok none => .error (.failed ("no result for query " ++ query.type.name) none)
      | .error _ => .error .crashed
    (result, turn.session.vault)

/-- The stored configuration is printed. -/
def printConfig (e : Environment) (g : Given) (f : Files) : Except Failure Output := do
  let config ← orFail configFailure (Config.load (.ofText (← configPath e g.config)) f)
  return { exitCode := 0, stdout := config.text ++ "\n" }

/-- How the program is used. -/
def usage : String :=
  "Navigation queries over a star catalogue\n\nUsage: galnav [OPTIONS] <COMMAND>\n\n" ++
    "Commands: resolve, queries, config, help\n"

/-- The name of the program and its version. -/
def versionText : String := "galnav-cli 0.1.0\n"

/-- What is left behind by a result or failure. -/
def outputOf : Except Failure Output → Output
  | .ok output => output
  | .error failure => failure.output

/-- The files which a run of the program may look at. -/
def filesUsed (e : Environment) : Invocation → List String
  | .run .queries _ => []
  | .run .config g => (g.config.or e.configPath?).toList
  | .run .resolve g =>
    (g.catalog.or (e.dataPath? "catalog.json")).toList ++
      (g.state.or (e.dataPath? "state.json")).toList ++ (g.config.or e.configPath?).toList
  | _ => []

/-- The file which a run of the program may write. -/
def fileWritten? (e : Environment) : Invocation → Option String
  | .run .resolve g => g.config.or e.configPath?
  | _ => none

/-- A run of the program: what it leaves behind, and its files. -/
def run (e : Environment) (invocation : Invocation) (f : Files) : Output × Files :=
  match invocation with
  | .help => ({ exitCode := 0, stdout := usage }, f)
  | .version => ({ exitCode := 0, stdout := versionText }, f)
  | .rejected => ({ exitCode := 2 }, f)
  | .run .queries _ => ({ exitCode := 0, stdout := Report.queryList }, f)
  | .run .config g => (outputOf (printConfig e g f), f)
  | .run .resolve g =>
    match g.query? with
    | some query =>
      let (result, f) := resolve e g query f
      (outputOf result, f)
    | none => ({ exitCode := 2 }, f)

end Astrogation.Command
