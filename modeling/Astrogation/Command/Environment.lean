import Astrogation.Storage.Path
import Astrogation.Text.Basic

/-!
# The environment

What the variables of the environment say: whether reports are in colour, and in
which directories the configuration and the data are kept.
-/

namespace Astrogation

/-- The variables of the environment which matter, as far as they are set. -/
structure Environment where
  /-- `NO_COLOR` -/
  noColor : Option String := none
  /-- `TERM` -/
  term : Option String := none
  /-- `HOME` -/
  home : Option String := none
  /-- `XDG_CONFIG_HOME` -/
  configHome : Option String := none
  /-- `XDG_DATA_HOME` -/
  dataHome : Option String := none

namespace Environment

/-- Whether reports may be in colour. -/
def supportsColour (e : Environment) : Bool :=
  e.noColor.isNone && !e.term.any (Text.sameIgnoringCase · "dumb")

/-- The directory that a variable gives by an absolute path, or else a directory
    at home. There has to be a home. -/
def directory? (e : Environment) (variableValue : Option String) (atHome : String) :
    Option String :=
  (e.home.filter (· != "")).map fun home =>
    (variableValue.filter fun path => (Path.ofText path).absolute).getD (Path.join home atHome)

/-- The path of a file of the program in a directory. -/
def programFile (directory name : String) : String :=
  Path.join (Path.join directory "galnav") name

/-- Where the configuration is. -/
def configPath? (e : Environment) : Option String :=
  (e.directory? e.configHome ".config").map (programFile · "navigation.json")

/-- Where a file of data is. -/
def dataPath? (e : Environment) (name : String) : Option String :=
  (e.directory? e.dataHome ".local/share").map (programFile · name)

end Environment

end Astrogation
