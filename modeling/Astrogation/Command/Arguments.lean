import Astrogation.Decimal.Reading
import Astrogation.Query.Basic
import Astrogation.Report.Basic

/-!
# Arguments

The words of a command line: options, a command, and the options and operands of
the command. The options that belong to all commands may stand before or after the
command; given on both sides, those after it count. An option may be given once
on each side.

An option is followed by its value, after an equals sign or as the next word. A
word which begins with a hyphen is an option and cannot be such a value, unless it
is a single hyphen. After two hyphens all words are operands.
-/

namespace Astrogation.Command

/-- The form of the lines of a log. -/
inductive LogFormat where
  | text
  | json
  deriving DecidableEq, Repr

/-- The options which take a value. -/
inductive OptionName where
  | catalog
  | state
  | config
  | format
  | logFormat
  | arg0
  | arg1
  | numeric
  | flag
  deriving DecidableEq, Repr

/-- The commands. -/
inductive Verb where
  | resolve
  | queries
  | config
  deriving DecidableEq, Repr

/-- What has been given on one side of the command. -/
structure Given where
  catalog : Option String := none
  state : Option String := none
  config : Option String := none
  format : Option Report.Format := none
  logFormat : Option LogFormat := none
  arg0 : Option String := none
  arg1 : Option String := none
  numeric : Option Float := none
  flag : Option Bool := none
  query : Option QueryType := none

/-- What a command line asks for. -/
inductive Invocation where
  | help
  | version
  /-- It cannot be made sense of. -/
  | rejected
  | run (verb : Verb) (given : Given)

/-- The command of a name. -/
def Verb.ofName? : String → Option Verb
  | "resolve" => some resolve
  | "queries" => some queries
  | "config" => some config
  | _ => none

/-- The option of a name, before a command if there is none. Queries have options
    of their own. -/
def OptionName.ofName? (verb : Option Verb) : String → Option OptionName
  | "catalog" => some catalog
  | "state" => some state
  | "config" => some config
  | "format" => some format
  | "log-format" => some logFormat
  | "arg0" => if verb == some .resolve then some arg0 else none
  | "arg1" => if verb == some .resolve then some arg1 else none
  | "numeric" => if verb == some .resolve then some numeric else none
  | "flag" => if verb == some .resolve then some flag else none
  | _ => none

/-- The value of an option which has none yet. -/
def setOnce? {α : Type} (current value : Option α) : Option (Option α) :=
  match current, value with
  | none, some value => some (some value)
  | _, _ => none

/-- A path, which may not be empty. -/
def path? (text : String) : Option String := if text == "" then none else some text

/-- The form of a report. -/
def reportFormat? : String → Option Report.Format
  | "text" => some .text
  | "json" => some .json
  | _ => none

/-- The form of a log. -/
def logFormat? : String → Option LogFormat
  | "text" => some .text
  | "json" => some .json
  | _ => none

/-- A truth value. -/
def truth? : String → Option Bool
  | "true" => some true
  | "false" => some false
  | _ => none

namespace Given

/-- What has been given, with one more option. There is no result if the option
    has been given before or cannot have this value. -/
def set? (g : Given) (name : OptionName) (text : String) : Option Given :=
  match name with
  | .catalog => (setOnce? g.catalog (path? text)).map fun v => { g with catalog := v }
  | .state => (setOnce? g.state (path? text)).map fun v => { g with state := v }
  | .config => (setOnce? g.config (path? text)).map fun v => { g with config := v }
  | .format => (setOnce? g.format (reportFormat? text)).map fun v => { g with format := v }
  | .logFormat => (setOnce? g.logFormat (logFormat? text)).map fun v => { g with logFormat := v }
  | .arg0 => (setOnce? g.arg0 (some text)).map fun v => { g with arg0 := v }
  | .arg1 => (setOnce? g.arg1 (some text)).map fun v => { g with arg1 := v }
  | .numeric => (setOnce? g.numeric (Decimal.number? text)).map fun v => { g with numeric := v }
  | .flag => (setOnce? g.flag (truth? text)).map fun v => { g with flag := v }

/-- What has been given, with one more operand. Only queries have one, their
    type. -/
def operand? (g : Given) (verb : Verb) (text : String) : Option Given :=
  match verb with
  | .resolve => (setOnce? g.query (QueryType.read? text)).map fun v => { g with query := v }
  | _ => none

/-- What has been given after the command and, apart from that, before it. -/
def within (inner outer : Given) : Given :=
  { inner with
    catalog := inner.catalog.or outer.catalog
    state := inner.state.or outer.state
    config := inner.config.or outer.config
    format := inner.format.or outer.format
    logFormat := inner.logFormat.or outer.logFormat }

end Given

/-- What a word is taken for. -/
inductive Word where
  /-- Two hyphens. -/
  | terminator
  /-- A name after two hyphens, perhaps with a value. -/
  | option (name : String) (value : Option String)
  /-- Letters after a single hyphen. -/
  | letters (first : Char)
  | operand

/-- What a word is taken for. -/
def Word.ofText (text : String) : Word :=
  match text.toList with
  | ['-', '-'] => terminator
  | '-' :: '-' :: rest =>
    let name := rest.takeWhile (· != '=')
    let value := (rest.drop name.length).tail
    option (String.ofList name)
      (if name.length < rest.length then some (String.ofList value) else none)
  | '-' :: first :: _ => letters first
  | _ => operand

/-- Whether a word may be the value of the option before it. -/
def isValue (text : String) : Bool :=
  match Word.ofText text with
  | .operand => true
  | _ => false

/-- The end of a command line. -/
def finish (verb : Option Verb) (outer inner : Given) : Invocation :=
  match verb with
  | none => .rejected
  | some verb =>
    if verb == .resolve && inner.query.isNone then .rejected else .run verb (inner.within outer)

/-- The words after two hyphens. -/
def readOperands (verb : Option Verb) (outer inner : Given) : List String → Invocation
  | [] => finish verb outer inner
  | text :: rest =>
    match verb.bind fun verb => inner.operand? verb text with
    | some inner => readOperands verb outer inner rest
    | none => .rejected

/-- A request for help with a command. -/
def readHelp : List String → Invocation
  | [] | ["help"] => .help
  | [name] => if (Verb.ofName? name).isSome then .help else .rejected
  | _ => .rejected

/-- The words of a command line, after a command if there has been one. What has
    been given before the command is `outer`, and `inner` is what has been given
    since. -/
def readWords (verb : Option Verb) (outer inner : Given) : List String → Invocation
  | [] => finish verb outer inner
  | text :: rest =>
    match Word.ofText text with
    | .terminator => readOperands verb outer inner rest
    | .letters first =>
      if first == 'h' then .help
      else if first == 'V' && verb.isNone then .version
      else .rejected
    | .option name value =>
      match OptionName.ofName? verb name, value, rest with
      | some option, some value, rest =>
        match inner.set? option value with
        | some inner => readWords verb outer inner rest
        | none => .rejected
      | some option, none, value :: rest =>
        if isValue value then
          match inner.set? option value with
          | some inner => readWords verb outer inner rest
          | none => .rejected
        else .rejected
      | some _, none, [] => .rejected
      | none, none, _ =>
        if name == "help" then .help
        else if name == "version" && verb.isNone then .version
        else .rejected
      | none, some _, _ => .rejected
    | .operand =>
      match verb with
      | none =>
        if text == "help" then readHelp rest
        else
          match Verb.ofName? text with
          | some verb => readWords (some verb) inner {} rest
          | none => .rejected
      | some given =>
        match inner.operand? given text with
        | some inner => readWords verb outer inner rest
        | none => .rejected

/-- What a command line asks for. -/
def Invocation.read (words : List String) : Invocation := readWords none {} {} words

end Astrogation.Command
