import Astrogation.Query.Basic

/-!
# Faults

Why something could not be done. Faults of files and of documents are only told
apart from the others; their wording depends on the system.
-/

namespace Astrogation

/-- Why something could not be done. -/
inductive Fault where
  /-- No system of this name; these names are similar. -/
  | unknownSystem (name : String) (suggestions : List String)
  /-- There is a resolver for this type already. -/
  | duplicateResolver (type : QueryType)
  /-- There is no resolver for this type. -/
  | resolverMissing (type : QueryType)
  /-- No type of query has this name. -/
  | invalidQueryType (text : String)
  /-- There is no directory for the configuration. -/
  | configPathUnavailable
  /-- A resolver could not make sense of its inputs. -/
  | resolver (type : QueryType) (message : String)
  /-- A file could not be read or written. -/
  | file
  /-- A document does not hold what it should. -/
  | document
  deriving DecidableEq, Repr

namespace Fault

/-- A name between quotes. -/
def quoted (name : String) : String := "'" ++ name ++ "'"

/-- A question whether one of these names was meant. -/
def suggestionText : List String → String
  | [] => ""
  | [name] => ". Did you mean " ++ quoted name ++ "?"
  | names => ". Did you mean one of: " ++ ", ".intercalate (names.map quoted) ++ "?"

/-- The wording of a fault, if it does not depend on the system. -/
def message? : Fault → Option String
  | unknownSystem name suggestions =>
    some ("unknown system name: " ++ name ++ suggestionText suggestions)
  | duplicateResolver type =>
    some ("a resolver is already registered for query type " ++ type.name)
  | resolverMissing type => some ("no resolver registered for query type " ++ type.name)
  | invalidQueryType text => some ("unsupported query type: " ++ text)
  | configPathUnavailable => some "failed to resolve project directories for navigation config"
  | resolver type message => some (type.name ++ " resolver failed: " ++ message)
  | file => none
  | document => none

end Fault

end Astrogation
