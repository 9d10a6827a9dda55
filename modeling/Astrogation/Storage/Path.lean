/-!
# Paths

A path names a place among files: from the root if it begins with a slash, and
otherwise from the directory one is in. It is read as the names between its
slashes; a path which ends in a slash has to be a directory.
-/

namespace Astrogation

/-- A path, as the names it goes through. -/
structure Path where
  absolute : Bool
  names : List String
  /-- It can only be a directory. -/
  isDirectory : Bool
  deriving DecidableEq, Repr

namespace Path

/-- The path that a text gives. -/
def ofText (text : String) : Path :=
  let parts := text.splitOn "/"
  let last := parts.getLast?.getD ""
  { absolute := text.toList.head? == some '/'
    names := parts.filter fun part => part != "" && part != "."
    isDirectory := last == "" || last == "." }

/-- The text of a path. -/
def text (p : Path) : String := (if p.absolute then "/" else "") ++ "/".intercalate p.names

/-- A path with one more name at its end. -/
def join (base name : String) : String :=
  if base.toList.getLast? == some '/' then base ++ name else base ++ "/" ++ name

/-- The path of the directory that a path is in. -/
def parent (p : Path) : Path := { p with names := p.names.dropLast, isDirectory := true }

/-- A name without what follows its last point. A point at the start of the name
    does not count. -/
def stem (name : String) : String :=
  let rest := name.toList.reverse.dropWhile (· != '.')
  match rest with
  | _ :: before => if before.isEmpty then name else String.ofList before.reverse
  | [] => name

/-- A path with another extension; without a name at its end it stays as it is. -/
def withExtension (p : Path) (extension : String) : Path :=
  match p.names.getLast? with
  | some name =>
    if name == ".." then p
    else
      { p with
        names := p.names.dropLast ++ [stem name ++ "." ++ extension]
        isDirectory := false }
  | none => p

end Path

end Astrogation
