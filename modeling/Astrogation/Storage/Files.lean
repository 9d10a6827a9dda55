import Astrogation.Fault
import Astrogation.Storage.Path

/-!
# Files

A tree of files, with what can be done to it. Each operation fails as a whole, and
then leaves the tree as it was.
-/

namespace Astrogation

/-- What is at a place. -/
inductive FileNode where
  | file (text : String)
  | directory
  deriving DecidableEq, Repr

/-- A tree of files: the places below the root at which there is something. -/
structure Files where
  nodes : List (List String × FileNode) := []
  /-- The directory from which paths lead. -/
  home : List String := []

namespace Files

/-- What is at a place. -/
def node? (f : Files) (place : List String) : Option FileNode :=
  if place.isEmpty then some .directory else f.nodes.lookup place

/-- The tree without a place and what is below it. -/
def without (f : Files) (place : List String) : Files :=
  { f with nodes := f.nodes.filter fun (other, _) => !place.isPrefixOf other }

/-- The tree with something at a place. -/
def withNode (f : Files) (place : List String) (node : FileNode) : Files :=
  { f.without place with nodes := (place, node) :: (f.without place).nodes }

/-- The place to which names lead from a directory. All but the last have to lead
    to directories. -/
def follow? (f : Files) : (directory : List String) → List String → Option (List String)
  | directory, [] => some directory
  | directory, name :: rest =>
    if name == ".." then f.follow? directory.dropLast rest
    else if rest.isEmpty then some (directory ++ [name])
    else if f.node? (directory ++ [name]) == some .directory then
      f.follow? (directory ++ [name]) rest
    else none

/-- The directory from which a path leads. -/
def origin (f : Files) (p : Path) : List String := if p.absolute then [] else f.home

/-- The place that a path leads to. -/
def place? (f : Files) (p : Path) : Option (List String) := f.follow? (f.origin p) p.names

/-- What a path leads to. -/
def lookup? (f : Files) (p : Path) : Option FileNode :=
  match (f.place? p).bind f.node? with
  | some (.file text) => if p.isDirectory then none else some (.file text)
  | found => found

/-- The text of a file. -/
def read (f : Files) (p : Path) : Except Fault String :=
  match f.lookup? p with
  | some (.file text) => .ok text
  | _ => .error .file

/-- The tree with a text in a file. -/
def write (f : Files) (p : Path) (text : String) : Except Fault Files :=
  match f.place? p with
  | some place =>
    if p.isDirectory || f.node? place == some .directory then .error .file
    else .ok (f.withNode place (.file text))
  | none => .error .file

/-- The tree with directories along names from a directory. -/
def makeDirectoriesFrom (f : Files) : (directory : List String) → List String → Except Fault Files
  | _, [] => .ok f
  | directory, name :: rest =>
    if name == ".." then makeDirectoriesFrom f directory.dropLast rest
    else
      let place := directory ++ [name]
      match f.node? place with
      | some (.file _) => .error .file
      | some .directory => makeDirectoriesFrom f place rest
      | none => makeDirectoriesFrom (f.withNode place .directory) place rest

/-- The tree with a directory at a path and at all places on the way. -/
def makeDirectories (f : Files) (p : Path) : Except Fault Files :=
  f.makeDirectoriesFrom (f.origin p) p.names

/-- The tree with a file moved, in place of another if there is one. -/
def move (f : Files) (source target : Path) : Except Fault Files := do
  let text ← f.read source
  let moved ← f.write target text
  match f.place? source, f.place? target with
  | some old, some new => return if old == new then moved else moved.without old
  | _, _ => .error .file

/-- The tree without what a path leads to. -/
def remove (f : Files) (p : Path) : Except Fault Files :=
  match f.lookup? p, f.place? p with
  | some _, some place => .ok (f.without place)
  | _, _ => .error .file

end Files

end Astrogation
