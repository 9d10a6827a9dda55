import Astrogation.Command.Run

/-!
# The program

The outermost layer: it takes the files which a run may look at from the disk, lets
the run happen, and puts back the configuration if the run has written it.
-/

namespace Astrogation.Command

/-- The environment of the process. -/
def processEnvironment : IO Environment := do
  return {
    noColor := ← IO.getEnv "NO_COLOR"
    term := ← IO.getEnv "TERM"
    home := ← IO.getEnv "HOME"
    configHome := ← IO.getEnv "XDG_CONFIG_HOME"
    dataHome := ← IO.getEnv "XDG_DATA_HOME" }

/-- What is at a path on the disk. What is there but is no text is taken for a
    directory. -/
def nodeOnDisk (path : String) : IO (Option FileNode) := do
  try
    let bytes ← IO.FS.readBinFile path
    return some (.file ((String.fromUTF8? bytes).getD ""))
  catch
    | .noFileOrDirectory .. => return none
    | _ => return some .directory

/-- The files at these paths. -/
def filesOnDisk (paths : List String) : IO Files :=
  paths.foldlM (fun files text => do
    let path := Path.ofText text
    match ← nodeOnDisk text with
    | none => return files
    | some node =>
      let prepared := (files.makeDirectories path.parent).toOption.getD files
      return match prepared.place? path with
        | some place => prepared.withNode place node
        | none => files) {}

/-- A configuration is put on the disk, beside its file first. -/
def writeOnDisk (path : Path) (text : String) : IO Unit := do
  let draft := Config.draftPath path
  if !path.parent.names.isEmpty then IO.FS.createDirAll path.parent.text
  IO.FS.writeFile draft.text text
  IO.FS.rename draft.text path.text

end Astrogation.Command

open Astrogation Command in
/-- Runs the program. -/
def main (words : List String) : IO UInt32 := do
  let environment ← processEnvironment
  let invocation := Invocation.read words
  let before ← filesOnDisk (filesUsed environment invocation)
  let (output, after) := run environment invocation before
  match (fileWritten? environment invocation).map Path.ofText with
  | some path =>
    match after.lookup? path with
    | some (.file text) =>
      if before.lookup? path != some (.file text) then
        try writeOnDisk path text catch _ => pure ()
    | _ => pure ()
  | none => pure ()
  IO.print output.stdout
  IO.eprint output.stderr
  return UInt32.ofNat output.exitCode
