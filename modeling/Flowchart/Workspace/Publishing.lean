import Flowchart.Generation.Compilation
import Flowchart.Workspace.Host

set_option autoImplicit false

/-! # Publishing a generated project

Writing a project below an output directory: first its directories, then its files in order, each
after the directory it stands in. The first failure ends the writing; what was written stays. -/

namespace Flowchart

/-- A path on which the host failed, and why. -/
structure IoFailure where
  path : Path
  reason : String
deriving DecidableEq

/-- The text of a failure. -/
def IoFailure.message (f : IoFailure) : String :=
  "I/O error on '" ++ f.path.text ++ "': " ++ f.reason

/-- Where a project is written, and whether what was written there before is deleted first. -/
structure Publisher where
  root : Path
  clean : Bool

namespace Publisher

variable {m : Type → Type} [Monad m]

/-- A failure of an operation as a failure on a path. -/
def onPath {α : Type} (path : Path) (action : m (Except String α)) : ExceptT IoFailure m α :=
  ExceptT.mk do
    match ← action with
    | .ok a => return .ok a
    | .error reason => return .error { path, reason }

/-- Deletes what an earlier run wrote, if that is wanted and there is something. -/
def removeOld (p : Publisher) (host : Host m) (name : String) : ExceptT IoFailure m Unit := do
  let directory := p.root.child name
  if p.clean then
    if ← host.pathExists directory then
      onPath directory (host.removeTree directory)

/-- Creates directories in order. -/
def makeAll (p : Publisher) (host : Host m) : List Path → ExceptT IoFailure m Unit
  | [] => return ()
  | directory :: rest => do
    let path := p.root.join directory
    onPath path (host.makeDirectories path)
    makeAll p host rest

/-- Writes one file into its directory, which is created if it is missing. -/
def writeOne (p : Publisher) (host : Host m) (file : GeneratedFile) :
    ExceptT IoFailure m Path := do
  let path := p.root.join file.path
  match path.parent? with
  | some parent => onPath parent (host.makeDirectories parent)
  | none => pure ()
  onPath path (host.writeFile path file.contents)
  return path

/-- Writes files in order; the result lists their paths. -/
def writeAll (p : Publisher) (host : Host m) : List GeneratedFile → ExceptT IoFailure m (List Path)
  | [] => return []
  | file :: rest => do
    let path ← p.writeOne host file
    return path :: (← writeAll p host rest)

/-- Writes a project; the result lists the written files. -/
def publish (p : Publisher) (host : Host m) (project : GeneratedProject) :
    ExceptT IoFailure m (List Path) := do
  p.removeOld host project.name
  p.makeAll host project.directories
  p.writeAll host project.files

end Publisher

end Flowchart
