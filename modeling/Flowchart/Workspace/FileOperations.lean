import Flowchart.Workspace.FileTree
import Flowchart.Workspace.Host

set_option autoImplicit false

/-! # Operations on file trees

Reading, creating and removing by path. An operation that fails half way leaves what it has done. -/

namespace Flowchart

namespace FileTree

/-- Whether a path leads to a directory. -/
def isDirectory (t : FileTree) (p : Path) : Bool := t.node? p == some .directory

/-- Whether a path leads to a file that is no device. -/
def isFile (t : FileTree) (p : Path) : Bool :=
  match t.node? p with
  | some (.file _) | some (.program _) => true
  | _ => false

/-- The text of a file. -/
def read (t : FileTree) (p : Path) : Except FileError String := do
  match (← t.find p).2 with
  | .file contents => return contents
  | .directory => .error .isDirectory
  | .device | .program _ => return ""

/-! ## Creating -/

/-- Creates one directory. -/
def makeDirectory (t : FileTree) (p : Path) : Except FileError FileTree := do
  match (← t.entry p) with
  | { directory, last := .name name, .. } =>
    let place := directory ++ [name]
    if (t.lookup place).isSome then .error .alreadyExists else return t.set place .directory
  | _ => .error .alreadyExists

/-- What a failure to create a directory comes to: none, if the directory is there. -/
def unlessThere (t : FileTree) (p : Path) (e : FileError) : Except FileError Unit :=
  if t.isDirectory p then .ok () else .error e

/-- Creates the first of some directories; the others are those above it, from the inside to the
    outside, and are created before it where they are missing. -/
def makeChain (t : FileTree) : List Path → Except FileError Unit × FileTree
  | [] => (.error .notFound, t)
  | p :: outer =>
    if p.text = "" then (.ok (), t)
    else
      match t.makeDirectory p with
      | .ok t => (.ok (), t)
      | .error .notFound =>
        match t.makeChain outer with
        | (.error e, t) => (.error e, t)
        | (.ok (), t) =>
          match t.makeDirectory p with
          | .ok t => (.ok (), t)
          | .error e => (t.unlessThere p e, t)
      | .error e => (t.unlessThere p e, t)

/-- Creates a directory and what is missing above it. -/
def makeDirectories (t : FileTree) (p : Path) : Except FileError Unit × FileTree :=
  t.makeChain p.ancestors

/-- The place of a file that is to be written, if there can be one. -/
def target (t : FileTree) (p : Path) : Except FileError Place := do
  match (← t.entry p) with
  | { directory, last := .name name, slash := false } =>
    match t.lookup (directory ++ [name]) with
    | some .directory => .error .isDirectory
    | some (.program _) => .error .inUse
    | _ => return directory ++ [name]
  | _ => .error .isDirectory

/-- The tree with the contents of a file; a device stays as it is. -/
def setContents (t : FileTree) (place : Place) (contents : String) : FileTree :=
  if t.lookup place = some .device then t else t.set place (.file contents)

/-- Creates a file or replaces what it holds. -/
def write (t : FileTree) (p : Path) (contents : String) : Except FileError FileTree := do
  return t.setContents (← t.target p) contents

/-! ## Removing -/

/-- Removes an empty directory. -/
def removeDirectory (t : FileTree) (p : Path) : Except FileError FileTree := do
  match (← t.entry p) with
  | { directory, last := .name name, .. } =>
    let place := directory ++ [name]
    match t.lookup place with
    | some .directory =>
      if t.holdsAnything place then .error .notEmpty else return t.removeBelow place
    | some _ => .error .notDirectory
    | none => .error .notFound
  | { last := .current, .. } => .error .invalid
  | { last := .parent, .. } => .error .notEmpty
  | { last := .top, .. } => .error .busy

/-- Removes a file. -/
def removeFile (t : FileTree) (p : Path) : Except FileError FileTree := do
  match (← t.find p) with
  | (_, .directory) => .error .isDirectory
  | (place, _) => return t.removeBelow place

/-- Removes a directory with everything in it. What is in it goes first, so that the path may no
    longer lead anywhere when the directory itself is to be removed. -/
def removeTree (t : FileTree) (p : Path) : Except FileError Unit × FileTree :=
  match t.find p with
  | .ok (place, .directory) =>
    let t := t.clear place
    match t.removeDirectory p with
    | .ok t => (.ok (), t)
    | .error .notFound => (.ok (), t)
    | .error e => (.error e, t)
  | .ok _ => (.error .notDirectory, t)
  | .error e => (.error e, t)

/-! ## The tree as a host -/

/-- How a program that is launched in a tree ends, and the tree it leaves. -/
abbrev Launcher := Path → List String → FileTree → Except FileError ProgramResult × FileTree

/-- A result with the failure in words. -/
def told {α : Type} (result : Except FileError α) : Except String α :=
  result.mapError FileError.message

/-- The result of an operation that changes the tree if it succeeds. -/
def changing (t : FileTree) (result : Except FileError FileTree) : Except String Unit × FileTree :=
  match result with
  | .ok t => (.ok (), t)
  | .error e => (.error e.message, t)

/-- A host whose files are a tree and whose programs behave as the launcher says. -/
def host (launcher : Launcher) (searchPath : List Path) : Host (StateM FileTree) where
  readText p := fun t => (told (t.read p), t)
  isFile p := fun t => (t.isFile p, t)
  pathExists p := fun t => ((t.node? p).isSome, t)
  makeDirectories p := fun t => Prod.map told id (t.makeDirectories p)
  writeFile p contents := fun t => t.changing (t.write p contents)
  removeTree p := fun t => Prod.map told id (t.removeTree p)
  launch p arguments := fun t => Prod.map told id (launcher p arguments t)
  searchPath := searchPath

end FileTree

end Flowchart
