import Flowchart.Path
import Flowchart.Workspace.Signal

set_option autoImplicit false

/-! # Hosts

What a run needs of its surroundings: files and directories, and programs that can be launched. The
work is written against any host in any monad; the running program uses the machine it runs on, and
`FileTree.host` is a host whose files are a value. -/

namespace Flowchart

/-- How a program ended. -/
inductive ExitStatus where
  | code (n : Nat)
  | signal (n : Nat)
deriving DecidableEq

namespace ExitStatus

/-- Whether the program ended well. -/
def isSuccess (s : ExitStatus) : Bool := s == .code 0

/-- The status in words. -/
def describe : ExitStatus → String
  | .code n => s!"exit status: {n}"
  | .signal n =>
    match Signal.name? n with
    | some name => s!"signal: {n} (SIG{name})"
    | none => s!"signal: {n}"

end ExitStatus

/-- What is left of a program that has ended. -/
structure ProgramResult where
  status : ExitStatus
  /-- What it wrote to its standard error. -/
  errors : String
deriving DecidableEq

/-- The surroundings of a run. Operations that can fail give the reason. -/
structure Host (m : Type → Type) where
  /-- The text of a file. -/
  readText : Path → m (Except String String)
  /-- Whether a path leads to a file. -/
  isFile : Path → m Bool
  /-- Whether a path leads anywhere. -/
  pathExists : Path → m Bool
  /-- Creates a directory and what is missing above it. -/
  makeDirectories : Path → m (Except String Unit)
  /-- Creates a file or replaces what it holds. -/
  writeFile : Path → String → m (Except String Unit)
  /-- Removes a directory with everything in it. -/
  removeTree : Path → m (Except String Unit)
  /-- Runs a program with arguments until it ends. -/
  launch : Path → List String → m (Except String ProgramResult)
  /-- Where programs are looked for, in order. -/
  searchPath : List Path

end Flowchart
