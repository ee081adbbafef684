import Flowchart.Text.Blank
import Flowchart.Workspace.Host

set_option autoImplicit false

/-! # The Java compiler of an installed JDK

Finding `javac` and handing a generated source file to it. With the output directory as the class
path it finds every generated class that the source refers to. -/

namespace Flowchart

/-- An executable `javac`. -/
structure Javac where
  path : Path
deriving DecidableEq

/-- Why a source file was not compiled. -/
inductive ToolchainError where
  | notFound
  | launch (path : Path) (reason : String)
  | failed (status : ExitStatus) (errors : String)
deriving DecidableEq

namespace ToolchainError

/-- The text of an error. -/
def message : ToolchainError → String
  | .notFound => "No javac found in JAVA_HOME or on PATH"
  | .launch path reason => "Failed to launch '" ++ path.text ++ "': " ++ reason
  | .failed status errors => "javac failed (" ++ status.describe ++ "):\n" ++ errors

end ToolchainError

namespace Javac

variable {m : Type → Type} [Monad m]

/-- The first of some directories that holds a file `javac`. -/
def search (host : Host m) : List Path → m (Option Javac)
  | [] => return none
  | directory :: rest => do
    let path := directory.child "javac"
    if ← host.isFile path then return some { path }
    else search host rest

/-- The program `java` next to a compiler. -/
def launcher (j : Javac) : Path := j.path.withFileName "java"

/-- The arguments for compiling a source file with a class path. -/
def arguments (classPath source : Path) : List String :=
  ["-encoding", "UTF-8", "-cp", classPath.text, source.text]

/-- What the end of a run means. -/
def outcome (j : Javac) : Except String ProgramResult → Except ToolchainError Unit
  | .error reason => .error (.launch j.path reason)
  | .ok result =>
    if result.status.isSuccess then .ok ()
    else .error (.failed result.status (Text.trimEnd result.errors))

/-- Compiles a source file. -/
def compile (host : Host m) (j : Javac) (classPath source : Path) :
    m (Except ToolchainError Unit) := do
  return j.outcome (← host.launch j.path (arguments classPath source))

/-- Finds a compiler on the host and compiles a source file with it. -/
def locateAndCompile (host : Host m) (classPath source : Path) :
    m (Except ToolchainError Unit) := do
  match ← search host host.searchPath with
  | some j => compile host j classPath source
  | none => return .error .notFound

end Javac

end Flowchart
