import Flowchart.CommandLine.Session
import Flowchart.Script.Machine
import Flowchart.Script.Running

set_option autoImplicit false

/-! # The command line program

Runs a session on the machine's own files and prints its report. `javac` is launched when it is a
shell script; other programs are refused. -/

namespace Flowchart

/-- The result of an action, with the reason if it fails. -/
def Main.attempt {α : Type} (action : IO α) : IO (Except String α) := do
  match ← action.toBaseIO with
  | .ok a => return .ok a
  | .error e => return .error (toString e)

/-- Whether an action succeeds. -/
def Main.succeeds {α : Type} (action : IO α) : IO Bool := do
  return (← Main.attempt action).isOk

/-- Launches a script. It sees the files of a machine on which there is only itself. -/
def Main.launch (path : Path) (arguments : List String) : IO (Except String ProgramResult) := do
  match ← Main.attempt (IO.FS.readFile path.text) with
  | .error reason => return .error reason
  | .ok text =>
    let outer := (path.parent?).getD ⟨""⟩
    let (_, files) := Machine.files.makeDirectories outer
    let result := match files.write path text with
      | .ok files => (launcher Machine.searchPath path arguments files).1
      | .error e => .error e
    return result.mapError FileError.message

/-- The machine as a host. -/
def Main.host (searchPath : List Path) : Host IO where
  readText p := Main.attempt (IO.FS.readFile p.text)
  isFile p := Main.succeeds (IO.FS.readBinFile p.text)
  pathExists p := Main.succeeds (IO.FS.realPath p.text)
  makeDirectories p := Main.attempt (IO.FS.createDirAll p.text)
  writeFile p contents := Main.attempt (IO.FS.writeFile p.text contents)
  removeTree p := Main.attempt (IO.FS.removeDirAll p.text)
  launch := Main.launch
  searchPath := searchPath

/-- The directories in which `javac` is looked for: those of a JDK first, then the search path. -/
def Main.searchPath (javaHome searchPath : Option String) : List Path :=
  (javaHome.map fun home => (⟨home⟩ : Path).child "bin").toList ++
    ((searchPath.map (·.splitOn ":")).getD []).map Path.mk

/-- What is printed on demand of help. -/
def Main.usage : List String :=
  ["Compiles a flowchart project to Java.", "",
    "  -p, --path <FILE>            the project file",
    "  -f, --function <NAME>        the full name of the entry function",
    "  -a, --parameter <NAME=VALUE> a value for a parameter of the entry function",
    "  -o, --output <DIRECTORY>     the output directory",
    "      --ignore-comments        leaves comments out",
    "      --skip-failed            leaves out declarations that cannot be compiled",
    "      --parallel               compiles declarations independently",
    "      --clean                  deletes the previous output first",
    "      --compile                runs javac on the entry function",
    "  -v, --verbose                tells more",
    "  -h, --help                   prints this text",
    "  -V, --version                prints the version"]

/-- What is printed before a session, by the outcome of reading the arguments. -/
def Main.preamble : ArgumentOutcome → List String
  | .run _ => []
  | .help => Main.usage
  | .version => ["flowchart 1.0.0"]
  | .invalid => []

end Flowchart

open Flowchart in
/-- Runs the command line. -/
def main (arguments : List String) : IO UInt32 := do
  let searchPath := Main.searchPath (← IO.getEnv "JAVA_HOME") (← IO.getEnv "PATH")
  for line in Main.preamble (Arguments.read arguments) do
    IO.println line
  let report ← Session.run (Main.host searchPath) arguments
  for line in report.outputLines do
    IO.println line
  for line in report.errorLines do
    IO.eprintln line
  if Arguments.read arguments = .invalid then
    for line in Main.usage do
      IO.eprintln line
  return UInt32.ofNat report.exitCode
