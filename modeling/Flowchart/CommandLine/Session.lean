import Flowchart.CommandLine.Arguments
import Flowchart.ProjectFile.Conversion
import Flowchart.ProjectFile.Reading
import Flowchart.Toolchain.Javac
import Flowchart.Workspace.Publishing

set_option autoImplicit false

/-! # A run of the command line

A run goes through four stages, the last of them only on demand, and ends with the first stage that
fails. The report of a run says how far it came. -/

namespace Flowchart

/-- A stage of a run. -/
inductive Stage where
  | parseArguments
  | loadProject
  | generateCode
  | compileCode
deriving DecidableEq

namespace Stage

/-- All stages in order. -/
def all : List Stage := [.parseArguments, .loadProject, .generateCode, .compileCode]

/-- The number of a stage, with which a run that fails in it exits. -/
def number : Stage → Nat
  | .parseArguments => 1
  | .loadProject => 2
  | .generateCode => 3
  | .compileCode => 4

/-- What a stage is called. -/
def label : Stage → String
  | .parseArguments => "COMMANDLINE PARSING"
  | .loadProject => "PROJECT PARSING"
  | .generateCode => "CODE GENERATION"
  | .compileCode => "CODE COMPILATION"

/-- The stages before a stage. -/
def before (s : Stage) : List Stage := all.takeWhile (· ≠ s)

end Stage

/-- The end of a stage. -/
structure StageLine where
  stage : Stage
  complete : Bool
deriving DecidableEq

/-- The end of a stage that has succeeded. -/
def Stage.complete (s : Stage) : StageLine := ⟨s, true⟩

/-- The line that announces the end of a stage. -/
def StageLine.render (l : StageLine) : String :=
  let word := if l.complete then "COMPLETE" else "FAILED"
  s!"[STAGE {l.stage.number}: {l.stage.label} {word}]"

/-- What is told at the end of a successful run. -/
structure Summary where
  project : String
  filesWritten : Nat
  skipped : Nat
  output : Path
deriving DecidableEq

/-- The lines of a summary. -/
def Summary.lines (s : Summary) : List String :=
  ["Project:          " ++ s.project, s!"Files written:    {s.filesWritten}",
    s!"Skipped:          {s.skipped}", "Output:           " ++ s.output.text]

/-- What a run tells. -/
structure Report where
  exitCode : Nat
  stages : List StageLine := []
  /-- The errors of declarations that were left out. -/
  skipped : List CompileError := []
  /-- Why the run failed. -/
  error : Option String := none
  summary : Option Summary := none

namespace Report

/-- A run that a stage ends by failing, after what has been told of the stages so far. -/
def failed (told : List StageLine) (stage : Stage) (error : String) (skipped : List CompileError) :
    Report where
  exitCode := stage.number
  stages := told ++ [⟨stage, false⟩]
  skipped := skipped
  error := some error

/-- A run that comes to its end, after what has been told of the stages. -/
def succeeded (told : List StageLine) (skipped : List CompileError) (summary : Summary) :
    Report where
  exitCode := 0
  stages := told
  skipped := skipped
  summary := some summary

/-- The lines on the standard output. -/
def outputLines (r : Report) : List String :=
  r.stages.map StageLine.render ++
    match r.summary with
    | some s => ["", "--- Summary ---"] ++ s.lines
    | none => []

/-- The lines on the standard error. -/
def errorLines (r : Report) : List String :=
  r.skipped.map (fun e => "Skipped: " ++ e.message) ++
    match r.error with
    | some e => ["", "Error: " ++ e]
    | none => []

end Report

namespace Session

variable {m : Type → Type} [Monad m]

/-- Reads the project from its file. -/
def loadProject (host : Host m) (path : Path) : m (Except String Item) := do
  match ← host.readText path with
  | .error reason =>
    return .error ("Failed to read project file '" ++ path.text ++ "': " ++ reason)
  | .ok text =>
    match ProjectFile.read? text with
    | none => return .error "Failed to parse project JSON: the text is no project file"
    | some record =>
      match record.convert with
      | .ok project => return .ok project
      | .error e => return .error e.message

/-- Runs `javac` on the source file of the entry function, if that is wanted. -/
def compileEntry (host : Host m) (a : Arguments) (generated : GeneratedProject) :
    m (Except String Unit) := do
  if a.compile then
    match generated.declaration? a.function with
    | none => return .error ("No source was generated for '" ++ a.function ++ "'")
    | some file =>
      let source := a.outputRoot.join file.path
      match ← Javac.locateAndCompile host a.outputRoot source with
      | .ok () => return .ok ()
      | .error e => return .error e.message
  else return .ok ()

/-- A run with arguments that could be read. The end of a stage is told where the stage ends. -/
def runWith (host : Host m) (a : Arguments) : m Report := do
  match Arguments.firstRepeated [] a.parameters with
  | some name =>
    return .failed [] .parseArguments ("Parameter '" ++ name ++ "' given more than once") []
  | none =>
    let told := [Stage.parseArguments.complete]
    match ← loadProject host a.path with
    | .error e => return .failed told .loadProject e []
    | .ok project =>
      let told := told ++ [Stage.loadProject.complete]
      match compile project a.options with
      | .error e => return .failed told .generateCode e.message []
      | .ok generated =>
        let publisher : Publisher := { root := a.outputRoot, clean := a.clean }
        match ← (publisher.publish host generated).run with
        | .error f => return .failed told .generateCode f.message generated.skipped
        | .ok written =>
          let told := told ++ [Stage.generateCode.complete]
          match ← compileEntry host a generated with
          | .error e => return .failed told .compileCode e generated.skipped
          | .ok () =>
            let told := if a.compile then told ++ [Stage.compileCode.complete] else told
            return .succeeded told generated.skipped
              { project := generated.name
                filesWritten := written.length
                skipped := generated.skipped.length
                output := a.outputRoot }

/-- A run of the command line. Asking for help or the version is a success, and arguments that
    cannot be read are a failure before the first stage has an end. -/
def run (host : Host m) (arguments : List String) : m Report :=
  match Arguments.read arguments with
  | .run a => runWith host a
  | .help | .version => return { exitCode := 0 }
  | .invalid => return { exitCode := 1 }

end Session

end Flowchart
