import Flowchart.Script.Program
import Flowchart.Script.Redirecting

set_option autoImplicit false

/-! # Launching programs from scripts

A file can be launched if it is a program, or a text whose first line names the program that reads
it. A program runs in a process of its own, with the files, descriptors and exported variables of
the one that launched it. -/

namespace Flowchart.Launching

/-! ## Finding programs -/

/-- The program named in the first line of a text, with an argument for it; the outer level is
    missing if the text cannot be launched, the inner one if its first line names none. -/
def interpreter? (cs : List Char) : Option (Option (String × List String)) :=
  match cs with
  | '#' :: '!' :: rest =>
    let isBlank (c : Char) : Bool := c = ' ' || c = '\t'
    let line := (rest.takeWhile (· ≠ '\n')).dropWhile isBlank
    let line := (line.reverse.dropWhile isBlank).reverse
    let name := line.takeWhile (!isBlank ·)
    let argument := (line.drop name.length).dropWhile isBlank
    some (if name.isEmpty then none
      else some (String.ofList name, if argument.isEmpty then [] else [String.ofList argument]))
  | _ => none

/-- A program that can be run: its name, what it was called, and its arguments. -/
structure Executable where
  program : String
  called : String
  arguments : List String
deriving DecidableEq

/-- How many programs may read texts on behalf of each other. -/
def maxDepth : Nat := 5

/-- How a path can be launched. -/
inductive Start where
  | program (name : String)
  /-- Another program reads the text that the path leads to. -/
  | reader (name : String) (arguments : List String)
deriving DecidableEq

/-- How a path can be launched, or the reason why it cannot. -/
@[irreducible]
def start (t : FileTree) (path : String) : Except FileError Start := do
  match (← t.find ⟨Text.Utf8.gather path.toList⟩).2 with
  | .program program => return .program program
  | .directory | .device => .error .permissionDenied
  | .file contents =>
    match interpreter? (Text.Utf8.spread contents) with
    | none => .error .permissionDenied
    | some none => .error .badFormat
    | some (some (reader, more)) => return .reader reader more

/-- The program that runs if a path is launched. A text is handed to the program that it names. -/
def executable (t : FileTree) (depth : Nat) (path called : String) (arguments : List String) :
    Except FileError Executable :=
  match start t path with
  | .error e => .error e
  | .ok (.program program) => .ok { program, called, arguments }
  | .ok (.reader reader more) =>
    match depth with
    | 0 => .error .tooManyLevels
    | depth + 1 => executable t depth reader reader (more ++ path :: arguments)

/-- A path in a directory of the search path; no name at all is the directory in which paths
    start. -/
def inDirectory (directory name : String) : String :=
  if directory = "" then name
  else if directory.endsWith "/" then directory ++ name
  else directory ++ "/" ++ name

/-- Whether a search ends at a path; if not, the reason to give when it ends nowhere, which was
    another one before. -/
@[irreducible]
def stop (t : FileTree) (path : String) (failure : FileError) : Except FileError Unit :=
  match t.find ⟨Text.Utf8.gather path.toList⟩ with
  | .ok (_, .program _) => .ok ()
  | .ok (_, .file contents) =>
    if contents.startsWith "#!" then .ok () else .error .permissionDenied
  | .ok _ => .error .permissionDenied
  | .error .notFound | .error .notDirectory => .error failure
  | .error e => .error e

/-- The first program with a name in directories, or the reason why there is none. -/
def search (t : FileTree) (name : String) (failure : FileError) :
    List String → Except FileError String
  | [] => .error failure
  | directory :: rest =>
    match stop t (inDirectory directory name) failure with
    | .ok () => .ok (inDirectory directory name)
    | .error failure => search t name failure rest

/-- The path of the program that a command names. -/
def locate (s : Shell) (name : String) : Except FileError String :=
  if name.toList.contains '/' then .ok name else search s.files name .notFound s.searchPath

/-- Why a program cannot be called, and the status of the call. -/
def callFailure (e : FileError) : String × Nat :=
  match e with
  | .notFound | .notDirectory => ("not found", 127)
  | .nameTooLong | .tooManyLevels => (e.text, 127)
  | e => (e.text, 126)

/-! ## Shells -/

/-- The variables that a shell starts with: those it is given and its own. -/
def initialBindings (s : Shell) : List (String × Binding) :=
  let own := [("IFS", " \t\n"), ("OPTIND", "1"), ("PS1", "# "), ("PS2", "> "), ("PS4", "+ "),
    ("PPID", toString (s.own - 1))]
  let given := s.bindings.filter fun b =>
    b.2.exported && b.2.value.isSome && !(own.map (·.1)).contains b.1
  let given := given.map fun b => (b.1, { b.2 with readOnly := false })
  let directory := String.ofList (Text.Utf8.spread (Builtin.placeText s.files.current))
  own.map (fun b => (b.1, { value := some b.2 })) ++
    (if given.any (·.1 == "PWD") then [] else [("PWD", { value := some directory })]) ++ given

/-- A process in which a shell starts. -/
def freshShell (s : Shell) (name : String) : Shell where
  name
  arguments := []
  files := s.files
  streams := s.streams
  nextStream := s.nextStream
  descriptors := s.descriptors
  bindings := initialBindings s
  nextDocument := s.nextDocument
  traps := s.traps.filter (·.action == "")
  mask := s.mask
  process := s.own
  own := s.own
  sent := s.sent

/-- What a shell was asked to read. -/
inductive ScriptSource where
  | command
  | input
  | file

/-- Reads the options of a shell; the result is what it reads and the arguments. -/
def readShellOptions : Nat → ScriptSource → List String → Action (ScriptSource × List String)
  | 0, source, words => return (source, words)
  | fuel + 1, source, words => do
    match words with
    | [] => return (source, [])
    | word :: rest =>
      match word.toList with
      | ['-', '-'] | ['-'] => return (source, rest)
      | sign :: cs =>
        if (sign = '-' || sign = '+') && !cs.isEmpty then
          let source := if cs.contains 'c' then .command else if cs.contains 's' then .input
            else source
          let letters := cs.filter fun c => c ≠ 'c' && c ≠ 's'
          readShellOptions fuel source (← Builtin.switchAll (sign = '-') letters rest)
        else return (source, words)
      | [] => return (source, words)

/-- Runs a shell with arguments to its end. -/
def shell (again : Runner) (called : String) (words : List String) : Action Unit := do
  modify fun s => freshShell s called
  Process.toEnd again do
    let (source, words) ← readShellOptions (words.length + 1) .file words
    let begin (name : String) (arguments : List String) : Action Unit :=
      modify fun s => { s with name, arguments }
    match source, words with
    | .command, text :: rest =>
      begin (rest.headD called) rest.tail
      Process.text again false text.toList
    | .command, [] => Action.fail "-c requires an argument"
    | .input, words =>
      begin called words
      Process.text again false (← Program.takeInput)
    | .file, [] => Process.text again false (← Program.takeInput)
    | .file, path :: rest =>
      match (← get).files.read ⟨Text.Utf8.gather path.toList⟩ with
      | .ok contents =>
        begin path rest
        Process.text again false (Text.Utf8.spread contents)
      | .error e =>
        Action.fail ("cannot open " ++ path ++ ": " ++ Redirecting.openFailure e false)

/-! ## Running programs -/

/-- The words after the options that ask for words to be split. -/
def splitWords (words : List String) : List String :=
  match words with
  | [] => []
  | word :: rest =>
    if word.startsWith "-S" then
      let cut := (word.drop 2).copy.toList.splitOn ' '
      (cut.filter (!·.isEmpty)).map String.ofList ++ rest
    else if word = "-" || word = "--" then rest
    else words

/-- Gives variables for a program their values; the result is the words after them. -/
def setVariables : List String → Action (List String)
  | [] => return []
  | word :: rest => do
    match Builtin.splitEquals word with
    | (name, some value) =>
      modify fun s => s.setBinding name (some { value := some value, exported := true })
      setVariables rest
    | (_, none) => return word :: rest

/-- Tells why a program cannot be run in an environment of its own. -/
def complainOf (word : String) (e : FileError) : Action Unit := do
  Program.complain ("\x27" ++ word ++ "\x27: " ++ e.text)
  if e = .notFound && word.toList.contains ' ' then
    Program.complain "use -[v]S to pass options in shebang lines"
  Action.setStatus (callFailure e).2

/-- Starts what words name that may set variables first. -/
def startWords (start : Executable → Action Unit) (words : List String) : Action Unit := do
  match (← setVariables words) with
  | [] => Action.setStatus 0
  | word :: rest =>
    let s ← get
    match locate s word >>= fun path => executable s.files maxDepth path word rest with
    | .ok e => start e
    | .error e => complainOf word e

/-- Runs a program in place of the process. -/
def become (again : Runner) : Nat → Executable → Action Unit
  | 0, _ => throw .exiting
  | fuel + 1, e => do
    if Program.shells.contains e.program then shell again e.called e.arguments
    else
      modify fun s => { s with name := e.called, source := some e.program, traps := [] }
      if e.program = "env" then
        match e.arguments with
        | word :: _ =>
          match word.toList with
          | '-' :: c :: _ => if c ≠ '-' && c ≠ 'S' && c ≠ 'i' then return (← Program.refuse c 125)
          | _ => pure ()
        | [] => pure ()
        startWords (become again fuel) (splitWords e.arguments)
      else
        match Program.simple? e.program e.arguments with
        | some action => Process.toEnd again action
        | none => Action.setStatus 127

/-- How many programs may be run in place of each other. -/
def maxChain : Nat := 100

/-- Runs a program in a process of its own. -/
def runApart (again : Runner) (e : Executable) : Action Unit :=
  Process.inChild do
    modify fun s => { s with own := s.own + 1 }
    become again maxChain e

/-- Calls the program that a command names. -/
def call (again : Runner) (name : String) (arguments : List String) : Action Unit := do
  let s ← get
  match locate s name with
  | .error e =>
    let reason := match e with
      | .notFound | .notDirectory => "not found"
      | e => e.text
    Action.complain (name ++ ": " ++ reason)
    Action.setStatus 127
  | .ok path =>
    match executable s.files maxDepth path name arguments with
    | .ok e => runApart again e
    | .error e =>
      let (reason, status) := callFailure e
      Action.complain (name ++ ": " ++ reason)
      Action.setStatus status

/-- Runs a program in place of the script. -/
def replace (again : Runner) (name : String) (arguments : List String) : Action Unit := do
  let s ← get
  match locate s name >>= fun path => executable s.files maxDepth path name arguments with
  | .ok e =>
    become again maxChain e
    modify fun s => { s with traps := [] }
    throw .exiting
  | .error e =>
    let (reason, status) := callFailure e
    Action.complain (name ++ ": " ++ reason)
    Action.setStatus status
    throw .exiting

end Flowchart.Launching
