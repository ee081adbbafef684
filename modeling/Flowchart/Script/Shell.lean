import Flowchart.Script.Syntax
import Flowchart.Text.Utf8
import Flowchart.Workspace.FileOperations

set_option autoImplicit false

/-! # The state of a running script

The files a script sees, what its descriptors read from and write to, its parameters, functions and
options, and how the last command ended. A command changes this state; it may also end more than
itself, by an interruption that the commands around it pass on or answer. All texts of a script are
handled byte by byte, each byte as the character with its number. -/

namespace Flowchart

/-- What a descriptor reads from or writes to. -/
inductive Stream where
  | device
  /-- What has been written and not yet read. -/
  | pipe (bytes : List Char)
  | file (place : Place) (offset : Nat) (append : Bool)
deriving DecidableEq

/-- A variable. It can be known without having a value. -/
structure Binding where
  value : Option String := none
  exported : Bool := false
  readOnly : Bool := false
deriving DecidableEq

/-- What is done when a signal arrives or the script ends. -/
structure Trap where
  /-- The name of the signal, or of the end. -/
  event : String
  action : String
deriving DecidableEq

/-- A process that nobody waits for. It runs to its end at once. -/
structure Job where
  process : Nat
  status : ExitStatus
  /-- Whether the script knows that it has ended. -/
  isSeen : Bool := false
deriving DecidableEq

/-- A running script. -/
structure Shell where
  /-- What the script was launched as. -/
  name : String
  arguments : List String
  files : FileTree
  streams : List (Nat × Stream) := []
  nextStream : Nat := 0
  /-- The streams that descriptors stand for. -/
  descriptors : List (Nat × Nat) := []
  bindings : List (String × Binding) := []
  /-- What the variables of a function were before it made them its own. -/
  saved : List (String × Option Binding) := []
  functions : List (String × ScriptCommand) := []
  /-- The texts that words stand for where a command can begin. -/
  aliases : List (String × String) := []
  documents : List (Nat × ScriptWord) := []
  nextDocument : Nat := 0
  options : List Char := []
  traps : List Trap := []
  /-- The signals that have arrived and that something is to be done about. -/
  arrived : List String := []
  /-- How the last command ended. -/
  status : Nat := 0
  /-- How the last command ended whose output was used, since a command began. -/
  outputStatus : Nat := 0
  /-- The line that messages name. -/
  line : Nat := 0
  /-- What messages name as their source, beside the script. -/
  source : Option String := none
  /-- How many loops the command stands in. -/
  loops : Nat := 0
  /-- How many functions are running inside each other. -/
  functionDepth : Nat := 0
  /-- Which argument is the next whose options are taken one by one, counted from one. -/
  optionIndex : Nat := 1
  /-- How much has been taken of the argument before it. -/
  optionOffset : Option Nat := none
  /-- The permissions that new files do not get. -/
  mask : Nat := 18
  /-- The process that the script runs in. -/
  process : Nat
  /-- The process that the running part of the script is in: a copy has a greater number than the
      process it is copied from. -/
  own : Nat
  /-- The signals sent to processes that have not yet seen them. -/
  sent : List (Nat × Nat) := []
  /-- What an end without a status comes to, while something is done about a signal or the end. -/
  pendingStatus : Option Nat := none
  jobs : List Job := []
  lastJob : Option Nat := none

/-- What ends more than one command. -/
inductive Interruption where
  | breaking (loops : Nat)
  | continuing (loops : Nat)
  | returning
  /-- An error that ends the script unless a command may fail in this way. -/
  | failing
  | exiting
  | killed (signal : Nat)
deriving DecidableEq

/-- A change of a running script that can be interrupted. -/
abbrev Action := ExceptT Interruption (StateM Shell)

namespace Shell

/-! ## Streams -/

/-- The stream that a descriptor stands for, with its number. -/
def stream? (s : Shell) (descriptor : Nat) : Option (Nat × Stream) := do
  let number ← s.descriptors.lookup descriptor
  return (number, ← s.streams.lookup number)

/-- The script with a stream in another state. -/
def setStream (s : Shell) (number : Nat) (stream : Stream) : Shell :=
  { s with streams := (number, stream) :: s.streams.filter (·.1 ≠ number) }

/-- The script with a new stream, and its number. -/
def addStream (s : Shell) (stream : Stream) : Shell × Nat :=
  ({ s.setStream s.nextStream stream with nextStream := s.nextStream + 1 }, s.nextStream)

/-- The script with a descriptor for another stream, or for none. -/
def setDescriptor (s : Shell) (descriptor : Nat) (number : Option Nat) : Shell :=
  let others := s.descriptors.filter (·.1 ≠ descriptor)
  { s with
    descriptors := match number with
      | some number => (descriptor, number) :: others
      | none => others }

/-- The bytes of the file at a place. -/
def contents (s : Shell) (place : Place) : List Char :=
  match s.files.lookup place with
  | some (.file text) => Text.Utf8.spread text
  | _ => []

/-- What is left to be read from a stream. -/
def remaining (s : Shell) : Stream → List Char
  | .device => []
  | .pipe bytes => bytes
  | .file place offset _ => (s.contents place).drop offset

/-- The script after some bytes of a stream have been read. -/
def consume (s : Shell) (number count : Nat) : Shell :=
  match s.streams.lookup number with
  | some (.pipe bytes) => s.setStream number (.pipe (bytes.drop count))
  | some (.file place offset append) => s.setStream number (.file place (offset + count) append)
  | _ => s

/-- The script after bytes have been written to a stream. What is written to a file that has been
    removed is lost. -/
def writeStream (s : Shell) (number : Nat) (bytes : List Char) : Shell :=
  match s.streams.lookup number with
  | some (.pipe before) => s.setStream number (.pipe (before ++ bytes))
  | some (.file place offset append) =>
    let before := s.contents place
    let offset := if append then before.length else offset
    let start := before.take offset ++ List.replicate (offset - before.length) (Char.ofNat 0)
    let after := start ++ bytes ++ before.drop (offset + bytes.length)
    let s := s.setStream number (.file place (offset + bytes.length) append)
    match s.files.lookup place with
    | some (.file _) => { s with files := s.files.setContents place (Text.Utf8.gather after) }
    | _ => s
  | _ => s

/-! ## Variables -/

/-- What is known of a variable. -/
def binding? (s : Shell) (name : String) : Option Binding := s.bindings.lookup name

/-- The script with something else known of a variable. -/
def setBinding (s : Shell) (name : String) (b : Option Binding) : Shell :=
  let others := s.bindings.filter (·.1 ≠ name)
  { s with
    bindings := match b with
      | some b => (name, b) :: others
      | none => others }

/-- The value of a variable. -/
def valueOf? (s : Shell) (name : String) : Option String := (s.binding? name).bind (·.value)

/-- The characters that separate fields. -/
def separators (s : Shell) : List Char := ((s.valueOf? "IFS").getD " \t\n").toList

/-- The script with other arguments, of which no options have been taken. -/
def withArguments (s : Shell) (arguments : List String) : Shell :=
  { s with arguments, optionIndex := 1, optionOffset := none }

/-- The job with a process. -/
def job? (s : Shell) (process : Nat) : Option Job := s.jobs.find? (·.process == process)

/-- The script with another job in place of the one with the same process. -/
def setJob (s : Shell) (job : Job) : Shell :=
  { s with jobs := job :: s.jobs.filter (·.process ≠ job.process) }

/-- The script once it has waited: it knows of all jobs that they have ended. -/
def withSeenJobs (s : Shell) : Shell :=
  { s with jobs := s.jobs.map fun job => { job with isSeen := true } }

/-- Whether an option is on. -/
def has (s : Shell) (option : Char) : Bool := s.options.contains option

/-- Where programs are looked for. -/
def searchPath (s : Shell) : List String :=
  match s.valueOf? "PATH" with
  | some path => (path.toList.splitOn ':').map String.ofList
  | none => []

end Shell

namespace Action

/-- What a descriptor can be written to; false, if it stands for nothing. -/
def write (descriptor : Nat) (bytes : List Char) : Action Bool := do
  match (← get).descriptors.lookup descriptor with
  | some number =>
    modify fun s => s.writeStream number bytes
    return true
  | none => return false

/-- Sets the status of the last command. -/
def setStatus (status : Nat) : Action Unit := modify fun s => { s with status }

/-- Writes a line to the standard error. -/
def report (line : String) : Action Unit := do
  let _ ← write 2 (line.toList ++ ['\n'])

/-- A message with its source in front of it. -/
def sourced (s : Shell) (message : String) : String :=
  let command := match s.source with
    | some source => source ++ ": "
    | none => ""
  s!"{s.name}: {s.line}: {command}{message}"

/-- Reports a message with its source. -/
def complain (message : String) : Action Unit := do report (sourced (← get) message)

/-- Reports an error and gives up. -/
def fail {α : Type} (message : String) : Action α := do
  complain message
  setStatus 2
  throw .failing

/-- What an action comes to: how it ends is returned together with its result. -/
def attempt {α : Type} (action : Action α) : Action (Except Interruption α) := fun s =>
  let (result, s) := action.run s
  (.ok result, s)

/-- Goes on with the end of an action. -/
def resume {α : Type} (result : Except Interruption α) : Action α := fun s => (result, s)

/-- Gives a variable a value, and does nothing else. -/
def store (name value : String) : Action Unit := do
  let s ← get
  let b := (s.binding? name).getD {}
  if b.readOnly then fail (name ++ ": is read only")
  else
    let exported := b.exported || s.has 'a'
    set (s.setBinding name (some { b with value := some value, exported }))

/-- Gives a variable a value. The taking of options starts anew where its variable says. -/
def assign (name value : String) : Action Unit := do
  store name value
  if name = "OPTIND" then
    modify fun s =>
      { s with optionIndex := max 1 ((value.toNat?).getD 1), optionOffset := none }

/-- Takes what is known of a variable away. -/
def unset (name : String) : Action Unit := do
  let s ← get
  match s.binding? name with
  | some b => if b.readOnly then fail (name ++ ": is read only") else set (s.setBinding name none)
  | none => return ()

/-- Runs an action in a process of its own: files and streams stay as it leaves them, and all else
    is as before. -/
def apart {α : Type} (action : Action α) : Action (Except Interruption α) := do
  let outer ← get
  let result ← attempt action
  modify fun inner =>
    { outer with
      files := { inner.files with current := outer.files.current }
      streams := inner.streams
      nextStream := inner.nextStream
      nextDocument := inner.nextDocument
      sent := inner.sent
      status := inner.status % 256 }
  return result

end Action

end Flowchart
