import Flowchart.Script.Builtin
import Flowchart.Script.Grammar

set_option autoImplicit false

/-! # Scripts within processes

A script is run line by line: what a line says is done before the next one is read, so that an error
in the text shows only when it is reached. Processes of their own are run to their end one after the
other. How a single command is run is a parameter of everything here. -/

namespace Flowchart

/-- How a command is run; the flag says that its failure only decides how to go on. -/
abbrev Runner := Bool → ScriptCommand → Action Unit

namespace Process

/-- Repeats the lines that have been read, where that is wanted. -/
def repeatLines (before after : List Char) : Action Unit := do
  if (← get).has 'v' then
    let _ ← Action.write 2 (before.take (before.length - after.length))

/-- Runs the lines of a script; the result is whether there was any command. -/
def lines (again : Runner) (tested : Bool) : Nat → ScriptReader → Action Bool
  | 0, _ => return false
  | fuel + 1, reader => do
    let s ← get
    let fresh : ScriptReader :=
      { reader with nextDocument := s.nextDocument, documents := [], aliases := s.aliases }
    match Reading.readLine?.run fresh with
    | .error e =>
      modify fun s => { s with line := e.line }
      Action.fail ("Syntax error: " ++ e.message)
    | .ok (command?, after) =>
      repeatLines reader.rest after.rest
      match command? with
      | none => return false
      | some c =>
        modify fun s =>
          { s with
            documents := after.documents ++ s.documents
            nextDocument := after.nextDocument }
        again tested c
        let more ← lines again tested fuel after
        return more || !(c matches .nothing)

/-- Runs a text as a script. Without any command it succeeds. -/
def text (again : Runner) (tested : Bool) (cs : List Char) : Action Unit := do
  let cs := cs.filter (· ≠ Char.ofNat 0)
  if !(← lines again tested (cs.length + 1) { rest := cs }) then Action.setStatus 0

/-- Does what is to be done when signals arrive. The status stays as it is. -/
def answerSignals (again : Runner) : List String → Action Unit
  | [] => return ()
  | event :: rest => do
    let s ← get
    match s.traps.find? (·.event == event) with
    | some trap =>
      text again false trap.action.toList
      Action.setStatus s.status
    | none => pure ()
    answerSignals again rest

/-- Does what is to be done about the signals that have arrived, once for each and in the order of
    their numbers. -/
def answerArrived (again : Runner) : Action Unit := do
  let s ← get
  if !s.arrived.isEmpty then
    let events := (List.range Signal.bound).map Builtin.eventName
    set { s with arrived := [], pendingStatus := some (s.pendingStatus.getD s.status) }
    answerSignals again (events.filter s.arrived.contains)
    modify fun after => { after with pendingStatus := s.pendingStatus }

/-- Does what is to be done at the end of a process. The status stays as it is, unless the process
    is ended once more. -/
def finish (again : Runner) : Action Unit := do
  let s ← get
  match s.traps.find? (·.event == "EXIT") with
  | some trap =>
    set { s with
      traps := s.traps.filter (·.event ≠ "EXIT")
      source := none
      pendingStatus := some s.status }
    match (← Action.attempt (text again false trap.action.toList)) with
    | .error (.killed signal) => throw (.killed signal)
    | .error .exiting | .error .failing => return ()
    | _ => Action.setStatus s.status
  | none => return ()

/-- Runs an action to the end of its process: whatever ends the action, only a signal goes on. -/
def toEnd (again : Runner) (action : Action Unit) : Action Unit := do
  match (← Action.attempt action) with
  | .error (.killed signal) => throw (.killed signal)
  | _ => finish again

/-- Runs an action in a process of its own. That a signal has ended it is told, unless the signal is
    one that users send. -/
def inChild (action : Action Unit) : Action Unit := do
  match (← Action.apart action) with
  | .error (.killed signal) =>
    if signal ≠ 2 && signal ≠ 13 then Action.report (Signal.describe signal)
    Action.setStatus (128 + signal)
  | _ => pure ()
  Builtin.learnEnd
  Builtin.receiveSent

/-- A copy of the process. There, only the signals that are ignored still are. -/
def copied (s : Shell) : Shell :=
  { s with
    own := s.own + 1
    traps := s.traps.filter (·.action == "")
    jobs := []
    pendingStatus := none }

/-- Runs an action in a copy of the process. -/
def inCopy (again : Runner) (action : Action Unit) : Action Unit :=
  inChild do
    modify copied
    toEnd again action

/-- A text without the ends of lines at its end. -/
def trimLines (cs : List Char) : List Char := (cs.reverse.dropWhile (· = '\n')).reverse

/-- The output of a command. The status that the script sees stays as it is. -/
def capture (again : Runner) : Expansion.Capture := fun c => do
  let s ← get
  let (s, number) := s.addStream (.pipe [])
  set s
  inCopy again (do
    modify fun s => s.setDescriptor 1 (some number)
    again false c)
  let after ← get
  let bytes := match after.streams.lookup number with
    | some (.pipe bytes) => bytes
    | _ => []
  set { after with
    streams := after.streams.filter (·.1 ≠ number)
    status := s.status
    outputStatus := after.status }
  return String.ofList (trimLines (bytes.filter (· ≠ Char.ofNat 0)))

end Process

end Flowchart
