import Flowchart.Script.Process

set_option autoImplicit false

/-! # Redirections

What a descriptor stands for is changed for one command or for good: to a file, to what another
descriptor stands for, or to a text in the script. -/

namespace Flowchart.Redirecting

/-- Why a file cannot be opened. -/
def openFailure (e : FileError) (creates : Bool) : String :=
  match e with
  | .notFound | .notDirectory => if creates then "Directory nonexistent" else "No such file"
  | e => e.text

/-- The descriptor that a path names. -/
def descriptorOf? (name : String) : Option Nat :=
  match name with
  | "/dev/stdin" => some 0
  | "/dev/stdout" => some 1
  | "/dev/stderr" => some 2
  | name =>
    let ds := name.toList.drop 8
    if name.startsWith "/dev/fd/" && !ds.isEmpty && ds.all Char.isDigit then
      some (Arithmetic.digitsValue 10 ds)
    else none

/-- Opens a stream that a descriptor is to stand for. -/
def openStream (descriptor : Nat) (stream : Stream) : Action Unit := modify fun s =>
  let (s, number) := s.addStream stream
  s.setDescriptor descriptor (some number)

/-- Opens a file for reading. -/
def openInput (descriptor : Nat) (name : String) : Action Unit := do
  match (← get).files.find ⟨Text.Utf8.gather name.toList⟩ with
  | .ok (place, .file _) => openStream descriptor (.file place 0 false)
  | .ok _ => openStream descriptor .device
  | .error e => Action.fail ("cannot open " ++ name ++ ": " ++ openFailure e false)

/-- Opens a file for writing, which creates it if it is missing. -/
def openOutput (descriptor : Nat) (mode : OpenMode) (name : String) : Action Unit := do
  let s ← get
  let refuse (e : FileError) : Action Unit :=
    Action.fail ("cannot create " ++ name ++ ": " ++ openFailure e true)
  match s.files.target ⟨Text.Utf8.gather name.toList⟩ with
  | .error e => refuse e
  | .ok place =>
    let isThere := match s.files.lookup place with
      | some (.file _) => true
      | _ => false
    if s.files.lookup place = some .device then openStream descriptor .device
    else if isThere && mode = .write && s.has 'C' then refuse .alreadyExists
    else
      if !isThere || mode = .write || mode = .force then
        modify fun s => { s with files := s.files.setContents place "" }
      openStream descriptor (.file place 0 (mode = .append))

/-- Lets a descriptor stand for what another one stands for. If that is nothing, the descriptor is
    already without its old meaning when the error is reported, unless the change is to stay. -/
def copyDescriptor (stay : Bool) (descriptor source : Nat) (shown : String) : Action Unit := do
  match (← get).descriptors.lookup source with
  | some number => modify fun s => s.setDescriptor descriptor (some number)
  | none =>
    if !stay then modify fun s => s.setDescriptor descriptor none
    Action.fail (shown ++ ": Bad file descriptor")

/-- A redirection whose words have been replaced by their texts. -/
inductive Resolved where
  | file (descriptor : Nat) (mode : OpenMode) (name : String)
  | copy (descriptor : Nat) (source : String)
  | document (descriptor : Nat) (text : String)

namespace Resolved

/-- The descriptor that is changed. -/
def descriptor : Resolved → Nat
  | .file descriptor .. | .copy descriptor _ | .document descriptor _ => descriptor

/-- Carries out a redirection. -/
def carryOut (stay : Bool) : Resolved → Action Unit
  | .file descriptor mode name =>
    match descriptorOf? name with
    | some source => do
      if ((← get).descriptors.lookup source).isSome then
        copyDescriptor stay descriptor source name
      else if mode = .read then openInput descriptor name
      else openOutput descriptor mode name
    | none => if mode = .read then openInput descriptor name else openOutput descriptor mode name
  | .copy descriptor source =>
    match source.toList with
    | ['-'] => modify fun s => s.setDescriptor descriptor none
    | [c] =>
      if c.isDigit then copyDescriptor stay descriptor (c.toNat - '0'.toNat) source
      else Action.fail "Syntax error: Bad fd number"
    | _ => Action.fail "Syntax error: Bad fd number"
  | .document descriptor text => openStream descriptor (.pipe text.toList)

end Resolved

/-- Replaces the words of a redirection by their texts. -/
def resolve (capture : Expansion.Capture) : Redirection → Action Resolved
  | .file descriptor mode name => return .file descriptor mode (← Expansion.text capture name)
  | .copy descriptor source => return .copy descriptor (← Expansion.text capture source)
  | .document descriptor number => do
    let w := ((← get).documents.lookup number).getD []
    return .document descriptor (← Expansion.document capture w)

/-- The descriptors as they were before some of them were changed. -/
def restore (before : Shell) (changed : List Nat) (s : Shell) : Shell :=
  changed.foldl (fun s d => s.setDescriptor d (before.descriptors.lookup d)) s

/-- Runs an action with redirections. If they fail, the action is not run, and what to do then is
    decided by `failed`; they are taken back afterwards unless they are to stay. -/
def during (capture : Expansion.Capture) (redirections : List Redirection) (stay : Bool)
    (failed : Action Unit) (action : Action Unit) : Action Unit := do
  let resolved ← redirections.mapM (resolve capture)
  let before ← get
  let back (s : Shell) := restore before (resolved.map (·.descriptor)) s
  match (← Action.attempt (resolved.forM (Resolved.carryOut stay))) with
  | .error .failing =>
    modify back
    Action.setStatus 2
    failed
  | .error other => throw other
  | .ok () =>
    let result ← Action.attempt action
    if !stay then modify back
    Action.resume result

end Flowchart.Redirecting
