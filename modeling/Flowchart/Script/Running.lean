import Flowchart.Script.Launching

set_option autoImplicit false

/-! # Running scripts

What each form of command does. Commands inside others are run by a runner that is a parameter; the
runner itself is tied together at the end, with fuel for the depth of commands. -/

namespace Flowchart

namespace Running

/-! ## Calls -/

/-- How many functions may be running inside each other. -/
def maxFunctions : Nat := 1000

/-- Runs the body of a function, and gives back what belongs to the script that calls it. -/
def untilReturn (before : Shell) (body : Action Unit) : Action Unit := do
  let result ← Action.attempt body
  modify fun s =>
    let s := s.saved.foldl (fun s b => s.setBinding b.1 b.2) s
    { s with
      arguments := before.arguments
      optionIndex := before.optionIndex
      optionOffset := before.optionOffset
      loops := before.loops
      functionDepth := before.functionDepth
      saved := before.saved }
  match result with
  | .error .returning => return ()
  | result => Action.resume result

/-- Calls a function. -/
def callFunction (again : Runner) (tested : Bool) (body : ScriptCommand)
    (arguments : List String) : Action Unit := do
  let before ← get
  if maxFunctions ≤ before.functionDepth then
    Action.fail s!"Maximum function recursion depth ({maxFunctions}) reached"
  set { before.withArguments arguments with
    loops := 0, functionDepth := before.functionDepth + 1, saved := [] }
  untilReturn before (again tested body)

/-- The path of a script that is read into the running one. -/
def sourcePath (word : String) : Action String := do
  if word.toList.contains '/' then return word
  else
    let s ← get
    let found := s.searchPath.find? fun directory =>
      s.files.isFile ⟨Text.Utf8.gather (Launching.inDirectory directory word).toList⟩
    match found with
    | some directory => return Launching.inDirectory directory word
    | none => Action.fail (word ++ ": not found")

/-- Reads a script into the running one. -/
def source (again : Runner) (words : List String) : Action Unit := do
  let (_, rest) ← Builtin.letters "" words
  match rest with
  | [] => Action.setStatus 0
  | word :: _ =>
    let path ← sourcePath word
    match (← get).files.find ⟨Text.Utf8.gather path.toList⟩ with
    | .error e =>
      Action.fail ("cannot open " ++ path ++ ": " ++ Redirecting.openFailure e false)
    | .ok (place, _) =>
      modify fun s => { s with source := some path }
      match (← Action.attempt (Process.text again false ((← get).contents place))) with
      | .error .returning => return ()
      | result => Action.resume result

/-- Tells what a name calls; in words, if that is wanted. -/
def describe (verbose : Bool) (name : String) : Action Unit := do
  let s ← get
  let tell (text : String) : Action Unit := Builtin.emit "command" (text ++ "\n").toList
  let known (text : String) : Action Unit :=
    tell (if verbose then name ++ text else name)
  if Reading.keywords.contains name then known " is a shell keyword"
  else if let some text := s.aliases.lookup name then
    tell (if verbose then name ++ " is an alias for " ++ text
      else "alias " ++ Builtin.aliasLine name text)
  else if (s.functions.lookup name).isSome && !name.toList.contains '/' then
    known " is a shell function"
  else if Builtin.special.contains name then known " is a special shell builtin"
  else if Builtin.isKnown name then known " is a shell builtin"
  else
    let found := match Launching.locate s name with
      | .ok path =>
        if (s.files.node? ⟨Text.Utf8.gather path.toList⟩).any Condition.isExecutable then
          some path else none
      | .error _ => none
    match found with
    | some path => tell (if verbose then name ++ " is " ++ path else path)
    | none =>
      if verbose then tell (name ++ ": not found")
      Action.setStatus 127

/-- Runs a command that messages name as their source. -/
def asSource (name : String) (action : Action Unit) : Action Unit := do
  let s ← get
  set { s with source := some name }
  let result ← Action.attempt action
  modify fun after => { after with source := s.source }
  Action.resume result

/-- What a command of the shell does. -/
def builtin? (again : Runner) (tested : Bool) (name : String) (words : List String) :
    Option (Action Unit) :=
  match name with
  | "eval" => some (Process.text again tested (String.intercalate " " words).toList)
  | "." => some (source again words)
  | "exec" => some (
    match words with
    | [] => Action.setStatus 0
    | name :: rest => Launching.replace again name rest)
  | "type" => some do
    Action.setStatus 0
    words.forM (describe true)
  | name => Builtin.simple? name words

/-- Calls a command, a function only if functions count. -/
def callNamed (again : Runner) (tested functions : Bool) (name : String)
    (words : List String) : Action Unit := do
  let s ← get
  let function? := if functions && !Builtin.special.contains name then s.functions.lookup name
    else none
  match function? with
  | some body => callFunction again tested body words
  | none =>
    match builtin? again tested name words with
    | some action => asSource name action
    | none => Launching.call again name words

/-! ## Simple commands -/

/-- The commands whose arguments can be assignments. -/
def declaring : List String := ["export", "local", "readonly"]

/-- The fields of the words of a command. Assignments after a command that declares variables are
    not cut. -/
def expandWords (capture : Expansion.Capture) (before : List String) :
    List ScriptWord → Action (List String)
  | [] => return before
  | w :: rest => do
    let declares := match before.filter (· ≠ "command") with
      | name :: _ => declaring.contains name
      | [] => false
    let more ← match (if declares then w.assignment? else none) with
      | some (name, value) => do pure [name ++ "=" ++ (← Expansion.assigned capture value)]
      | none => Expansion.fields capture w
    expandWords capture (before ++ more) rest

/-- Assigns values in order; each is told together with its variable. -/
def assignAll (capture : Expansion.Capture) (exports : Bool) :
    List (String × ScriptWord) → Action (List String)
  | [] => return []
  | (name, w) :: rest => do
    let value ← Expansion.assigned capture w
    Action.assign name value
    if exports then
      modify fun s =>
        s.setBinding name ((s.binding? name).map fun b => { b with exported := true })
    return (name ++ "=" ++ value) :: (← assignAll capture exports rest)

/-- Repeats a command before it is run, where that is wanted. -/
def trace (before : Shell) (words : List String) : Action Unit := do
  let s ← get
  if s.has 'x' then
    let label := (s.valueOf? "PS4").getD ""
    match before.descriptors.lookup 2 with
    | some number =>
      let line := label ++ String.intercalate " " words ++ "\n"
      modify fun s => s.writeStream number line.toList
    | none => return ()

/-- The command without the words that only say how to call it, and whether functions count. -/
def calledName : List String → List String × Bool
  | "command" :: "--" :: rest => (rest, false)
  | "command" :: "-p" :: rest => (rest, false)
  | "command" :: word :: rest =>
    if word.startsWith "-" then ("command" :: word :: rest, true) else (word :: rest, false)
  | words => (words, true)

/-- Calls a command with its arguments. -/
def callWords (again : Runner) (tested : Bool) (words : List String) : Action Unit := do
  match calledName words with
  | (["command"], _) => Action.setStatus 0
  | ("command" :: options, _) => asSource "command" do
    let (found, names) ← Builtin.letters "pvV" options
    Action.setStatus 0
    (names.take 1).forM (describe (found.contains 'V'))
  | ([], _) => Action.setStatus 0
  | (name :: rest, functions) => callNamed again tested functions name rest

/-- What an error comes to that a command may end with: only the command fails. -/
def contain (isSpecial : Bool) (action : Action Unit) : Action Unit := do
  match (← Action.attempt action) with
  | .error .failing => if isSpecial then throw .failing else return ()
  | result => Action.resume result

/-- Runs the words of a simple command, and takes its assignments back if they were for it only. -/
def runWords (again : Runner) (tested : Bool) (assignments : List (String × ScriptWord))
    (words : List String) (earlier : List (String × Binding)) : Action Unit := do
  if words.isEmpty then Action.setStatus (← get).outputStatus
  else
    let first := words.headD ""
    let isSpecial := Builtin.special.contains first
    let called := callWords again tested words
    let result ← Action.attempt (if Builtin.isKnown first then contain isSpecial called else called)
    if !isSpecial then
      modify fun s => assignments.foldl (fun s a => s.setBinding a.1 (earlier.lookup a.1)) s
    Action.resume result

/-- Runs a simple command. Its assignments stay only if there is nothing else in it, or if it is
    one of the special commands. -/
def simple (again : Runner) (tested : Bool) (line : Nat)
    (assignments : List (String × ScriptWord)) (words : List ScriptWord)
    (redirections : List Redirection) : Action Unit := do
  modify fun s => { s with line, outputStatus := 0 }
  let capture := Process.capture again
  let words ← expandWords capture [] words
  let first := words.headD ""
  let isSpecial := Builtin.special.contains first
  let isExec := (calledName words).1.head? == some "exec"
  let before ← get
  Redirecting.during capture redirections isExec
    (if isSpecial then throw .failing else return ()) do
    let stays := isSpecial || words.isEmpty
    let earlier := (← get).bindings
    let told ← assignAll capture (!stays || isExec && 1 < words.length) assignments
    if !told.isEmpty || !words.isEmpty then trace before (told ++ words)
    runWords again tested assignments words earlier

/-! ## Loops -/

/-- How a round of a loop ended. -/
inductive Round where
  | finished
  | skipped
  | left
deriving DecidableEq

/-- Runs a part of a loop. -/
def round (action : Action Unit) : Action Round := do
  let loops := (← get).loops
  modify fun s => { s with loops := loops + 1 }
  let result ← Action.attempt action
  modify fun s => { s with loops }
  match result with
  | .ok () => return .finished
  | .error (.breaking n) => if n ≤ 1 then return .left else throw (.breaking (n - 1))
  | .error (.continuing n) => if n ≤ 1 then return .skipped else throw (.continuing (n - 1))
  | .error other => throw other

/-- Runs a body as long as a condition has an outcome. The status at the end is that of the body. -/
def repeatWhile (again : Runner) (tested outcome : Bool) (condition body : ScriptCommand) :
    Nat → Nat → Action Unit
  | 0, _ => throw .exiting
  | fuel + 1, last => do
    match (← round (again true condition)) with
    | .left => Action.setStatus last
    | .skipped => repeatWhile again tested outcome condition body fuel last
    | .finished =>
      if ((← get).status == 0) != outcome then Action.setStatus last
      else
        match (← round (again tested body)) with
        | .left => return ()
        | _ => repeatWhile again tested outcome condition body fuel (← get).status

/-- Runs a body for each of some values. -/
def forEach (again : Runner) (tested : Bool) (name : String) (body : ScriptCommand) :
    List String → Action Unit
  | [] => return ()
  | value :: rest => do
    Action.assign name value
    match (← round (again tested body)) with
    | .left => return ()
    | _ => forEach again tested name body rest

/-- The body of the first case with a pattern that matches a text. -/
def findCase (capture : Expansion.Capture) (subject : String) :
    List (List ScriptWord × ScriptCommand) → Action (Option ScriptCommand)
  | [] => return none
  | (patterns, body) :: rest => do
    let isMatch ← patterns.anyM fun w => do
      return Glob.isMatch (← Expansion.pattern capture w) subject.toList
    if isMatch then return some body else findCase capture subject rest

/-! ## Processes -/

/-- Runs an action with a stream as its input, if there is one. -/
def withInput (input : Option Nat) (action : Action Unit) : Action Unit :=
  match input with
  | some number => do
    modify fun s => s.setDescriptor 0 (some number)
    action
  | none => action

/-- Runs commands with pipes between them; the status is that of the last. -/
def pipeline (again : Runner) (tested : Bool) (input : Option Nat) :
    List ScriptCommand → Action Unit
  | [] => return ()
  | [c] => Process.inCopy again (withInput input (again tested c))
  | c :: rest => do
    let status := (← get).status
    let (s, number) := (← get).addStream (.pipe [])
    set s
    Process.inCopy again <| withInput input do
      modify fun s => s.setDescriptor 1 (some number)
      again tested c
    Action.setStatus status
    pipeline again tested (some number) rest

/-- Runs a command that nobody waits for, to its end nevertheless. -/
def background (again : Runner) (c : ScriptCommand) : Action Unit := do
  let result ← Action.apart do
    modify (Process.copied ·)
    Process.toEnd again do
      Redirecting.openStream 0 .device
      again false c
  let s ← get
  let process := s.own + 1 + s.nextStream
  let status := match result with
    | .error (.killed signal) => .signal signal
    | _ => .code s.status
  set { s with
    status := 0
    jobs := { process, status } :: s.jobs
    lastJob := some process
    nextStream := s.nextStream + 1 }
  Builtin.receiveSent

/-- Ends the script if a command failed whose failure is not asked for. -/
def checkFailure (tested : Bool) : Action Unit := do
  let s ← get
  if !tested && s.status ≠ 0 && s.has 'e' then throw .exiting

/-- Runs a command, with a runner for the commands in it and a bound on the rounds of its loops. -/
def step (again : Runner) (limit : Nat) (tested : Bool) (c : ScriptCommand) : Action Unit := do
  let capture := Process.capture again
  match c with
  | .nothing => return ()
  | .sequence a b =>
    again tested a
    again tested b
  | .both a b =>
    again true a
    if (← get).status = 0 then again tested b
  | .either a b =>
    again true a
    if (← get).status ≠ 0 then again tested b
  | .negate c =>
    again true c
    Action.setStatus (if (← get).status = 0 then 1 else 0)
  | .choose condition yes no =>
    again true condition
    if (← get).status = 0 then again tested yes
    else
      match no with
      | .nothing => Action.setStatus 0
      | no => again tested no
  | .repeatWhile outcome condition body =>
    repeatWhile again tested outcome condition body limit 0
  | .forEach line name values body =>
    modify fun s => { s with line }
    let values ← Expansion.allFields capture values
    if values.isEmpty then Action.setStatus 0 else forEach again tested name body values
  | .select line subject cases =>
    modify fun s => { s with line }
    let subject ← Expansion.text capture subject
    match (← findCase capture subject cases) with
    | some .nothing | none => Action.setStatus 0
    | some body => again tested body
  | .define name body =>
    modify fun s =>
      { s with functions := (name, body) :: s.functions.filter (·.1 ≠ name), status := 0 }
  | .redirected line c redirections =>
    modify fun s => { s with line }
    Redirecting.during capture redirections false (return ()) (again tested c)
  | .simple line assignments words redirections =>
    simple again tested line assignments words redirections
    checkFailure tested
  | .pipeline stages =>
    pipeline again tested none stages
    checkFailure tested
  | .subshell line c redirections =>
    modify fun s => { s with line }
    Process.inCopy again do
      Redirecting.during capture redirections true (throw .exiting) (again tested c)
    checkFailure tested
  | .background c =>
    background again c
    checkFailure tested
  Process.answerArrived again

/-- Runs commands as deep as there is fuel. -/
def run (limit : Nat) : Nat → Runner
  | 0 => fun _ _ => throw .exiting
  | fuel + 1 => fun tested c => do
    if (← get).has 'n' then return ()
    else step (run limit fuel) limit tested c

/-- How many rounds a loop may have. -/
def maxRounds : Nat := 100000

/-- How deep commands may stand in each other. -/
def maxDepth : Nat := 20000

/-- Runs a command. -/
def command : Runner := run maxRounds maxDepth

end Running

/-! ## Launching -/

/-- The process that a host starts: it can read nothing, what it writes is lost, and what it reports
    is kept. -/
def Shell.launched (files : FileTree) (searchPath : String) : Shell :=
  let path := String.ofList (Text.Utf8.spread searchPath)
  { name := ""
    arguments := []
    files
    streams := [(0, .device), (1, .device), (2, .pipe [])]
    nextStream := 3
    descriptors := [(0, 0), (1, 1), (2, 2)]
    bindings := [("PATH", { value := some path, exported := true }),
      ("HOME", { value := some "/root", exported := true })]
    process := 2
    own := 2 }

/-- What is left of a process that has ended. -/
def Shell.programResult (s : Shell) (result : Except Interruption Unit) : ProgramResult where
  status := match result with
    | .error (.killed signal) => .signal signal
    | _ => .code (s.status % 256)
  errors := match s.streams.lookup 2 with
    | some (.pipe bytes) => Text.Utf8.gather bytes
    | _ => ""

/-- The program that a process starts for a path, if it can start one. A name without slashes is
    looked up in the search path. -/
def Launching.started (s : Shell) (p : Path) (arguments : List String) :
    Except FileError Executable := do
  let spread (text : String) : String := String.ofList (Text.Utf8.spread text)
  let isBroken (text : String) : Bool := text.toList.contains (Char.ofNat 0)
  if isBroken p.text || arguments.any isBroken then .error .endInside
  else if p.text = "" then .error .notFound
  else
    let path ← locate s (spread p.text)
    executable s.files maxDepth path (spread p.text) (arguments.map spread)

/-- Launches programs, with a search path in which colons stand between the directories. -/
def launcher (searchPath : String) : FileTree.Launcher := fun p arguments tree =>
  let s := Shell.launched tree searchPath
  match Launching.started s p arguments with
  | .error e => (.error e, tree)
  | .ok e =>
    let (result, s) := (Launching.become Running.command Launching.maxChain e).run s
    (.ok (s.programResult result), { s.files with current := tree.current })

end Flowchart
