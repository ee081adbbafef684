import Flowchart.Script.Builtin

set_option autoImplicit false

/-! # Standard programs

The programs that can be called from a script besides other scripts: those that print, those that
look at texts and paths, and those that change files. -/

namespace Flowchart.Program

/-- Reports why a program failed. -/
def complain (message : String) : Action Unit := do
  Action.report ((← get).name ++ ": " ++ message)
  Action.setStatus 1

/-- A path that a script names. -/
def path (word : String) : Path := ⟨Text.Utf8.gather word.toList⟩

/-! ## Options -/

/-- The letters of the options that a program has, each followed by a colon if it takes a value. -/
def optionLetters : List (String × String) :=
  [("cat", "AbeEnstTuv"), ("touch", "acd:fhmr:t:"), ("mkdir", "m:pvZ"), ("rmdir", "pv"),
    ("rm", "dfirvIR"), ("basename", "as:z"), ("dirname", "z"), ("sleep", ""), ("pwd", "LP"),
    ("ls", "abcdfghiklmnopqrstuvw:xABCDFGHI:LNQRST:UXZ1")]

/-- The letters of a word that begins with a minus, up to one that takes a value, and whether the
    value is the next word; the letter is given that is none of the allowed ones. -/
def readLetters (allowed : List Char) : List Char → Except Char (List Char × Bool)
  | [] => .ok ([], false)
  | c :: rest =>
    match Builtin.takesValue? c allowed with
    | none => .error c
    | some true => .ok ([c], rest.isEmpty)
    | some false => (readLetters allowed rest).map fun (cs, value) => (c :: cs, value)

/-- The letters of options and the other arguments, as far as there is fuel. Options stand in front
    or anywhere. -/
def split (allowed : List Char) (anywhere : Bool) :
    Nat → List String → Except Char (List Char × List String)
  | 0, words => .ok ([], words)
  | _ + 1, [] => .ok ([], [])
  | fuel + 1, word :: rest =>
    match word.toList with
    | ['-', '-'] => .ok ([], rest)
    | '-' :: c :: cs => do
      let (found, value) ← readLetters allowed (c :: cs)
      let (more, others) ← split allowed anywhere fuel (if value then rest.drop 1 else rest)
      return (found ++ more, others)
    | _ =>
      if anywhere then
        (split allowed anywhere fuel rest).map fun (found, others) => (found, word :: others)
      else .ok ([], word :: rest)

/-- Refuses arguments, with the status that says so. -/
def misuse (message : String) (status : Nat) : Action Unit := do
  complain message
  Action.report ("Try '" ++ (← get).name ++ " --help' for more information.")
  Action.setStatus status

/-- Refuses an option. -/
def refuse (letter : Char) (status : Nat) : Action Unit :=
  misuse ("invalid option -- '" ++ String.singleton letter ++ "'") status

/-! ## What programs do -/

/-- What is left to be read from the standard input. -/
def takeInput : Action (List Char) := do
  let s ← get
  match s.stream? 0 with
  | some (number, stream) =>
    let bytes := s.remaining stream
    set (s.consume number bytes.length)
    return bytes
  | none => return []

/-- Prints files. -/
def concatenate : List String → Action Unit
  | [] => return ()
  | word :: rest => do
    if word = "-" then Builtin.emit "cat" (← takeInput)
    else
      match (← get).files.read (path word) with
      | .ok text => Builtin.emit "cat" (Text.Utf8.spread text)
      | .error e => complain (word ++ ": " ++ e.text)
    concatenate rest

/-- Changes files one after the other; failures are reported as a program does that. -/
def change (failure : String → String)
    (operation : FileTree → Path → Except FileError FileTree) : List String → Action Unit
  | [] => return ()
  | word :: rest => do
    let s ← get
    match operation s.files (path word) with
    | .ok files => set { s with files }
    | .error e => complain (failure word ++ ": " ++ e.text)
    change failure operation rest

/-- Creates a file that does not exist. -/
def touch (t : FileTree) (p : Path) : Except FileError FileTree :=
  if (t.node? p).isSome then .ok t else t.write p ""

/-- Creates a directory and what is missing above it. -/
def makePath (t : FileTree) (p : Path) : Except FileError FileTree :=
  match t.makeDirectories p with
  | (.ok (), t) => .ok t
  | (.error e, _) => .error e

/-- Removes a file, or also a directory. -/
def remove (recursive force : Bool) (t : FileTree) (p : Path) : Except FileError FileTree :=
  match t.node? p with
  | some .directory =>
    if !recursive then .error .isDirectory
    else
      match t.removeTree p with
      | (.ok (), t) => .ok t
      | (.error e, _) => .error e
  | some _ => t.removeFile p
  | none => if force then .ok t else .error .notFound

/-- The last name in a path. -/
def baseName (word : String) : String :=
  let cs := (word.toList.reverse.dropWhile (· = '/')).takeWhile (· ≠ '/')
  if cs.isEmpty && !word.isEmpty then "/" else String.ofList cs.reverse

/-- A path without its last name. -/
def directoryName (word : String) : String :=
  let cs := (word.toList.reverse.dropWhile (· = '/')).dropWhile (· ≠ '/')
  let cs := cs.dropWhile (· = '/')
  if !cs.isEmpty then String.ofList cs.reverse else if word.startsWith "/" then "/" else "."

/-- A name without an ending, unless it is nothing else. -/
def withoutEnding (name ending : String) : String :=
  if name ≠ ending && name.endsWith ending then (name.dropEnd ending.length).copy else name

/-- What `echo` prints as a program: a text in which escapes do not count. -/
def echoed (words : List String) : List Char :=
  match words with
  | "-n" :: words => (String.intercalate " " words).toList
  | words => (String.intercalate " " words).toList ++ ['\n']

/-- Prints the names in a directory, or that of a file. -/
def list (all : Bool) (word : String) : Action Unit := do
  let t := (← get).files
  match t.find (path word) with
  | .ok (place, .directory) =>
    let names := (t.names place).filter fun name => all || !name.startsWith "."
    let names := if all then "." :: ".." :: names else names
    let sorted := names.mergeSort fun a b => !decide (b < a)
    Builtin.emit "ls" (Text.Utf8.spread (String.join (sorted.map (· ++ "\n"))))
  | .ok _ => Builtin.emit "ls" (word ++ "\n").toList
  | .error e =>
    complain ("cannot access '" ++ word ++ "': " ++ e.text)
    Action.setStatus 2

/-- What `test` says about words. What is left after a condition is a mistake. -/
def test (words : List String) : Action Unit := do
  let (holds, rest) ← (Condition.anyOf (4 * words.length + 4)).run words
  match rest with
  | [] => Action.setStatus (if holds then 0 else 1)
  | word :: _ =>
    complain ("extra argument '" ++ word ++ "'")
    Action.setStatus 2

/-- Prints a format. Arguments that it does not take are reported. -/
def print (words : List String) : Action Unit := do
  match words with
  | [] => misuse "missing operand" 1
  | format :: arguments =>
    let cs := format.toList
    let (_, p) ← (Printing.again cs (arguments.length + 1)).run { arguments }
    Builtin.emit "printf" p.reversed.reverse
    match p.arguments with
    | [] => return ()
    | word :: _ =>
      complain ("warning: ignoring excess arguments, starting with '" ++ word ++ "'")
      Action.setStatus 0

/-- The programs that have no options. -/
def plain? (name : String) (words : List String) : Option (Action Unit) :=
  match name with
  | "true" => some (return ())
  | "false" => some (Action.setStatus 1)
  | "echo" => some (Builtin.emit "echo" (echoed words))
  | "printf" => some (print words)
  | "test" => some (test words)
  | "[" => some (
    if words.getLast? = some "]" then test words.dropLast
    else do
      complain "missing ']'"
      Action.setStatus 2)
  | "kill" => Builtin.simple? name words
  | _ => none

/-- What programs do with the letters of their options and their other arguments. -/
def optioned? (name : String) (letters : List Char) (words : List String) :
    Option (Action Unit) :=
  match name with
  | "sleep" => some (if words.isEmpty then misuse "missing operand" 1 else return ())
  | "pwd" => Builtin.simple? name []
  | "cat" => some (concatenate (if words.isEmpty then ["-"] else words))
  | "ls" => some ((if words.isEmpty then ["."] else words).forM (list (letters.contains 'a')))
  | "touch" => some (change (fun word => "cannot touch '" ++ word ++ "'") touch words)
  | "mkdir" => some (
    change (fun word => "cannot create directory '" ++ word ++ "'")
      (if letters.contains 'p' then makePath else FileTree.makeDirectory) words)
  | "rmdir" => some (
    change (fun word => "failed to remove '" ++ word ++ "'") FileTree.removeDirectory words)
  | "rm" => some (
    change (fun word => "cannot remove '" ++ word ++ "'")
      (remove (letters.contains 'r' || letters.contains 'R') (letters.contains 'f')) words)
  | "basename" => some (
    match words with
    | [word] => Builtin.emit "basename" (baseName word ++ "\n").toList
    | [word, ending] =>
      Builtin.emit "basename" (withoutEnding (baseName word) ending ++ "\n").toList
    | [] => misuse "missing operand" 1
    | _ :: _ :: word :: _ => misuse ("extra operand '" ++ word ++ "'") 1)
  | "dirname" => some (
    match words with
    | [] => misuse "missing operand" 1
    | words =>
      let lines := words.map fun word => directoryName word ++ "\n"
      Builtin.emit "dirname" (String.join lines).toList)
  | _ => none

/-- What the programs do that call no other program. -/
def action? (name : String) (words : List String) : Option (Action Unit) :=
  match plain? name words, optionLetters.lookup name with
  | some action, _ => some action
  | none, some allowed =>
    match split allowed.toList (name ≠ "basename") (words.length + 1) words with
    | .error letter => some (refuse letter (if name = "ls" then 2 else 1))
    | .ok (letters, words) => optioned? name letters words
  | none, none => none

/-- The programs that call no other program. -/
def simple? (name : String) (words : List String) : Option (Action Unit) :=
  (action? name words).map fun action => do
    Action.setStatus 0
    action

/-- The programs that read scripts. -/
def shells : List String := ["sh", "dash", "bash"]

/-- The names of all programs. -/
def names : List String :=
  ["true", "false", "echo", "printf", "test", "[", "kill", "env"] ++ optionLetters.map (·.1)
    ++ shells

end Flowchart.Program
