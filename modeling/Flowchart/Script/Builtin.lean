import Flowchart.Script.Condition
import Flowchart.Script.Expansion
import Flowchart.Script.Printing

set_option autoImplicit false

/-! # Commands a shell knows

The commands that a script can call by name without a program, as far as they run no other command
themselves. Each gets its arguments and sets the status. -/

namespace Flowchart.Builtin

/-! ## Arguments -/

/-- The number that an argument is; anything else is an error. -/
def number (word : String) : Action Nat :=
  let isBlank (c : Char) : Bool := c = ' ' || ('\t' ≤ c && c ≤ '\r')
  let cs := ((word.toList.dropWhile isBlank).reverse.dropWhile isBlank).reverse
  if cs.isEmpty || !cs.all Char.isDigit then Action.fail ("Illegal number: " ++ word)
  else return Arithmetic.digitsValue 10 cs

/-- Puts an option in front of those that are found behind it. -/
def withOption (option : Char × String) (others : Action (List (Char × String) × List String)) :
    Action (List (Char × String) × List String) := do
  let (found, rest) ← others
  return (option :: found, rest)

/-- The letters of options and the arguments after them. A letter followed by a colon in `allowed`
    takes a value. -/
def options (allowed : List Char) : Nat → List String →
    Action (List (Char × String) × List String)
  | 0, words => return ([], words)
  | fuel + 1, words => do
    match words with
    | [] => return ([], [])
    | word :: rest =>
      match word.toList with
      | ['-', '-'] => return ([], rest)
      | '-' :: c :: more =>
        let after := allowed.dropWhile (· ≠ c)
        if after.isEmpty || c = ':' then Action.fail s!"Illegal option -{c}"
        else if after[1]? = some ':' then
          match more, rest with
          | [], [] => Action.fail s!"No arg for -{c} option"
          | [], value :: rest => withOption (c, value) (options allowed fuel rest)
          | more, rest => withOption (c, String.ofList more) (options allowed fuel rest)
        else
          let rest := if more.isEmpty then rest else String.ofList ('-' :: more) :: rest
          withOption (c, "") (options allowed fuel rest)
      | _ => return ([], words)

/-- A bound on the steps of reading options: one for each argument and each of its characters. -/
def optionFuel (words : List String) : Nat :=
  words.foldr (fun word steps => word.length + 1 + steps) 1

/-- The letters of options without values and the arguments after them. -/
def letters (allowed : String) (words : List String) : Action (List Char × List String) := do
  let (found, rest) ← options allowed.toList (optionFuel words) words
  return (found.map (·.1), rest)

/-- Writes to the standard output. -/
def emit (name : String) (bytes : List Char) : Action Unit := do
  if bytes.isEmpty then return ()
  else if !(← Action.write 1 bytes) then
    Action.complain (name ++ ": I/O error")
    Action.setStatus 1

/-- Splits an argument at its first equals sign. -/
def splitEquals (word : String) : String × Option String :=
  match word.toList.dropWhile (· ≠ '=') with
  | _ :: value => (String.ofList (word.toList.takeWhile (· ≠ '=')), some (String.ofList value))
  | [] => (word, none)

/-- Refuses what cannot be the name of a variable. -/
def checkName (name : String) (shown : String) : Action Unit :=
  if ScriptParameter.isName name.toList then return ()
  else Action.fail (shown ++ ": bad variable name")

/-! ## Variables -/

/-- A value between single quotes. -/
def quote (value : String) : String :=
  "'" ++ String.intercalate "'\"'\"'" ((value.toList.splitOn '\x27').map String.ofList) ++ "'"

/-- The lines that would declare variables again. -/
def declarations (s : Shell) (word : String) (which : Binding → Bool) : List Char :=
  let chosen := s.bindings.filter fun b => which b.2
  let sorted := chosen.mergeSort fun a b => !decide (b.1 < a.1)
  (String.join (sorted.map fun b =>
    match b.2.value with
    | some value => s!"{word} {b.1}={quote value}\n"
    | none => s!"{word} {b.1}\n")).toList

/-- Marks variables, which may get a value on the way. -/
def declare (mark : Binding → Binding) : List String → Action Unit
  | [] => return ()
  | word :: rest => do
    let (name, value) := splitEquals word
    checkName name name
    match value with
    | some value => Action.assign name value
    | none => pure ()
    modify fun s => s.setBinding name (some (mark ((s.binding? name).getD {})))
    declare mark rest

/-- Marks variables, or lists those that are marked. -/
def declareOrList (word : String) (which : Binding → Bool) (mark : Binding → Binding)
    (words : List String) : Action Unit := do
  let (found, rest) ← letters "p" words
  Action.setStatus 0
  if !found.isEmpty || rest.isEmpty then emit word (declarations (← get) word which)
  else declare mark rest

/-- Makes variables those of the running function. -/
def localize : List String → Action Unit
  | [] => return ()
  | word :: rest => do
    let (name, value) := splitEquals word
    checkName name name
    modify fun s => { s with saved := (name, s.binding? name) :: s.saved }
    match value with
    | some value => Action.assign name value
    | none => pure ()
    localize rest

/-- Takes variables or functions away. -/
def unset (isFunction : Bool) : List String → Action Unit
  | [] => return ()
  | name :: rest => do
    if isFunction then
      modify fun s => { s with functions := s.functions.filter (·.1 ≠ name) }
    else
      checkName name name
      Action.unset name
    unset isFunction rest

/-! ## Options -/

/-- The long names of options. -/
def optionNames : List (String × Char) :=
  [("errexit", 'e'), ("noglob", 'f'), ("ignoreeof", 'I'), ("interactive", 'i'), ("monitor", 'm'),
    ("noexec", 'n'), ("stdin", 's'), ("xtrace", 'x'), ("verbose", 'v'), ("vi", 'V'),
    ("emacs", 'E'), ("noclobber", 'C'), ("allexport", 'a'), ("notify", 'b'), ("nounset", 'u'),
    ("privileged", 'p'), ("nolog", 'l'), ("debug", 'd')]

/-- Turns an option on or off. -/
def switch (on : Bool) (c : Char) : Action Unit := modify fun s =>
  let others := s.options.filter (· ≠ c)
  { s with options := if on then c :: others else others }

/-- The sign in front of options that are turned on or off. -/
def switchSign (on : Bool) : String := if on then "-" else "+"

/-- The list of options that are on and off. -/
def optionTable (s : Shell) (asCommands : Bool) : String :=
  String.join (optionNames.map fun (name, c) =>
    if asCommands then "set " ++ switchSign (s.has c) ++ "o " ++ name ++ "\n"
    else
      let blanks := String.ofList (List.replicate (16 - name.length) ' ')
      let state := if s.has c then "on" else "off"
      name ++ blanks ++ state ++ "\n")

/-- Turns the options of some letters on or off; an `o` takes its name from the next argument. The
    result is the arguments that are left. -/
def switchAll (on : Bool) : List Char → List String → Action (List String)
  | [], words => return words
  | 'o' :: cs, words => do
    match words with
    | [] =>
      let table := optionTable (← get) !on
      emit "set" ((if on then "Current option settings\n" else "") ++ table).toList
      switchAll on cs []
    | name :: rest =>
      match optionNames.lookup name with
      | some c =>
        switch on c
        switchAll on cs rest
      | none => Action.fail ("Illegal option " ++ switchSign on ++ "o " ++ name)
  | c :: cs, words => do
    if ("efImnsxvVECabu".toList).contains c then
      switch on c
      switchAll on cs words
    else Action.fail ("Illegal option " ++ switchSign on ++ String.singleton c)

/-- Reads the options in front of arguments; the result is the arguments, unless there are none and
    no mark ends the options. -/
def readSettings : Nat → List String → Action (Option (List String))
  | 0, words => return some words
  | fuel + 1, words => do
    match words with
    | [] => return none
    | word :: rest =>
      match word.toList with
      | ['-', '-'] => return some rest
      | ['-'] =>
        switch false 'x'
        switch false 'v'
        return if rest.isEmpty then none else some rest
      | '-' :: cs => readSettings fuel (← switchAll true cs rest)
      | '+' :: cs => readSettings fuel (← switchAll false cs rest)
      | _ => return some words

/-- Sets options and arguments. -/
def settings (words : List String) : Action Unit := do
  Action.setStatus 0
  match (← readSettings (words.length + 1) words) with
  | some arguments => modify fun s => s.withArguments arguments
  | none => return ()

/-! ## Options of a script -/

/-- Whether a letter is that of an option that takes a value; none, if it is no option. -/
def takesValue? (letter : Char) : List Char → Option Bool
  | [] => none
  | c :: rest =>
    let isMarked := rest.head? == some ':'
    if c = letter then some isMarked
    else
      match rest with
      | ':' :: rest => takesValue? letter rest
      | rest => takesValue? letter rest

/-- How the taking of an option ended. -/
structure TakenOption where
  /-- What the variable becomes. -/
  found : Char
  /-- The index of the next argument. -/
  index : Nat
  /-- How much has been taken of the argument before it, if something is left of it. -/
  offset : Option Nat := none
  isLast : Bool := false

/-- The letters that are left in an argument, and the index of the argument after it; none, if the
    options have come to an end, with the index of what follows them. -/
def pendingLetters (arguments : List String) (index : Nat) (offset : Option Nat) :
    Except Nat (List Char × Nat) :=
  let left := match offset with
    | some n => if 1 < index then (arguments[index - 2]?.getD "").toList.drop n else []
    | none => []
  if !left.isEmpty then .ok (left, index)
  else
    match (arguments[index - 1]?.getD "").toList with
    | ['-', '-'] => .error (index + 1)
    | '-' :: c :: more => .ok (c :: more, index + 1)
    | _ => .error index

/-- Takes an option. Mistakes are reported, unless the list of options begins with a colon. -/
def takeOption (allowed : List Char) (arguments : List String) : Action TakenOption := do
  let s ← get
  let isQuiet := allowed.head? == some ':'
  let (index, offset) := if arguments.length + 1 < s.optionIndex then (1, none)
    else (s.optionIndex, s.optionOffset)
  match pendingLetters arguments index offset with
  | .error index => return { found := '?', index, isLast := true }
  | .ok ([], index) => return { found := '?', index, isLast := true }
  | .ok (c :: more, index) =>
    let offset := some ((arguments[index - 2]?.getD "").length - more.length)
    let mistake (message : String) (found : Char) (offset : Option Nat) : Action TakenOption := do
      if isQuiet then
        Action.assign "OPTARG" (String.singleton c)
        return { found, index, offset }
      else
        Action.report message
        Action.unset "OPTARG"
        return { found := '?', index, offset }
    match takesValue? c (if isQuiet then allowed.tail else allowed), more with
    | none, _ => mistake s!"Illegal option -{c}" '?' offset
    | some false, _ =>
      Action.assign "OPTARG" ""
      return { found := c, index, offset }
    | some true, [] =>
      match arguments[index - 1]? with
      | some value =>
        Action.assign "OPTARG" value
        return { found := c, index := index + 1 }
      | none => mistake s!"No arg for -{c} option" ':' none
    | some true, more =>
      Action.assign "OPTARG" (String.ofList more)
      return { found := c, index }

/-- Takes the next option of the script or of the given arguments. -/
def getOption (words : List String) : Action Unit := do
  let (_, rest) ← letters "" words
  match rest with
  | allowed :: name :: more =>
    let s ← get
    let arguments := if more.isEmpty then s.arguments else more
    let taken ← takeOption allowed.toList arguments
    Action.store "OPTIND" (toString taken.index)
    checkName name name
    Action.assign name (String.singleton taken.found)
    modify fun s =>
      { s with
        optionIndex := taken.index
        optionOffset := taken.offset
        status := if taken.isLast then 1 else 0 }
  | _ => Action.fail "Usage: getopts optstring var [arg...]"

/-! ## Aliases -/

/-- The line that would define an alias again. -/
def aliasLine (name text : String) : String := name ++ "=" ++ quote text

/-- The place of an alias in the list of all. -/
def aliasRank (name : String) : Nat :=
  match name.toList with
  | [] => 0
  | c :: rest => ((c :: rest).foldl (fun n c => n + c.toNat) (16 * c.toNat)) % 39

/-- Defines aliases, or prints those that are named. -/
def defineAliases : List String → Action Unit
  | [] => return ()
  | word :: rest => do
    let s ← get
    match splitEquals word with
    | (name, some text) =>
      if name = "" then
        Action.report ("alias: " ++ word ++ " not found")
        Action.setStatus 1
      else
        let others := s.aliases.filter (·.1 ≠ name)
        set { s with aliases := others ++ [(name, text)] }
    | (name, none) =>
      match s.aliases.lookup name with
      | some text => emit "alias" (aliasLine name text ++ "\n").toList
      | none =>
        Action.report ("alias: " ++ name ++ " not found")
        Action.setStatus 1
    defineAliases rest

/-- Defines or prints aliases. -/
def aliasWords (words : List String) : Action Unit := do
  Action.setStatus 0
  if words.isEmpty then
    let s ← get
    let all := s.aliases.mergeSort fun a b => aliasRank a.1 ≤ aliasRank b.1
    emit "alias" (String.join (all.map fun (name, text) => aliasLine name text ++ "\n")).toList
  else defineAliases words

/-- Takes aliases away. -/
def removeAliases : List String → Action Unit
  | [] => return ()
  | name :: rest => do
    let s ← get
    if (s.aliases.lookup name).isSome then
      set { s with aliases := s.aliases.filter (·.1 ≠ name) }
    else
      Action.report ("unalias: " ++ name ++ " not found")
      Action.setStatus 1
    removeAliases rest

/-- Takes aliases away, or all of them. -/
def unalias (words : List String) : Action Unit := do
  let (found, names) ← letters "a" words
  Action.setStatus 0
  if !found.isEmpty then modify fun s => { s with aliases := [] } else removeAliases names

/-! ## Permissions -/

/-- Four octal digits. -/
def octal (n : Nat) : String :=
  let ds := Nat.toDigits 8 n
  String.ofList (List.replicate (4 - ds.length) '0' ++ ds)

/-- The permissions of three bits in letters. -/
def permissionLetters (n : Nat) : String :=
  (if n / 4 % 2 = 1 then "r" else "") ++ (if n / 2 % 2 = 1 then "w" else "") ++
    (if n % 2 = 1 then "x" else "")

/-- The permissions that a mask leaves, in letters. -/
def symbolicMask (mask : Nat) : String :=
  let left := 511 - mask % 512
  "u=" ++ permissionLetters (left / 64 % 8) ++ ",g=" ++ permissionLetters (left / 8 % 8) ++
    ",o=" ++ permissionLetters (left % 8) ++ "\n"

/-- How far the permissions of some users are from those of others, as factors. -/
def userFactors (who : List Char) : List Nat :=
  [('u', 64), ('g', 8), ('o', 1)].filterMap fun (c, factor) =>
    if who.isEmpty || who.contains c || who.contains 'a' then some factor else none

/-- The three bits of letters, which can also name users whose permissions are meant. -/
def permissionBits (left : Nat) (cs : List Char) : Nat :=
  cs.foldl (fun n c =>
    n ||| (match c with
      | 'r' => 4
      | 'w' => 2
      | 'x' | 'X' => 1
      | 'u' => left / 64 % 8
      | 'g' => left / 8 % 8
      | 'o' => left % 8
      | _ => 0)) 0

/-- Permissions after changes for some users; none, if the text describes no changes. -/
def changePermissions? (factors : List Nat) : Nat → Nat → List Char → Option Nat
  | 0, _, _ => none
  | _ + 1, left, [] => some left
  | fuel + 1, left, sign :: rest =>
    let names := rest.takeWhile fun c => "rwxXstugo".toList.contains c
    let bits := permissionBits left names
    let change (f : Nat → Nat) : Nat :=
      [64, 8, 1].foldl (fun n factor =>
        let old := left / factor % 8
        n + factor * (if factors.contains factor then f old else old)) 0
    let after := rest.drop names.length
    match sign with
    | '=' => changePermissions? factors fuel (change fun _ => bits) after
    | '+' => changePermissions? factors fuel (change (· ||| bits)) after
    | '-' => changePermissions? factors fuel (change fun old => old &&& (7 - bits)) after
    | _ => none

/-- Permissions after changes with commas between them. -/
def changeAll? : Nat → List (List Char) → Option Nat
  | left, [] => some left
  | left, clause :: rest => do
    let who := clause.takeWhile fun c => "ugoa".toList.contains c
    if clause.length ≤ who.length then none
    else
      let left ← changePermissions? (userFactors who) (clause.length + 1) left
        (clause.drop who.length)
      changeAll? left rest

/-- Sets or prints the permissions that new files do not get. -/
def umask (words : List String) : Action Unit := do
  let (found, rest) ← letters "S" words
  Action.setStatus 0
  let s ← get
  match rest with
  | [] => emit "umask" (if found.isEmpty then octal s.mask ++ "\n" else symbolicMask s.mask).toList
  | mode :: _ =>
    if ((mode.toList.head?).map Char.isDigit).getD false then
      if mode.toList.all fun c => '0' ≤ c && c ≤ '7' then
        set { s with mask := Arithmetic.digitsValue 8 mode.toList % 512 }
      else Action.fail ("Illegal number: " ++ mode)
    else if mode ≠ "" then
      match changeAll? (511 - s.mask) (mode.toList.splitOn ',') with
      | some left => set { s with mask := 511 - left }
      | none => Action.fail ("Illegal mode: " ++ mode)

/-! ## Reading -/

/-- The characters of a line, with those that a backslash precedes marked, how many bytes it takes,
    and whether it has an end. -/
def readLine (raw : Bool) : List Char → List MarkedChar × Nat × Bool
  | [] => ([], 0, false)
  | '\n' :: _ => ([], 1, true)
  | '\\' :: rest =>
    if raw then
      let (cs, count, ended) := readLine raw rest
      (('\\', false) :: cs, count + 1, ended)
    else
      match rest with
      | [] => ([], 1, false)
      | '\n' :: rest =>
        let (cs, count, ended) := readLine raw rest
        (cs, count + 2, ended)
      | c :: rest =>
        let (cs, count, ended) := readLine raw rest
        ((c, true) :: cs, count + 2, ended)
  | c :: rest =>
    let (cs, count, ended) := readLine raw rest
    ((c, false) :: cs, count + 1, ended)

/-- Whether a character separates fields, and whether it is a blank that does. -/
def separates (separators : List Char) (c : MarkedChar) : Bool :=
  !c.2 && separators.contains c.1

/-- Whether a character is a blank that separates fields. -/
def isSpacing (separators : List Char) (c : MarkedChar) : Bool :=
  separates separators c && (c.1 == ' ' || c.1 == '\t' || c.1 == '\n')

/-- Characters after one separator with the blanks around it. -/
def skipSeparator (separators : List Char) (cs : List MarkedChar) : List MarkedChar :=
  let rest := cs.dropWhile (isSpacing separators)
  match rest with
  | c :: after =>
    if separates separators c then after.dropWhile (isSpacing separators) else rest
  | [] => []

/-- The last field of a line: all that is left, without blanks at the end, and without a separator
    that nothing follows. -/
def lastField (separators : List Char) (cs : List MarkedChar) : List MarkedChar :=
  let field := cs.takeWhile (!separates separators ·)
  if (skipSeparator separators (cs.drop field.length)).isEmpty then field
  else (cs.reverse.dropWhile (isSpacing separators)).reverse

/-- Gives variables the fields of a line. -/
def assignFields (separators : List Char) : List String → List MarkedChar → Action Unit
  | [], _ => return ()
  | [name], cs => do
    checkName name name
    Action.assign name (String.ofList ((lastField separators cs).map (·.1)))
  | name :: rest, cs => do
    let field := cs.takeWhile (!separates separators ·)
    checkName name name
    Action.assign name (String.ofList (field.map (·.1)))
    assignFields separators rest (skipSeparator separators (cs.drop field.length))

/-- Reads a line from the standard input into variables. -/
def read (words : List String) : Action Unit := do
  let (found, names) ← options "p:r".toList (optionFuel words) words
  if names.isEmpty then Action.fail "arg count"
  else
    let s ← get
    match s.stream? 0 with
    | none => Action.setStatus 1
    | some (number, stream) =>
      let raw := found.any (·.1 == 'r')
      let (cs, count, ended) := readLine raw (s.remaining stream)
      set (s.consume number count)
      Action.setStatus (if ended then 0 else 1)
      let separators := s.separators
      assignFields separators names (cs.dropWhile (isSpacing separators))

/-! ## Directories -/

/-- The text of a place. -/
def placeText (place : Place) : String := "/" ++ String.intercalate "/" place

/-- Makes a place the one where paths start. -/
def enterDirectory (place : Place) (previous : String) (shown : Bool) : Action Unit := do
  modify fun s => { s with files := { s.files with current := place } }
  Action.assign "OLDPWD" previous
  Action.assign "PWD" (String.ofList (Text.Utf8.spread (placeText place)))
  if shown then emit "cd" (Text.Utf8.spread (placeText place) ++ ['\n'])

/-- Goes to another directory. -/
def changeDirectory (words : List String) : Action Unit := do
  let (_, rest) ← letters "LP" words
  let s ← get
  let (target, shown) := match rest with
    | [] => ((s.valueOf? "HOME").getD "", false)
    | "-" :: _ => ((s.valueOf? "OLDPWD").getD "", true)
    | target :: _ => (target, false)
  Action.setStatus 0
  let refuse : Action Unit := Action.fail ("can't cd to " ++ target)
  let place ← if target = "" then pure s.files.current else
    match s.files.find ⟨Text.Utf8.gather target.toList⟩ with
    | .ok (place, .directory) => pure place
    | _ => do
      refuse
      pure s.files.current
  enterDirectory place ((s.valueOf? "PWD").getD "") shown

/-! ## Signals -/

/-- The name of a signal, or of the end of the script. The last signals are named by how far they
    are from the first or the last of their kind. -/
def eventName (n : Nat) : String :=
  if n = 0 then "EXIT"
  else if n = 16 then "16"
  else if n = 34 then "RTMIN"
  else if 34 < n && n < 50 then s!"RTMIN+{n - 34}"
  else if 50 ≤ n && n < 64 then s!"RTMAX-{64 - n}"
  else if n = 64 then "RTMAX"
  else (Signal.name? n).getD (toString n)

/-- The signal with a name or number. -/
def signal? (word : String) : Option Nat :=
  match word.toNat? with
  | some n => if n < Signal.bound then some n else none
  | none =>
    let name := String.ofList (word.toList.map Char.toUpper)
    (List.range Signal.bound).find? fun n => eventName n == name

/-- What a signal does to the process that it reaches. -/
def receive (signal : Nat) : Action Unit := do
  let s ← get
  let event := eventName signal
  match s.traps.find? (·.event == event) with
  | some trap =>
    if event = "KILL" then throw (.killed signal)
    else if trap.action = "" then return ()
    else set { s with arrived := s.arrived ++ [event] }
  | none => if Signal.isFatal signal then throw (.killed signal) else return ()

/-- Learns that a process has ended for which the script has waited. -/
def learnEnd : Action Unit := do
  modify Shell.withSeenJobs
  let s ← get
  if s.traps.any fun trap => trap.event == "CHLD" && trap.action ≠ "" then
    set { s with arrived := s.arrived ++ ["CHLD"] }

/-- Receives the signals that processes which have ended sent to this one. -/
def receiveSent : Action Unit := do
  let s ← get
  let (mine, others) := s.sent.partition (·.1 == s.own)
  set { s with sent := others }
  mine.forM fun (_, signal) => receive signal

/-- The process that an argument names; none, if it is one that does not exist. -/
def target? (word : String) : Action (Option Nat) := do
  match word.toList with
  | '%' :: _ => Action.fail ("No such job: " ++ word)
  | '-' :: ds =>
    let _ ← number (String.ofList ds)
    return none
  | _ => return some (← number word)

/-- Sends a signal to a process. Only the script, its copies and what waits for it can be reached;
    a process that nobody waits for ends. -/
def send (signal : Nat) (word : String) : Action Unit := do
  let process := (← target? word).getD 0
  let s ← get
  if process = s.own then
    if signal ≠ 0 then receive signal
  else if 2 ≤ process && process < s.own && (s.job? process).isNone then
    if signal ≠ 0 then set { s with sent := s.sent ++ [(process, signal)] }
  else
    match s.job? process with
    | some job =>
      if Signal.isFatal signal && !job.isSeen then
        set (s.setJob { job with status := .signal signal })
    | none =>
      Action.complain "No such process\n"
      Action.setStatus 1

/-- Waits for jobs; the status is that of the last one. That a signal has ended one is told when the
    script learns it. -/
def wait : List String → Action Unit
  | [] => modify Shell.withSeenJobs
  | word :: rest => do
    let process := (← target? word).getD 0
    let s ← get
    match s.job? process with
    | none => Action.setStatus 127
    | some job =>
      match job.status with
      | .code n => Action.setStatus n
      | .signal n =>
        if !job.isSeen && n ≠ 2 && n ≠ 13 then Action.report (Signal.describe n)
        Action.setStatus (128 + n)
    modify Shell.withSeenJobs
    wait rest

/-- Sends signals. -/
def kill (words : List String) : Action Unit := do
  Action.setStatus 0
  let usage : Action Unit := Action.fail
    ("Usage: kill [-s sigspec | -signum | -sigspec] [pid | job]... or\nkill -l [exitstatus]")
  let all (signal : Nat) (targets : List String) : Action Unit :=
    if targets.isEmpty then usage else targets.forM (send signal)
  let isEnd (name : String) : Bool := name.map Char.toUpper == "EXIT"
  let named (name : String) (targets : List String) : Action Unit :=
    match (if isEnd name then none else signal? name) with
    | some signal => all signal targets
    | none => Action.fail ("invalid signal number or name: " ++ name)
  match words with
  | [] => usage
  | word :: rest =>
    match word.toList with
    | ['-', '-'] => all 15 rest
    | ['-', 'l'] =>
      match rest with
      | [] =>
        let all := (List.range Signal.bound).map fun n => (if n = 0 then "0" else eventName n)
        emit "kill" (String.join (all.map (· ++ "\n"))).toList
      | status :: _ =>
        let n ← number status
        let signal := if 128 < n then n - 128 else n
        if signal = 0 || Signal.bound ≤ signal then
          Action.fail ("invalid signal number or exit status: " ++ status)
        else emit "kill" (eventName signal ++ "\n").toList
    | '-' :: 's' :: [] =>
      match rest with
      | name :: targets => named name targets
      | [] => Action.fail "No arg for -s option"
    | '-' :: c :: more =>
      let name := String.ofList (c :: more)
      match (if isEnd name then none else signal? name) with
      | some signal => all signal rest
      | none =>
        if c = 's' then named (String.ofList more) rest else Action.fail s!"Illegal option -{c}"
    | _ => all 15 words

/-- Sets what is done when signals arrive; none takes it back. -/
def setTraps (action : Option String) : List String → Action Unit
  | [] => return ()
  | word :: rest => do
    match signal? word with
    | none =>
      Action.report ("trap: " ++ word ++ ": bad trap")
      Action.setStatus 1
    | some n =>
      let event := eventName n
      modify fun s =>
        let others := s.traps.filter (·.event ≠ event)
        { s with
          traps := match action with
            | some action => { event, action } :: others
            | none => others }
      setTraps action rest

/-- Sets what is done when signals arrive or the script ends, or lists that. -/
def trap (words : List String) : Action Unit := do
  let (_, rest) ← letters "" words
  Action.setStatus 0
  match rest with
  | [] =>
    let s ← get
    let order (t : Trap) : Nat := (signal? t.event).getD 0
    let sorted := s.traps.mergeSort fun a b => order a ≤ order b
    emit "trap" (String.join (sorted.map fun t =>
      s!"trap -- {quote t.action} {t.event}\n")).toList
  | [event] => setTraps none [event]
  | "-" :: events => setTraps none events
  | action :: events =>
    if action.toNat?.isSome then setTraps none rest else setTraps (some action) events

/-! ## Calling -/

/-- Ends loops or goes on with them. -/
def leaveLoops (interruption : Nat → Interruption) (words : List String) : Action Unit := do
  let count ← match words with
    | [] => pure 1
    | word :: _ => do
      let n ← number word
      if n = 0 then Action.fail ("Illegal number: " ++ word) else pure n
  Action.setStatus 0
  let count := min count (← get).loops
  if count = 0 then return () else throw (interruption count)

/-- Ends something with a status. -/
def leave (interruption : Interruption) (words : List String) : Action Unit := do
  match words with
  | [] =>
    let s ← get
    if interruption = .exiting then Action.setStatus (s.pendingStatus.getD s.status)
    throw interruption
  | word :: _ =>
    Action.setStatus (← number word)
    throw interruption

/-- Drops the first arguments. -/
def shift (words : List String) : Action Unit := do
  let count ← match words with
    | [] => pure 1
    | word :: _ => number word
  let s ← get
  if s.arguments.length < count then Action.fail "can't shift that many"
  else set { s.withArguments (s.arguments.drop count) with status := 0 }

/-- Ends with the status of a condition. -/
def test (words : List String) : Action Unit := do
  let holds ← Condition.evaluate (words.length + 1) words
  Action.setStatus (if holds then 0 else 1)

/-- Prints a format. -/
def print (words : List String) : Action Unit := do
  let (_, rest) ← letters "" words
  match rest with
  | [] => Action.fail "usage: printf format [arg ...]"
  | format :: arguments =>
    Action.setStatus 0
    let cs := format.toList
    let (_, p) ← (Printing.again cs (arguments.length + 1)).run { arguments }
    emit "printf" p.reversed.reverse

/-- The commands that run no other command. -/
def simple? (name : String) (words : List String) : Option (Action Unit) :=
  match name with
  | ":" | "true" => some (Action.setStatus 0)
  | "false" => some (Action.setStatus 1)
  | "echo" => some do
    Action.setStatus 0
    emit "echo" (Printing.echoed words)
  | "printf" => some (print words)
  | "test" => some (test words)
  | "[" => some (
    if words.getLast? = some "]" then test words.dropLast else Action.fail "missing ]")
  | "break" => some (leaveLoops .breaking words)
  | "continue" => some (leaveLoops .continuing words)
  | "return" => some (leave .returning words)
  | "exit" => some (leave .exiting words)
  | "shift" => some (shift words)
  | "set" => some (settings words)
  | "export" => some (
    declareOrList "export" (·.exported) (fun b => { b with exported := true }) words)
  | "readonly" => some (
    declareOrList "readonly" (·.readOnly) (fun b => { b with readOnly := true }) words)
  | "local" => some do
    if (← get).functionDepth = 0 then Action.fail "not in a function"
    Action.setStatus 0
    localize words
  | "unset" => some do
    let (found, names) ← letters "vf" words
    Action.setStatus 0
    unset (found.getLast? = some 'f') names
  | "read" => some (read words)
  | "cd" | "chdir" => some (changeDirectory words)
  | "pwd" => some do
    let _ ← letters "LP" words
    Action.setStatus 0
    emit "pwd" (Text.Utf8.spread (placeText (← get).files.current) ++ ['\n'])
  | "kill" => some (kill words)
  | "trap" => some (trap words)
  | "umask" => some (umask words)
  | "getopts" => some (getOption words)
  | "alias" => some (aliasWords words)
  | "unalias" => some (unalias words)
  | "bg" | "fg" => some (Action.fail "No current job")
  | "wait" => some do
    let (_, rest) ← letters "" words
    Action.setStatus 0
    wait rest
  | "hash" | "times" | "jobs" | "ulimit" => some (Action.setStatus 0)
  | _ => none

/-- The commands whose failure ends the script. -/
def special : List String :=
  [".", ":", "break", "continue", "eval", "exec", "exit", "export", "local", "readonly", "return",
    "set", "shift", "times", "trap", "unset"]

/-- The commands that run others. -/
def running : List String := [".", "command", "eval", "exec", "type"]

/-- Whether a name is that of a command the shell knows. -/
def isKnown (name : String) : Bool := running.contains name || (simple? name []).isSome

end Flowchart.Builtin
