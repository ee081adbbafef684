import Flowchart.Generation.Options
import Flowchart.Path
import Flowchart.Text.Blank

set_option autoImplicit false

/-! # Command line arguments

Arguments are read from left to right; the first thing that decides the outcome ends the reading.
An option takes its value from the same argument or from the next one, which must not look like an
option. Options and flags other than `--parameter` are given at most once. -/

namespace Flowchart

/-- What a run is asked to do. -/
structure Arguments where
  /-- The project file. -/
  path : Path
  /-- The full name of the entry function. -/
  function : String
  /-- Values for the parameters of the entry function. -/
  parameters : List (String × String)
  /-- The output directory; by default that of the project file. -/
  output : Option Path
  ignoreComments : Bool
  skipFailed : Bool
  parallel : Bool
  /-- Whether the previous output is deleted first. -/
  clean : Bool
  /-- Whether `javac` runs on the entry class. -/
  compile : Bool
  verbose : Bool
deriving DecidableEq

/-- What reading the arguments leads to. -/
inductive ArgumentOutcome where
  | run (arguments : Arguments)
  | help
  | version
  | invalid
deriving DecidableEq

namespace Arguments

/-! ## The vocabulary -/

/-- The options that take a value. -/
inductive ValueOption where
  | path
  | function
  | parameter
  | output
deriving DecidableEq

/-- The options that take none. -/
inductive Flag where
  | ignoreComments
  | skipFailed
  | parallel
  | clean
  | compile
  | verbose
  | help
  | version
deriving DecidableEq

/-- An option of either sort. -/
inductive Switch where
  | value (o : ValueOption)
  | flag (f : Flag)
deriving DecidableEq

/-- The option with a long name. -/
def ofLong? : String → Option Switch
  | "path" => some (.value .path)
  | "function" => some (.value .function)
  | "parameter" => some (.value .parameter)
  | "output" => some (.value .output)
  | "ignore-comments" => some (.flag .ignoreComments)
  | "skip-failed" => some (.flag .skipFailed)
  | "parallel" => some (.flag .parallel)
  | "clean" => some (.flag .clean)
  | "compile" => some (.flag .compile)
  | "verbose" => some (.flag .verbose)
  | "help" => some (.flag .help)
  | "version" => some (.flag .version)
  | _ => none

/-- The option with a one-letter name. -/
def ofShort? : Char → Option Switch
  | 'p' => some (.value .path)
  | 'f' => some (.value .function)
  | 'a' => some (.value .parameter)
  | 'o' => some (.value .output)
  | 'v' => some (.flag .verbose)
  | 'h' => some (.flag .help)
  | 'V' => some (.flag .version)
  | _ => none

/-! ## Reading -/

/-- What has been read so far. -/
structure Reading where
  path : Option Path := none
  function : Option String := none
  parameters : List (String × String) := []
  output : Option Path := none
  flags : List Flag := []
  /-- The option whose value has to come next. -/
  awaiting : Option ValueOption := none

/-- The effect of one argument. -/
inductive Step where
  | next (r : Reading)
  | done (outcome : ArgumentOutcome)

/-- Splits a text at its first equals sign. -/
def splitEquals? (cs : List Char) : Option (List Char × List Char) :=
  let name := cs.takeWhile (· ≠ '=')
  match cs.dropWhile (· ≠ '=') with
  | _ :: value => some (name, value)
  | [] => none

/-- A parameter given as name and value with an equals sign; the blanks around the name do not
    count, and it must not be empty. -/
def readParameter? (s : String) : Option (String × String) :=
  match splitEquals? s.toList with
  | none => none
  | some (name, value) =>
    let name := Text.stripBlanks name
    if name.isEmpty then none else some (String.ofList name, String.ofList value)

/-- Gives an option its value. -/
def give (r : Reading) (o : ValueOption) (value : String) : Step :=
  let r := { r with awaiting := none }
  match o with
  | .path =>
    if r.path.isSome || value = "" then .done .invalid else .next { r with path := some ⟨value⟩ }
  | .function =>
    if r.function.isSome then .done .invalid else .next { r with function := some value }
  | .output =>
    if r.output.isSome || value = "" then .done .invalid
    else .next { r with output := some ⟨value⟩ }
  | .parameter =>
    match readParameter? value with
    | some p => .next { r with parameters := r.parameters ++ [p] }
    | none => .done .invalid

/-- Sets a flag. -/
def raise (r : Reading) (f : Flag) : Step :=
  match f with
  | .help => .done .help
  | .version => .done .version
  | f => if f ∈ r.flags then .done .invalid else .next { r with flags := f :: r.flags }

/-- An argument after two hyphens: a long name, with its value after an equals sign. -/
def readLong (r : Reading) (body : List Char) : Step :=
  let (name, value) := match splitEquals? body with
    | some (name, value) => (name, some (String.ofList value))
    | none => (body, none)
  match ofLong? (String.ofList name), value with
  | some (.value o), some value => give r o value
  | some (.value o), none => .next { r with awaiting := some o }
  | some (.flag f), none => raise r f
  | some (.flag _), some _ => .done .invalid
  | none, _ => .done .invalid

/-- An argument after one hyphen: one-letter names, the last of which may be followed by its value,
    with or without an equals sign. -/
def readShort (r : Reading) : List Char → Step
  | [] => .next r
  | c :: rest =>
    match ofShort? c with
    | none => .done .invalid
    | some (.flag f) =>
      match raise r f with
      | .next r => readShort r rest
      | .done outcome => .done outcome
    | some (.value o) =>
      match rest with
      | [] => .next { r with awaiting := some o }
      | '=' :: value => give r o (String.ofList value)
      | value => give r o (String.ofList value)

/-- The outcome at the end of the arguments: project file and entry function are needed. -/
def conclude (r : Reading) : ArgumentOutcome :=
  match r.awaiting, r.path, r.function with
  | none, some path, some function =>
    .run {
      path, function
      parameters := r.parameters
      output := r.output
      ignoreComments := decide (.ignoreComments ∈ r.flags)
      skipFailed := decide (.skipFailed ∈ r.flags)
      parallel := decide (.parallel ∈ r.flags)
      clean := decide (.clean ∈ r.flags)
      compile := decide (.compile ∈ r.flags)
      verbose := decide (.verbose ∈ r.flags) }
  | _, _, _ => .invalid

/-- One argument that does not end the options. An option must not follow one that still awaits its
    value, and a value must have an option before it. -/
def readOne (r : Reading) (argument : String) : Step :=
  match argument.toList with
  | '-' :: '-' :: body => if r.awaiting.isSome then .done .invalid else readLong r body
  | '-' :: c :: body => if r.awaiting.isSome then .done .invalid else readShort r (c :: body)
  | _ =>
    match r.awaiting with
    | some o => give r o argument
    | none => .done .invalid

/-- Reads the arguments that are left. Two hyphens end the options, and nothing may follow them. -/
def readFrom (r : Reading) : List String → ArgumentOutcome
  | [] => conclude r
  | argument :: rest =>
    if argument = "--" then (if rest.isEmpty then conclude r else .invalid)
    else
      match readOne r argument with
      | .next r => readFrom r rest
      | .done outcome => outcome

/-- Reads the arguments of a run. -/
def read (arguments : List String) : ArgumentOutcome := readFrom {} arguments

/-! ## Their meaning -/

/-- The output directory. -/
def outputRoot (a : Arguments) : Path := a.output.getD (a.path.parent?.getD ⟨"."⟩)

/-- The options of the compile pass. -/
def options (a : Arguments) : Options where
  entryFunction := some a.function
  parameters := OrderedMap.ofList a.parameters
  includeComments := !a.ignoreComments
  failurePolicy := if a.skipFailed then .skipDeclaration else .abort
  parallel := a.parallel

/-- The first parameter that is given for the second time. -/
def firstRepeated (seen : List String) : List (String × String) → Option String
  | [] => none
  | (name, _) :: rest => if name ∈ seen then some name else firstRepeated (name :: seen) rest

end Arguments

end Flowchart
