import Flowchart.Script.Arithmetic
import Flowchart.Script.Glob

set_option autoImplicit false

/-! # The values of words

A word of a script stands for text: parameters and commands in it are replaced by their values, what
was not quoted is cut into fields, and fields that are patterns are replaced by the paths they find.
How the output of a command is obtained is a parameter of everything here. -/

namespace Flowchart

/-- A piece of the text that a word stands for. -/
inductive TextPiece where
  /-- A character; one that comes from a value can separate fields. -/
  | char (c : Char) (quoted separates : Bool)
  /-- What makes a field even where there is no character. -/
  | present
  /-- The end of one of several values, with what stands between them where they are joined. -/
  | cut (joint : String)
deriving DecidableEq

namespace TextPiece

/-- The pieces of a quoted text. -/
def quotedText (cs : List Char) : List TextPiece := .present :: cs.map (.char · true false)

/-- The pieces of a value. -/
def ofValue (quoted : Bool) (value : String) : List TextPiece :=
  if quoted then quotedText value.toList else value.toList.map (.char · false true)

/-- The pieces of several values, each a field of its own. -/
def ofValues (quoted : Bool) (joint : String) (values : List String) : List TextPiece :=
  List.intercalate [.cut joint] (values.map (ofValue quoted))

/-- The pieces of a word that stands in place of a value: they count as a value does. -/
def inPlace (quoted : Bool) (pieces : List TextPiece) : List TextPiece :=
  if quoted then .present :: pieces
  else pieces.map fun
    | .char c quoted _ => .char c quoted !quoted
    | piece => piece

/-- The characters of pieces, with fields joined. -/
def marked (pieces : List TextPiece) : List MarkedChar :=
  pieces.flatMap fun
    | .char c quoted _ => [(c, quoted)]
    | .present => []
    | .cut joint => joint.toList.map (·, true)

/-- The text of pieces. -/
def text (pieces : List TextPiece) : String := String.ofList ((marked pieces).map (·.1))

end TextPiece

/-- The fields that a text has been cut into so far, in reverse, and the one that can still grow. -/
structure Fields where
  complete : List (List MarkedChar) := []
  growing : Option (List MarkedChar) := none
  /-- Whether the last field was ended by blanks, which a separator may follow. -/
  blank : Bool := false

namespace Fields

/-- Ends the growing field, if there is one. -/
def cut (f : Fields) : Fields :=
  match f.growing with
  | none => f
  | some cs => { complete := cs.reverse :: f.complete }

/-- Adds a character to the growing field. -/
def add (f : Fields) (c : MarkedChar) : Fields :=
  { f with growing := some (c :: f.growing.getD []), blank := false }

/-- A character between fields. Blanks around another separator belong to it. -/
def separate (f : Fields) (isBlank : Bool) : Fields :=
  match f.growing with
  | some _ => { f.cut with blank := isBlank }
  | none =>
    if isBlank then f
    else if f.blank then { f with blank := false }
    else { f with complete := [] :: f.complete }

/-- The next piece of the text. -/
def step (separators : List Char) (f : Fields) : TextPiece → Fields
  | .char c quoted separates =>
    if separates && separators.contains c then f.separate (c = ' ' || c = '\t' || c = '\n')
    else f.add (c, quoted)
  | .present => { f with growing := some (f.growing.getD []), blank := false }
  | .cut _ => { f.cut with blank := false }

/-- The fields of a text. -/
def ofPieces (separators : List Char) (pieces : List TextPiece) : List (List MarkedChar) :=
  ((pieces.foldl (step separators) {}).cut).complete.reverse

end Fields

namespace Shell

/-- The values of a parameter that can have several; none, if it has one. -/
def values? (s : Shell) : ScriptParameter → Option (List String)
  | .each | .joined => some s.arguments
  | _ => none

/-- The value of a parameter that has one, if it has any. -/
def value? (s : Shell) : ScriptParameter → Option String
  | .variable name => s.valueOf? name
  | .positional 0 => some s.name
  | .positional (n + 1) => s.arguments[n]?
  | .each | .joined =>
    if s.arguments.isEmpty then none else some (String.intercalate " " s.arguments)
  | .count => some (toString s.arguments.length)
  | .status => some (toString s.status)
  | .options => some (String.ofList (("ubaCEVvxsnmiIfe".toList).filter s.has))
  | .process => some (toString s.process)
  | .background => s.lastJob.map toString

/-- What stands between arguments that are joined. -/
def joint (s : Shell) : String :=
  match s.separators with
  | c :: _ => String.singleton c
  | [] => ""

/-- The pieces of a parameter that stands for its value. -/
def valuePieces (s : Shell) (p : ScriptParameter) (quoted : Bool) : List TextPiece :=
  match p with
  | .each => TextPiece.ofValues quoted s.joint s.arguments
  | .joined =>
    if quoted then TextPiece.quotedText (String.intercalate s.joint s.arguments).toList
    else TextPiece.ofValues false s.joint s.arguments
  | p => TextPiece.ofValue quoted ((s.value? p).getD "")

end Shell

namespace ScriptParameter

/-- A parameter as messages name it. -/
def name : ScriptParameter → String
  | .variable name => name
  | .positional n => toString n
  | .each => "@"
  | .joined => "*"
  | .count => "#"
  | .status => "?"
  | .options => "-"
  | .process => "$"
  | .background => "!"

end ScriptParameter

namespace Expansion

/-! ## Tildes -/

/-- The directories of users. -/
def homes : List (String × String) :=
  [("root", "/root"), ("daemon", "/usr/sbin"), ("bin", "/bin"), ("nobody", "/nonexistent")]

/-- The directory of the user that a tilde names. -/
def home? (s : Shell) (user : List Char) : Option String :=
  if user.isEmpty then s.valueOf? "HOME" else homes.lookup (String.ofList user)

/-- The characters at the front that stand in the script itself and are not quoted, as far as they
    do not end a name. -/
def userName (ends : List Char) : List TextPiece → List Char
  | .char c false false :: rest => if ends.contains c then [] else c :: userName ends rest
  | _ => []

/-- A text whose tilde at the front is replaced by the directory it names. -/
def replaceTilde (s : Shell) (ends : List Char) (pieces : List TextPiece) : List TextPiece :=
  match pieces with
  | .char '~' false false :: rest =>
    let user := userName ends rest
    let after := rest.drop user.length
    let isWhole := match after with
      | [] => true
      | .char c quoted separates :: _ => !quoted && !separates && ends.contains c
      | _ => false
    match (if isWhole then home? s user else none) with
    | some home => TextPiece.quotedText home.toList ++ after
    | none => pieces
  | pieces => pieces

/-- A text whose tildes after colons are replaced. -/
def replaceLaterTildes (s : Shell) : List TextPiece → List TextPiece
  | [] => []
  | p :: rest =>
    let rest := replaceLaterTildes s rest
    p :: (match p with
      | .char ':' false false => replaceTilde s ['/', ':'] rest
      | _ => rest)

/-! ## Values -/

/-- How the output of a command is obtained. -/
abbrev Capture := ScriptCommand → Action String

/-- Whether a parameter that has no value may be used nevertheless. -/
def isExempt : ScriptParameter → Bool
  | .each | .joined => true
  | _ => false

/-- Refuses a parameter without a value where that is an error. -/
def check (p : ScriptParameter) : Action Unit := do
  let s ← get
  if s.has 'u' && (s.value? p).isNone && !isExempt p then
    Action.fail (p.name ++ ": parameter not set")

/-- Whether a parameter counts as missing. -/
def isMissing (s : Shell) (p : ScriptParameter) (nulls : Bool) : Bool :=
  match s.value? p with
  | none => true
  | some value => nulls && value == ""

/-- A word between braces with its tilde replaced, unless it is quoted. -/
def tilde (quoted : Bool) (s : Shell) (pieces : List TextPiece) : List TextPiece :=
  if quoted then pieces else replaceTilde s ['/'] pieces

/-- The character between values that are trimmed together. -/
def between : Char := Char.ofNat 0

/-- The value of a parameter, trimmed. Several values are trimmed as one text, except that a pattern
    sees no more than one of them. -/
def trimmed (s : Shell) (p : ScriptParameter) (quoted : Bool) (cut : List Char → List Char) :
    List TextPiece :=
  let single (value : String) := TextPiece.ofValue quoted (String.ofList (cut value.toList))
  let several (values : List String) :=
    let joined := List.intercalate [between] (values.map String.toList)
    TextPiece.ofValues quoted s.joint (((cut joined).splitOn between).map String.ofList)
  match p with
  | .each => several s.arguments
  | .joined =>
    if quoted then single (String.intercalate s.joint s.arguments) else several s.arguments
  | p => single ((s.value? p).getD "")

/-- Trims the beginning of a text. -/
def cutStart (pattern : List Glob.Item) (longest : Bool) (cs : List Char) : List Char :=
  let isMatch (n : Nat) := Glob.isMatch pattern ((cs.take n).takeWhile (· ≠ between))
  let lengths := List.range (cs.length + 1)
  match (if longest then lengths.reverse else lengths).find? isMatch with
  | some n => cs.drop n
  | none => cs

/-- Trims the end of a text. -/
def cutEnd (pattern : List Glob.Item) (longest : Bool) (cs : List Char) : List Char :=
  let isMatch (n : Nat) := Glob.isMatch pattern ((cs.drop n).takeWhile (· ≠ between))
  let lengths := List.range (cs.length + 1)
  match (if longest then lengths else lengths.reverse).find? isMatch with
  | some n => cs.take n
  | none => cs

mutual

/-- The text that a piece of a word stands for. -/
def part (capture : Capture) : WordPart → Action (List TextPiece)
  | .char c quoted => return [.char c quoted false]
  | .nothing => return [.present]
  | .output c quoted => return TextPiece.ofValue quoted (← capture c)
  | .arithmetic w quoted => do
    let text := TextPiece.text (← parts capture w)
    return TextPiece.ofValue quoted (toString (← Arithmetic.evaluate text))
  | .parameter p use w quoted => do
    let s ← get
    match use with
    | .value =>
      check p
      return s.valuePieces p quoted
    | .length =>
      check p
      let length := match s.values? p with
        | some values => (String.intercalate s.joint values).length
        | none => ((s.value? p).getD "").length
      return TextPiece.ofValue quoted (toString length)
    | .default nulls =>
      if isMissing s p nulls then
        return TextPiece.inPlace quoted (tilde quoted s (← parts capture w))
      else return s.valuePieces p quoted
    | .instead nulls =>
      if isMissing s p nulls then return TextPiece.inPlace quoted []
      else return TextPiece.inPlace quoted (tilde quoted s (← parts capture w))
    | .assign nulls =>
      if isMissing s p nulls then
        let value := TextPiece.text (tilde quoted s (← parts capture w))
        match p with
        | .variable name =>
          Action.assign name value
          return TextPiece.ofValue quoted value
        | p => Action.fail (p.name ++ ": bad variable name")
      else return s.valuePieces p quoted
    | .demand nulls =>
      if isMissing s p nulls then
        let message ←
          if w.isEmpty then
            pure (if nulls then "parameter not set or null" else "parameter not set")
          else do pure (TextPiece.text (tilde quoted s (← parts capture w)))
        Action.fail (p.name ++ ": " ++ message)
      else return s.valuePieces p quoted
    | .trimStart longest =>
      check p
      let pattern := Glob.read (TextPiece.marked (replaceTilde s ['/'] (← parts capture w)))
      return trimmed (← get) p quoted (cutStart pattern longest)
    | .trimEnd longest =>
      check p
      let pattern := Glob.read (TextPiece.marked (replaceTilde s ['/'] (← parts capture w)))
      return trimmed (← get) p quoted (cutEnd pattern longest)
    | .malformed => Action.fail "Bad substitution"

/-- The text that pieces of a word stand for. -/
def parts (capture : Capture) : List WordPart → Action (List TextPiece)
  | [] => return []
  | p :: rest => do
    let pieces ← part capture p
    return pieces ++ (← parts capture rest)

end

/-- The text of a document. -/
def document (capture : Capture) (w : ScriptWord) : Action String := do
  return TextPiece.text (← parts capture w)

/-- The pieces of a word, with its tilde replaced. -/
def pieces (capture : Capture) (w : ScriptWord) : Action (List TextPiece) := do
  let found ← parts capture w
  return replaceTilde (← get) ['/'] found

/-- The text of a word that is not cut into fields. -/
def text (capture : Capture) (w : ScriptWord) : Action String := do
  return TextPiece.text (← pieces capture w)

/-- The value that a word assigns. -/
def assigned (capture : Capture) (w : ScriptWord) : Action String := do
  let found ← parts capture w
  let s ← get
  return TextPiece.text (replaceTilde s ['/', ':'] (replaceLaterTildes s found))

/-- The pattern that a word is. -/
def pattern (capture : Capture) (w : ScriptWord) : Action (List Glob.Item) := do
  return Glob.read (TextPiece.marked (← pieces capture w))

/-- The texts that a field stands for: the paths it finds as a pattern, or itself. -/
def found (s : Shell) (field : List MarkedChar) : List String :=
  let plain := String.ofList (field.map (·.1))
  if s.has 'f' || !Glob.isPattern field then [plain]
  else
    match Glob.paths s.files field with
    | [] => [plain]
    | paths => paths.map String.ofList

/-- The fields of a word. -/
def fields (capture : Capture) (w : ScriptWord) : Action (List String) := do
  let pieces ← pieces capture w
  let s ← get
  return (Fields.ofPieces s.separators pieces).flatMap (found s)

/-- The fields of words. -/
def allFields (capture : Capture) : List ScriptWord → Action (List String)
  | [] => return []
  | w :: rest => do
    let first ← fields capture w
    return first ++ (← allFields capture rest)

end Expansion

end Flowchart
