set_option autoImplicit false

/-! # The syntax of shell scripts

The words and commands that a script is made of. A word keeps which of its characters were quoted,
since only the others can be keywords, patterns or the ends of fields, and it keeps the parameters
and commands whose values it takes when it is used. -/

namespace Flowchart

/-- What a dollar sign in a script can name. -/
inductive ScriptParameter where
  | variable (name : String)
  | positional (n : Nat)
  /-- All arguments, each a field of its own. -/
  | each
  /-- All arguments in one text. -/
  | joined
  | count
  | status
  | options
  | process
  | background
deriving DecidableEq

/-- What is made of a parameter. -/
inductive ParameterUse where
  | value
  | length
  /-- A word in place of a missing value; with `nulls`, an empty value counts as missing. -/
  | default (nulls : Bool)
  /-- The same, and the parameter keeps the word as its value. -/
  | assign (nulls : Bool)
  /-- A missing value is an error. -/
  | demand (nulls : Bool)
  /-- A word in place of a value that is not missing. -/
  | instead (nulls : Bool)
  /-- The value without a beginning that matches a pattern. -/
  | trimStart (longest : Bool)
  /-- The value without an end that matches a pattern. -/
  | trimEnd (longest : Bool)
  /-- A use that does not exist. -/
  | malformed
deriving DecidableEq

/-- How a file is opened. -/
inductive OpenMode where
  | read
  | write
  /-- Writing, even where files must not be replaced. -/
  | force
  | append
  | readWrite
deriving DecidableEq

mutual

/-- A piece of a word. -/
inductive WordPart where
  | char (c : Char) (quoted : Bool)
  /-- A pair of quotes with nothing between them. -/
  | nothing
  | parameter (p : ScriptParameter) (use : ParameterUse) (word : List WordPart) (quoted : Bool)
  /-- What a command writes. -/
  | output (c : ScriptCommand) (quoted : Bool)
  | arithmetic (word : List WordPart) (quoted : Bool)

/-- A change of what a descriptor stands for. -/
inductive Redirection where
  | file (descriptor : Nat) (mode : OpenMode) (name : List WordPart)
  | copy (descriptor : Nat) (source : List WordPart)
  /-- The text that stands in the script below the command, by its number. -/
  | document (descriptor number : Nat)

/-- A command of a script. Some keep the line they begin in. -/
inductive ScriptCommand where
  | nothing
  | simple (line : Nat) (assignments : List (String × List WordPart))
      (words : List (List WordPart)) (redirections : List Redirection)
  | pipeline (commands : List ScriptCommand)
  | negate (c : ScriptCommand)
  | both (a b : ScriptCommand)
  | either (a b : ScriptCommand)
  | sequence (a b : ScriptCommand)
  | background (c : ScriptCommand)
  | subshell (line : Nat) (c : ScriptCommand) (redirections : List Redirection)
  | redirected (line : Nat) (c : ScriptCommand) (redirections : List Redirection)
  | choose (condition yes no : ScriptCommand)
  /-- Runs the body as long as the condition has an outcome. -/
  | repeatWhile (outcome : Bool) (condition body : ScriptCommand)
  | forEach (line : Nat) (name : String) (values : List (List WordPart)) (body : ScriptCommand)
  | select (line : Nat) (subject : List WordPart)
      (cases : List (List (List WordPart) × ScriptCommand))
  | define (name : String) (body : ScriptCommand)

end

/-- A word of a script, before anything in it is replaced by its value. -/
abbrev ScriptWord := List WordPart

namespace ScriptWord

/-- The text of a word in which nothing is quoted or replaced. -/
def bare? (w : ScriptWord) : Option String :=
  (w.mapM fun p =>
    match p with
    | WordPart.char c false => some c
    | _ => none).map String.ofList

/-- A word of quoted characters. -/
def ofQuoted (cs : List Char) : ScriptWord := cs.map fun c => WordPart.char c true

end ScriptWord

namespace ScriptParameter

/-- Whether a character can begin the name of a variable. -/
def beginsName (c : Char) : Bool := c.isAlpha || c == '_'

/-- Whether a character can go on with the name of a variable. -/
def continuesName (c : Char) : Bool := c.isAlphanum || c == '_'

/-- Whether a text is the name of a variable. -/
def isName (cs : List Char) : Bool :=
  match cs with
  | [] => false
  | c :: rest => beginsName c && rest.all continuesName

/-- The parameter named by a single character that is no letter. -/
def ofMark? (c : Char) : Option ScriptParameter :=
  match c with
  | '@' => some .each
  | '*' => some .joined
  | '#' => some .count
  | '?' => some .status
  | '-' => some .options
  | '$' => some .process
  | '!' => some .background
  | c => if c.isDigit then some (.positional (c.toNat - '0'.toNat)) else none

end ScriptParameter

/-- Splits a word that assigns a value to a variable. -/
def ScriptWord.assignment? (w : ScriptWord) : Option (String × ScriptWord) :=
  let isEquals (p : WordPart) : Bool :=
    match p with
    | .char '=' false => true
    | _ => false
  match w.dropWhile (!isEquals ·) with
  | _ :: value =>
    match ScriptWord.bare? (w.takeWhile (!isEquals ·)) with
    | some name => if ScriptParameter.isName name.toList then some (name, value) else none
    | none => none
  | [] => none

end Flowchart
