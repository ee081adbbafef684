import Flowchart.Script.Reader

set_option autoImplicit false

/-! # Reading commands of scripts

The grammar of commands, one reader for each of its forms. Every reader takes its next token the way
its place in the grammar asks for, since keywords and ends of lines count only in some places. -/

namespace Flowchart.Reading

/-- How far a list of commands goes. -/
inductive ListExtent where
  /-- To the end of a line. -/
  | line
  /-- To a keyword or mark that closes it; there is at least one command. -/
  | body
  /-- The same, but there may be no command. -/
  | optional
deriving DecidableEq

/-- Whether a token closes a list of commands. -/
def closesList : ScriptToken → Bool
  | .mark .endOfFile | .mark .closeParen | .mark .endCase => true
  | .keyword name => ["do", "done", "elif", "else", "esac", "fi", "then", "\x7d"].contains name
  | _ => false

/-- The word of a token where any word may stand. -/
def wordOf? : ScriptToken → Option ScriptWord
  | .word w => some w
  | .keyword name => some (name.toList.map fun c => WordPart.char c false)
  | _ => none

/-- The pieces of a simple command, in reverse. -/
structure Pieces where
  assignments : List (String × ScriptWord) := []
  words : List ScriptWord := []
  redirections : List Redirection := []

/-- The characters of a word that ends a document. -/
def delimiterOf (w : ScriptWord) : List Char :=
  w.filterMap fun p =>
    match p with
    | .char c _ => some c
    | _ => none

/-- Whether nothing in a word is quoted. -/
def isUnquoted (w : ScriptWord) : Bool :=
  w.all fun p =>
    match p with
    | .char _ quoted => !quoted
    | .nothing => false
    | _ => true

/-- The command that commands with pipes between them are. -/
def ofStages : List ScriptCommand → ScriptCommand
  | [c] => c
  | stages => .pipeline stages

/-- The word that is all arguments. -/
def allArguments : ScriptWord := [.parameter .each .value [] true]

/-- The commands that must not be defined anew. -/
def reservedCommands : List String :=
  [".", ":", "break", "continue", "eval", "exec", "exit", "export", "local", "readonly", "return",
    "set", "shift", "times", "trap", "unset"]

/-- Reads what follows the sign of a redirection. -/
def readRedirection (commands : Reading ScriptCommand) (descriptor : Nat) (sign : RedirectionSign) :
    Reading Redirection := do
  let context : WordContext := match sign with
    | .document _ => .delimiter
    | _ => .plain
  match (← readToken commands context) with
  | .word w =>
    match sign with
    | .file mode => return .file descriptor mode w
    | .copy => return .copy descriptor w
    | .document stripTabs =>
      let number := (← get).nextDocument
      let d : AwaitedDocument :=
        { number, delimiter := delimiterOf w, expands := isUnquoted w, stripTabs }
      modify fun r => { r with awaited := r.awaited ++ [d], nextDocument := number + 1 }
      return .document descriptor number
  | t => refuse t

/-- Reads the redirections after a compound command. Keywords count only in front of the first. -/
def readRedirections (commands : Reading ScriptCommand) :
    Nat → Bool → Reading (List Redirection)
  | 0, _ => return []
  | fuel + 1, words => do
    match (← next commands false words) with
    | .redirection descriptor sign =>
      let r ← readRedirection commands descriptor sign
      return r :: (← readRedirections commands fuel false)
    | t =>
      push t
      return []

/-- Reads words, assignments in front of them, and redirections. -/
def readPieces (commands : Reading ScriptCommand) : Nat → Pieces → Reading Pieces
  | 0, p => return p
  | fuel + 1, p => do
    match (← next commands false false) with
    | .word w =>
      match (if p.words.isEmpty then w.assignment? else none) with
      | some a => readPieces commands fuel { p with assignments := a :: p.assignments }
      | none => readPieces commands fuel { p with words := w :: p.words }
    | .redirection descriptor sign =>
      let r ← readRedirection commands descriptor sign
      readPieces commands fuel { p with redirections := r :: p.redirections }
    | t =>
      push t
      return p

/-- Reads words up to another token. -/
def readWords (commands : Reading ScriptCommand) : Nat → Reading (List ScriptWord × ScriptToken)
  | 0 => fail "word unexpected"
  | fuel + 1 => do
    match (← next commands false false) with
    | .word w =>
      let (words, t) ← readWords commands fuel
      return (w :: words, t)
    | t => return ([], t)

/-- Reads patterns with bars between them, up to the closing parenthesis. -/
def readPatterns (commands : Reading ScriptCommand) : Nat → ScriptToken → Reading (List ScriptWord)
  | 0, t => refuse t
  | fuel + 1, t => do
    let w := (wordOf? t).getD []
    match (← next commands false false) with
    | .mark .pipe => return w :: (← readPatterns commands fuel (← next commands false false))
    | .mark .closeParen => return [w]
    | t => refuseFor t (.mark .closeParen)

/-- How many steps reading the rest of the script takes at most. -/
def bound : Reading Nat := do return (← get).rest.length + 4

/-- Reads a token that has to be there. -/
def expect (commands : Reading ScriptCommand) (lines : Bool) (name : String) : Reading Unit := do
  match (← next commands lines true) with
  | .keyword found =>
    if found = name then return () else refuseFor (.keyword found) (.keyword name)
  | t => refuseFor t (.keyword name)

/-- Reads the redirections after a compound command that begins in a line. -/
def withRedirections (commands : Reading ScriptCommand) (line : Nat) (c : ScriptCommand) :
    Reading ScriptCommand := do
  let rs ← readRedirections commands (← bound) true
  return if rs.isEmpty then c else .redirected line c rs

/-- Reads the variable of a loop over words. -/
def readVariable (commands : Reading ScriptCommand) : Reading String := do
  match (← next commands false false) with
  | .word w =>
    match w.bare? with
    | some name =>
      if ScriptParameter.isName name.toList then return name else fail "Bad for loop variable"
    | none => fail "Bad for loop variable"
  | _ => fail "Bad for loop variable"

/-- Reads the words of a loop over words, after its variable. -/
def readValues (commands : Reading ScriptCommand) : Reading (List ScriptWord) := do
  match (← next commands true true) with
  | .keyword "in" =>
    match (← readWords commands (← bound)) with
    | (words, .mark .newline) =>
      push (.mark .newline)
      return words
    | (words, .mark .semicolon) => return words
    | (_, t) => refuse t
  | .mark .semicolon => return [allArguments]
  | t =>
    push t
    return [allArguments]

/-- Skips the parenthesis that may stand in front of the patterns of a case. -/
def skipParenthesis (commands : Reading ScriptCommand) (t : ScriptToken) : Reading ScriptToken :=
  match t with
  | .mark .openParen => next commands false false
  | t => return t

mutual

/-- Reads a list of commands after those that have been read. -/
def readList : Nat → ListExtent → Option ScriptCommand → Reading ScriptCommand
  | 0, _, _ => fail "word unexpected"
  | fuel + 1, extent, before => do
    let commands := readList fuel .optional none
    let sofar := before.getD .nothing
    let t ← next commands (extent ≠ .line) true
    match t with
    | .mark .newline =>
      readDocuments commands
      return sofar
    | .mark .endOfFile =>
      readDocuments commands
      push t
      return sofar
    | t =>
      push t
      if closesList t && (extent = .optional || extent = .body && before.isSome) then return sofar
      let c ← readChain fuel none
      let t ← next commands false false
      let c := match t with
        | .mark .background => .background c
        | _ => c
      let all := match before with
        | some b => .sequence b c
        | none => c
      match t with
      | .mark .background | .mark .semicolon => readList fuel extent (some all)
      | .mark .newline =>
        push t
        readList fuel extent (some all)
      | .mark .endOfFile =>
        readDocuments commands
        push t
        return all
      | t =>
        if extent = .line then refuse t
        push t
        return all

/-- Reads pipelines with the marks of "and" and "or" between them. -/
def readChain : Nat → Option (ScriptCommand → ScriptCommand) → Reading ScriptCommand
  | 0, _ => fail "word unexpected"
  | fuel + 1, join => do
    let commands := readList fuel .optional none
    let c ← readPipeline fuel join.isSome
    let all := match join with
      | some join => join c
      | none => c
    match (← next commands false false) with
    | .mark .both => readChain fuel (some (.both all))
    | .mark .either => readChain fuel (some (.either all))
    | t =>
      push t
      return all

/-- Reads commands with pipes between them, perhaps negated. -/
def readPipeline : Nat → Bool → Reading ScriptCommand
  | 0, _ => fail "word unexpected"
  | fuel + 1, lines => do
    let commands := readList fuel .optional none
    match (← next commands lines lines) with
    | .keyword "!" =>
      return .negate (ofStages (← readStages fuel (← next commands false true)))
    | t => return ofStages (← readStages fuel t)

/-- Reads commands with pipes between them, from a token on. -/
def readStages : Nat → ScriptToken → Reading (List ScriptCommand)
  | 0, t => refuse t
  | fuel + 1, t => do
    let commands := readList fuel .optional none
    let c ← readCommand fuel t
    match (← next commands false false) with
    | .mark .pipe => return c :: (← readStages fuel (← next commands true true))
    | t =>
      push t
      return [c]

/-- Reads a command from a token on. -/
def readCommand : Nat → ScriptToken → Reading ScriptCommand
  | 0, t => refuse t
  | fuel + 1, t => do
    let commands := readList fuel .optional none
    let line := (← get).line
    match t with
    | .keyword "if" => withRedirections commands line (← readBranches fuel)
    | .keyword "while" | .keyword "until" =>
      let condition ← readList fuel .body none
      expect commands false "do"
      let body ← readList fuel .body none
      expect commands false "done"
      let outcome := match t with
        | .keyword "while" => true
        | _ => false
      withRedirections commands line (.repeatWhile outcome condition body)
    | .keyword "for" => withRedirections commands line (← readFor fuel line)
    | .keyword "case" =>
      match (← next commands false false) with
      | .word subject =>
        expect commands true "in"
        withRedirections commands line (.select line subject (← readCases fuel))
      | t => refuseFor t (.word [])
    | .mark .openParen =>
      let c ← readList fuel .body none
      match (← next commands false true) with
      | .mark .closeParen =>
        return .subshell line c (← readRedirections commands (← bound) true)
      | t => refuseFor t (.mark .closeParen)
    | .keyword "\x7b" =>
      let c ← readList fuel .body none
      expect commands false "\x7d"
      withRedirections commands line c
    | .word _ | .redirection .. =>
      push t
      readSimple fuel line
    | t => refuse t

/-- Reads a condition with its branches, after the keyword. -/
def readBranches : Nat → Reading ScriptCommand
  | 0 => fail "word unexpected"
  | fuel + 1 => do
    let commands := readList fuel .optional none
    let condition ← readList fuel .body none
    expect commands false "then"
    let yes ← readList fuel .body none
    match (← next commands false true) with
    | .keyword "elif" => return .choose condition yes (← readBranches fuel)
    | .keyword "else" =>
      let no ← readList fuel .body none
      expect commands false "fi"
      return .choose condition yes no
    | .keyword "fi" => return .choose condition yes .nothing
    | t => refuseFor t (.keyword "fi")

/-- Reads a loop over words, after the keyword. -/
def readFor : Nat → Nat → Reading ScriptCommand
  | 0, _ => fail "word unexpected"
  | fuel + 1, line => do
    let commands := readList fuel .optional none
    let name ← readVariable commands
    let values ← readValues commands
    expect commands true "do"
    let body ← readList fuel .body none
    expect commands false "done"
    return .forEach line name values body

/-- Reads the cases of a selection, up to its end. -/
def readCases : Nat → Reading (List (List ScriptWord × ScriptCommand))
  | 0 => fail "word unexpected"
  | fuel + 1 => do
    let commands := readList fuel .optional none
    match (← next commands true true) with
    | .keyword "esac" => return []
    | t =>
      let t ← skipParenthesis commands t
      let patterns ← readPatterns commands (← bound) t
      let body ← readList fuel .optional none
      match (← next commands true true) with
      | .keyword "esac" => return [(patterns, body)]
      | .mark .endCase => return (patterns, body) :: (← readCases fuel)
      | t => refuseFor t (.mark .endCase)

/-- Reads a simple command, or the definition of a function. -/
def readSimple : Nat → Nat → Reading ScriptCommand
  | 0, _ => fail "word unexpected"
  | fuel + 1, line => do
    let commands := readList fuel .optional none
    let p ← readPieces commands (← bound) {}
    let simple : ScriptCommand :=
      .simple line p.assignments.reverse p.words.reverse p.redirections.reverse
    match p.words, p.assignments, p.redirections with
    | [w], [], [] =>
      match (← next commands false false) with
      | .mark .openParen =>
        match (← next commands false false) with
        | .mark .closeParen =>
          let name := (w.bare?).getD ""
          if !ScriptParameter.isName name.toList || reservedCommands.contains name then
            fail "Bad function name"
          return .define name (← readCommand fuel (← next commands true true))
        | t => refuseFor t (.mark .closeParen)
      | t =>
        push t
        return simple
    | _, _, _ => return simple

end

/-- Reads the next line of commands; none at the end of the script. -/
def readLine? : Reading (Option ScriptCommand) := do
  modify fun r => { r with pushed := none }
  let fuel := 16 * (← get).rest.length + 64
  let commands := readList fuel .optional none
  match (← next commands false true) with
  | .mark .endOfFile => return none
  | t =>
    push t
    return some (← readList fuel .line none)

end Flowchart.Reading
