import Flowchart.Script.Syntax

set_option autoImplicit false

/-! # Reading words of scripts

A script is read from front to back: tokens are cut off one by one, and a command is run before the
next one is read. Words can hold commands, whose reading is a parameter of everything here. A
backslash in front of the end of a line joins two lines wherever quotes do not prevent it. -/

namespace Flowchart

/-- What is wrong with a script, and the line in which that shows. -/
structure ScriptError where
  line : Nat
  message : String
deriving DecidableEq

/-- The marks between words. -/
inductive ScriptMark where
  | endOfFile
  | newline
  | semicolon
  | background
  | both
  | either
  | pipe
  | openParen
  | closeParen
  | endCase
deriving DecidableEq

/-- The signs that begin a redirection. -/
inductive RedirectionSign where
  | file (mode : OpenMode)
  | copy
  | document (stripTabs : Bool)
deriving DecidableEq

/-- A lexical unit of a script. -/
inductive ScriptToken where
  | mark (m : ScriptMark)
  | keyword (name : String)
  | word (w : ScriptWord)
  | redirection (descriptor : Nat) (sign : RedirectionSign)

/-- A text below a command that has been announced but not read. -/
structure AwaitedDocument where
  number : Nat
  delimiter : List Char
  /-- Whether parameters in it are replaced by their values. -/
  expands : Bool
  stripTabs : Bool

/-- A script that is being read. -/
structure ScriptReader where
  rest : List Char
  line : Nat := 1
  /-- The token that has been put back. -/
  pushed : Option ScriptToken := none
  awaited : List AwaitedDocument := []
  documents : List (Nat × ScriptWord) := []
  nextDocument : Nat := 0
  /-- The texts that words stand for where a command can begin. -/
  aliases : List (String × String) := []
  /-- The words that stand for no text until no more than so much of the script is left. -/
  replaced : List (String × Nat) := []

/-- Reading from a script. -/
abbrev Reading := StateT ScriptReader (Except ScriptError)

namespace Reading

/-- Refuses the script. -/
def fail {α : Type} (message : String) : Reading α := fun r =>
  .error { line := r.line, message }

/-- Puts a token back. -/
def push (t : ScriptToken) : Reading Unit := modify fun r => { r with pushed := some t }

/-- Goes on after some characters of which one ends a line or none does. -/
def advance (rest : List Char) (lines : Nat) : Reading Unit := modify fun r =>
  { r with rest, line := r.line + lines }

/-- Characters after joined lines, and how many lines have been joined. -/
def skipJoins (lines : Nat) : List Char → List Char × Nat
  | '\\' :: '\n' :: rest => skipJoins (lines + 1) rest
  | cs => (cs, lines)

/-- The characters that come next, after joined lines. -/
def ahead : Reading (List Char) := do
  let (rest, lines) := skipJoins 0 (← get).rest
  advance rest lines
  return rest

/-- Characters after blanks, joined lines and a comment. -/
def skipBlanks (lines : Nat) : List Char → List Char × Nat
  | '\\' :: '\n' :: rest => skipBlanks (lines + 1) rest
  | ' ' :: rest => skipBlanks lines rest
  | '\t' :: rest => skipBlanks lines rest
  | '#' :: rest => (rest.dropWhile (· ≠ '\n'), lines)
  | cs => (cs, lines)

/-- Skips a character that may come next. -/
def accept (c : Char) : Reading Bool := do
  match (← ahead) with
  | d :: rest =>
    if c = d then
      advance rest 0
      return true
    else return false
  | [] => return false

/-- How many lines end in some characters. -/
def lineEnds (cs : List Char) : Nat := cs.count '\n'

/-! ## Words -/

/-- Where a piece of a word stands. -/
inductive WordContext where
  | plain
  /-- A word that ends a document, in which nothing has a value. -/
  | delimiter
  | quoted
  | document
  /-- Between braces outside of double quotes. -/
  | braced
  /-- Between braces inside double quotes or a document; there may be quotes once more. -/
  | quotedBraced (inDocument inner : Bool)
  | arithmetic (depth : Nat)
deriving DecidableEq

namespace WordContext

/-- Whether characters here count as quoted. -/
def isQuoted : WordContext → Bool
  | .plain | .delimiter | .braced => false
  | _ => true

/-- Whether a character loses its meaning here after a backslash. -/
def escapes (context : WordContext) (c : Char) : Bool :=
  match context with
  | .plain | .delimiter | .braced => true
  | .document => ['\\', '\x60', '$'].contains c
  | .quoted | .arithmetic _ => ['\\', '\x60', '$', '\x22'].contains c
  | .quotedBraced .. => ['\\', '\x60', '$', '\x22', '\x7d'].contains c

/-- The context of a word between braces. -/
def inBraces (context : WordContext) (use : ParameterUse) : WordContext :=
  match context, use with
  | _, .trimStart _ | _, .trimEnd _ => .braced
  | .plain, _ | .delimiter, _ | .braced, _ => .braced
  | .document, _ => .quotedBraced true false
  | .quotedBraced inDocument _, _ => .quotedBraced inDocument false
  | _, _ => .quotedBraced false false

end WordContext

/-- Whether a character ends a word that is not quoted. -/
def endsWord (c : Char) : Bool := [' ', '\t', '\n', ';', '&', '|', '<', '>', '(', ')'].contains c

/-- Refuses a script that ends inside a word, unless the word may end there. -/
def atEnd (context : WordContext) : Reading (List WordPart) :=
  match context with
  | .plain | .delimiter | .document => return []
  | .arithmetic _ => fail "Missing '))'"
  | .quoted | .quotedBraced false _ => fail "Unterminated quoted string"
  | .braced | .quotedBraced true _ => fail "Missing '\x7d'"

/-- Reads up to a single quote. -/
def readSingle : Reading (List WordPart) := do
  let r ← get
  let inside := r.rest.takeWhile (· ≠ '\x27')
  match r.rest.drop inside.length with
  | _ :: rest =>
    advance rest (lineEnds inside)
    return if inside.isEmpty then [.nothing] else ScriptWord.ofQuoted inside
  | [] =>
    advance [] (lineEnds inside)
    fail "Unterminated quoted string"

/-- Reads the letters or digits of a name. -/
def readName (continues : Char → Bool) : Nat → Reading (List Char)
  | 0 => return []
  | fuel + 1 => do
    match (← ahead) with
    | c :: rest =>
      if continues c then
        advance rest 0
        return c :: (← readName continues fuel)
      else return []
    | [] => return []

/-- Reads the name of a parameter between braces; none, if there is no such name. -/
def readParameter : Reading (Option ScriptParameter) := do
  match (← ahead) with
  | c :: rest =>
    if ScriptParameter.beginsName c then
      let name ← readName ScriptParameter.continuesName (rest.length + 1)
      return some (.variable (String.ofList name))
    else if c.isDigit then
      let digits ← readName Char.isDigit (rest.length + 1)
      return (String.ofList digits).toNat?.map .positional
    else
      match ScriptParameter.ofMark? c with
      | some p =>
        advance rest 0
        return some p
      | none => return none
  | [] => return none

/-- Reads what is to be made of a parameter. A character that says nothing about it is skipped, even
    if it is the closing brace or ends a line. -/
def readUse : Reading ParameterUse := do
  let nulls ← accept ':'
  match (← ahead) with
  | c :: rest =>
    advance rest 0
    match c with
    | '\x7d' => return if nulls then .malformed else .value
    | '-' => return .default nulls
    | '+' => return .instead nulls
    | '?' => return .demand nulls
    | '=' => return .assign nulls
    | '#' => if nulls then return .malformed else return .trimStart (← accept '#')
    | '%' => if nulls then return .malformed else return .trimEnd (← accept '%')
    | _ => return .malformed
  | [] => return .malformed

/-- Reads a parameter and what is done with it. -/
def readPlain : Reading (ScriptParameter × ParameterUse) := do
  match (← readParameter) with
  | some p => return (p, ← readUse)
  | none => return (.count, .malformed)

/-- Reads a parameter after an opening brace, up to the word that may follow. A number sign asks
    for the length of what follows it, unless it is the parameter itself: that is so where neither a
    name nor a single character before the closing brace follows. -/
def readBraced : Reading (ScriptParameter × ParameterUse) := do
  let start ← get
  if ← accept '#' then
    match (← ahead) with
    | '\x7d' :: _ =>
      set start
      readPlain
    | c :: '\x7d' :: rest =>
      if ScriptParameter.continuesName c || (ScriptParameter.ofMark? c).isSome then
        match (← readParameter) with
        | some p =>
          advance rest 0
          return (p, .length)
        | none => return (.count, .malformed)
      else
        advance ('\x7d' :: rest) 0
        return (.count, .malformed)
    | c :: _ =>
      if ScriptParameter.continuesName c then
        match (← readParameter) with
        | some p => return (p, if ← accept '\x7d' then .length else .malformed)
        | none => return (.count, .malformed)
      else
        set start
        readPlain
    | [] =>
      set start
      readPlain
  else readPlain

/-- Cuts the text between back quotes off some characters. -/
def takeBackquoted (quoted : Bool) : List Char → Option (List Char × List Char)
  | [] => none
  | '\x60' :: rest => some ([], rest)
  | '\\' :: c :: rest =>
    (takeBackquoted quoted rest).map fun (inside, rest) =>
      if c = '\n' then (inside, rest)
      else if c = '\\' || c = '\x60' || c = '$' || (quoted && c = '\x22') then (c :: inside, rest)
      else ('\\' :: c :: inside, rest)
  | c :: rest => (takeBackquoted quoted rest).map fun (inside, rest) => (c :: inside, rest)

/-- Runs a reading on a text of its own. -/
def within {α : Type} (text : List Char) (line : Nat) (reading : Reading α) : Reading α := do
  let outer ← get
  set { outer with rest := text, line, pushed := none, awaited := [] }
  let result ← reading
  modify fun r =>
    { r with
      rest := outer.rest
      line := outer.line
      pushed := outer.pushed
      awaited := outer.awaited }
  return result

/-- Gives every document that is still awaited at the end of a text nothing. -/
def closeDocuments : Reading Unit := modify fun r =>
  { r with documents := r.awaited.map (fun d => (d.number, [])) ++ r.documents, awaited := [] }

/-- The piece that commands between back quotes are. -/
def readBackquoted (commands : Reading ScriptCommand) (context : WordContext) :
    Reading WordPart := do
  let r ← get
  match takeBackquoted context.isQuoted r.rest with
  | none =>
    advance [] (lineEnds r.rest)
    fail "EOF in backquote substitution"
  | some (inside, rest) =>
    advance rest (lineEnds (r.rest.take (r.rest.length - rest.length)))
    let c ← within inside 1 do
      let c ← commands
      closeDocuments
      return c
    return .output c context.isQuoted

/-- What a token is called where it is not expected. -/
def describe : ScriptToken → String
  | .mark m =>
    match m with
    | .endOfFile => "end of file"
    | .newline => "newline"
    | .semicolon => "\";\""
    | .background => "\"&\""
    | .both => "\"&&\""
    | .either => "\"||\""
    | .pipe => "\"|\""
    | .openParen => "\"(\""
    | .closeParen => "\")\""
    | .endCase => "\";;\""
  | .keyword name => "\"" ++ name ++ "\""
  | .word _ => "word"
  | .redirection .. => "redirection"

/-- Refuses a token. -/
def refuse {α : Type} (t : ScriptToken) : Reading α := fail (describe t ++ " unexpected")

/-- Refuses a token where another one has to stand. -/
def refuseFor {α : Type} (t expected : ScriptToken) : Reading α :=
  fail (describe t ++ " unexpected (expecting " ++ describe expected ++ ")")

/-- The piece that commands between parentheses are, after the opening one. -/
def readParenthesized (commands : Reading ScriptCommand) (quoted : Bool) : Reading WordPart := do
  let awaited := (← get).awaited
  modify fun r => { r with awaited := [] }
  let c ← commands
  closeDocuments
  match (← get).pushed with
  | some (.mark .closeParen) => modify fun r => { r with pushed := none, awaited }
  | some t => refuseFor t (.mark .closeParen)
  | none => fail "\")\" expected"
  return .output c quoted

/-- Reads a character that stands for itself, and goes on. -/
def readLiteral (again : WordContext → Reading (List WordPart)) (quoted : Bool) (c : Char)
    (rest : List Char) (next : WordContext) : Reading (List WordPart) := do
  advance rest (if c = '\n' then 1 else 0)
  return .char c quoted :: (← again next)

/-- Reads what stands behind a backslash, and goes on. -/
def readEscaped (again : WordContext → Reading (List WordPart)) (context : WordContext)
    (rest : List Char) : Reading (List WordPart) := do
  match rest with
  | [] =>
    advance [] 0
    return .char '\\' true :: (← again context)
  | c :: rest =>
    advance rest 0
    let after ← again context
    if context.escapes c then return .char c true :: after
    else return .char '\\' true :: .char c true :: after

/-- Reads what a dollar sign begins, after it. -/
def readDollar (commands : Reading ScriptCommand) (again : WordContext → Reading (List WordPart))
    (context : WordContext) : Reading (List WordPart) := do
  let quoted := context.isQuoted
  match (← ahead) with
  | '(' :: rest =>
    advance rest 0
    if ← accept '(' then return [.arithmetic (← again (.arithmetic 0)) quoted]
    else return [← readParenthesized commands quoted]
  | '\x7b' :: rest =>
    advance rest 0
    let (p, use) ← readBraced
    if use = .value || use = .length then return [.parameter p use [] quoted]
    else
      let word ← again (context.inBraces use)
      return [.parameter p use word quoted]
  | c :: rest =>
    if ScriptParameter.beginsName c then
      match (← readParameter) with
      | some p => return [.parameter p .value [] quoted]
      | none => return [.char '$' true]
    else
      match ScriptParameter.ofMark? c with
      | some p =>
        advance rest 0
        return [.parameter p .value [] quoted]
      | none => return [.char '$' true]
  | [] => return [.char '$' true]

/-- Reads on from a character that means something in some contexts only. -/
def readMarked (again : WordContext → Reading (List WordPart)) (context : WordContext) (c : Char)
    (rest : List Char) : Reading (List WordPart) := do
  let literal := readLiteral again context.isQuoted c rest
  match context, c with
  | .plain, '\x27' | .delimiter, '\x27' | .braced, '\x27' =>
    advance rest 0
    let inside ← readSingle
    return inside ++ (← again context)
  | .plain, '\x22' | .delimiter, '\x22' | .braced, '\x22' =>
    advance rest 0
    let inside ← again .quoted
    let inside := if inside.isEmpty then [.nothing] else inside
    return inside ++ (← again context)
  | .quoted, '\x22' =>
    advance rest 0
    return []
  | .quotedBraced inDocument inner, '\x22' =>
    advance rest 0
    again (.quotedBraced inDocument !inner)
  | .braced, '\x7d' | .quotedBraced _ false, '\x7d' =>
    advance rest 0
    return []
  | .arithmetic depth, '(' => literal (.arithmetic (depth + 1))
  | .arithmetic (depth + 1), ')' => literal (.arithmetic depth)
  | .arithmetic 0, ')' =>
    advance rest 0
    if ← accept ')' then return []
    else return .char ')' true :: (← again context)
  | .plain, c | .delimiter, c => if endsWord c then return [] else literal context
  | _, _ => literal context

/-- Reads pieces of a word as far as the context reaches. -/
def readParts (commands : Reading ScriptCommand) : Nat → WordContext → Reading (List WordPart)
  | 0, _ => return []
  | fuel + 1, context => do
    let again := readParts commands fuel
    match (← ahead) with
    | [] => atEnd context
    | '\\' :: rest => readEscaped again context rest
    | '$' :: rest =>
      if context = .delimiter then readLiteral again context.isQuoted '$' rest context
      else
        advance rest 0
        let part ← readDollar commands again context
        return part ++ (← again context)
    | '\x60' :: rest =>
      if context = .delimiter then readLiteral again context.isQuoted '\x60' rest context
      else
        advance rest 0
        let part ← readBackquoted commands context
        return part :: (← again context)
    | c :: rest => readMarked again context c rest

/-! ## Documents -/

/-- Whether a line goes on in the next one: the backslash at its end is not itself escaped. -/
def isJoined (line : List Char) : Bool := (line.reverse.takeWhile (· = '\\')).length % 2 == 1

/-- Cuts the text of a document off some characters. After a line that goes on in the next one, that
    one cannot be the end. -/
def takeDocument (d : AwaitedDocument) : Nat → Bool → List Char → List Char × List Char
  | 0, _, cs => ([], cs)
  | fuel + 1, joined, cs =>
    if cs.isEmpty then ([], [])
    else
      let whole := cs.takeWhile (· ≠ '\n')
      let rest := cs.drop whole.length
      let line := if d.stripTabs && !joined then whole.dropWhile (· = '\t') else whole
      if line = d.delimiter && !joined then ([], rest.drop 1)
      else
        let (body, after) := takeDocument d fuel (d.expands && isJoined whole) (rest.drop 1)
        (line ++ rest.take 1 ++ body, after)

/-- Reads one document. -/
def readDocument (commands : Reading ScriptCommand) (d : AwaitedDocument) : Reading Unit := do
  let r ← get
  let (body, rest) := takeDocument d (r.rest.length + 1) false r.rest
  let w ←
    if d.expands then
      within body r.line (readParts commands (2 * body.length + 2) .document)
    else pure (ScriptWord.ofQuoted body)
  advance rest (lineEnds (r.rest.take (r.rest.length - rest.length)))
  modify fun r => { r with documents := (d.number, w) :: r.documents }

/-- Reads the documents that are awaited, at the end of a line. -/
def readDocuments (commands : Reading ScriptCommand) : Reading Unit := do
  let awaited := (← get).awaited
  modify fun r => { r with awaited := [] }
  awaited.forM (readDocument commands)

/-! ## Tokens -/

/-- The sign of a redirection, after its first character. -/
def readSign (first : Char) : Reading RedirectionSign := do
  if first = '>' then
    if ← accept '>' then return .file .append
    else if ← accept '|' then return .file .force
    else if ← accept '&' then return .copy
    else return .file .write
  else if ← accept '<' then return .document (← accept '-')
  else if ← accept '&' then return .copy
  else if ← accept '>' then return .file .readWrite
  else return .file .read

/-- Reads a word, or the redirection that it turns out to begin. -/
def readWord (commands : Reading ScriptCommand) (context : WordContext) : Reading ScriptToken := do
  let w ← readParts commands (2 * (← get).rest.length + 2) context
  let redirection (descriptor : Option Nat) (c : Char) (rest : List Char) :
      Reading ScriptToken := do
    advance rest 0
    let sign ← readSign c
    return .redirection (descriptor.getD (if c = '>' then 1 else 0)) sign
  match (← get).rest, w with
  | '<' :: rest, [] => redirection none '<' rest
  | '>' :: rest, [] => redirection none '>' rest
  | '<' :: rest, [.char c false] =>
    if c.isDigit then redirection (some (c.toNat - '0'.toNat)) '<' rest else return .word w
  | '>' :: rest, [.char c false] =>
    if c.isDigit then redirection (some (c.toNat - '0'.toNat)) '>' rest else return .word w
  | _, w => return .word w

/-- Reads a token as it stands. -/
def readFresh (commands : Reading ScriptCommand) (context : WordContext) : Reading ScriptToken := do
  let (rest, lines) := skipBlanks 0 (← get).rest
  advance rest lines
  match rest with
  | [] => return .mark .endOfFile
  | '\n' :: rest =>
    advance rest 1
    return .mark .newline
  | '&' :: rest =>
    advance rest 0
    return .mark (if ← accept '&' then .both else .background)
  | '|' :: rest =>
    advance rest 0
    return .mark (if ← accept '|' then .either else .pipe)
  | ';' :: rest =>
    advance rest 0
    return .mark (if ← accept ';' then .endCase else .semicolon)
  | '(' :: rest =>
    advance rest 0
    return .mark .openParen
  | ')' :: rest =>
    advance rest 0
    return .mark .closeParen
  | _ => readWord commands context

/-- Reads a token, or takes the one that has been put back. -/
def readToken (commands : Reading ScriptCommand) (context : WordContext) : Reading ScriptToken := do
  match (← get).pushed with
  | some t =>
    modify fun r => { r with pushed := none }
    return t
  | none => readFresh commands context

/-- Skips ends of lines; each is followed by the documents that were announced in the line. -/
def skipLines (commands : Reading ScriptCommand) : Nat → ScriptToken → Reading ScriptToken
  | fuel + 1, .mark .newline => do
    readDocuments commands
    skipLines commands fuel (← readToken commands .plain)
  | _, t => return t

/-- The words with a meaning of their own where a command can begin. -/
def keywords : List String :=
  ["!", "case", "do", "done", "elif", "else", "esac", "fi", "for", "if", "in", "then", "until",
    "while", "\x7b", "\x7d"]

/-- The token that a word is where keywords count. -/
def recognize (t : ScriptToken) : ScriptToken :=
  match t with
  | .word w =>
    match w.bare? with
    | some name => if keywords.contains name then .keyword name else t
    | none => t
  | t => t

/-- The text that a word stands for where a command can begin. A word has no such meaning inside the
    text it stands for itself. -/
def replacement? (r : ScriptReader) (name : String) : Option String :=
  if r.replaced.any fun a => a.1 == name && a.2 ≤ r.rest.length then none
  else r.aliases.lookup name

/-- Reads again from the text that a word stands for; other words are what they are. -/
def replaceWord (again : Reading ScriptToken) (w : ScriptWord) : Reading ScriptToken := do
  let r ← get
  match w.bare?.bind fun name => (replacement? r name).map (name, ·) with
  | some (name, text) =>
    set { r with
      rest := text.toList ++ r.rest
      replaced := (name, r.rest.length) :: r.replaced }
    again
  | none => return .word w

/-- What a token means where keywords may count. -/
def readMeaning (again : Reading ScriptToken) (words : Bool) (t : ScriptToken) :
    Reading ScriptToken := do
  if !words then return t
  match recognize t with
  | .word w => replaceWord again w
  | t => return t

/-- Reads a token where ends of lines may not count, and keywords may, as far as there is fuel for
    replacing words. -/
def nextWithin (commands : Reading ScriptCommand) (lines words : Bool) :
    Nat → Reading ScriptToken
  | 0 => fail "word unexpected"
  | fuel + 1 => do
    let t ← readToken commands .plain
    let t ← if lines then skipLines commands ((← get).rest.length + 2) t else pure t
    readMeaning (nextWithin commands lines words fuel) words t

/-- Reads a token where ends of lines may not count, and keywords may. -/
def next (commands : Reading ScriptCommand) (lines words : Bool) : Reading ScriptToken := do
  nextWithin commands lines words ((← get).aliases.length + 2)

end Reading

end Flowchart
