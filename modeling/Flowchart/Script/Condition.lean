import Flowchart.Script.Arithmetic

set_option autoImplicit false

/-! # Conditions of shell scripts

The little language of `test`: words that are compared, counted or looked up as paths, joined by
"and", "or" and "not". Whether a word is an operator hangs on the words after it. -/

namespace Flowchart.Condition

/-- What a word can be. -/
inductive Operator where
  | unary (name : String)
  | binary (name : String)
  | not
  | and
  | or
  | openParen
  | closeParen
deriving DecidableEq

/-- The operator that a word can be. -/
def operator? (word : String) : Option Operator :=
  if ["-r", "-w", "-x", "-e", "-f", "-d", "-c", "-b", "-p", "-u", "-g", "-k", "-s", "-t", "-z",
      "-n", "-h", "-L", "-O", "-G", "-S"].contains word then some (.unary word)
  else if ["=", "!=", "<", ">", "-eq", "-ne", "-ge", "-gt", "-le", "-lt", "-nt", "-ot",
      "-ef"].contains word then some (.binary word)
  else
    match word with
    | "!" => some .not
    | "-a" => some .and
    | "-o" => some .or
    | "(" => some .openParen
    | ")" => some .closeParen
    | _ => none

/-- Whether a word is an operator between two others. -/
def isBinary (word : String) : Bool :=
  match operator? word with
  | some (.binary _) => true
  | _ => false

/-- The operator at the front of some words. A word in front of a single other one is no operator
    on it, if that one is an operator between two. -/
def front? : List String → Option Operator
  | [] => none
  | word :: rest =>
    match operator? word, rest with
    | some (.unary _), [] => none
    | some (.unary name), [_] => some (.unary name)
    | some (.unary name), next :: _ :: _ => if isBinary next then none else some (.unary name)
    | some .openParen, [] => none
    | operator, _ => operator

/-! ## Single conditions -/

/-- The number that a word is; anything else is an error. -/
def number (word : String) : Action Int :=
  let isBlank (c : Char) : Bool := c = ' ' || ('\t' ≤ c && c ≤ '\r')
  let cs := (word.toList.dropWhile isBlank).reverse.dropWhile isBlank |>.reverse
  let (negative, digits) := match cs with
    | '-' :: rest => (true, rest)
    | '+' :: rest => (false, rest)
    | cs => (false, cs)
  if digits.isEmpty || !digits.all Char.isDigit then Action.fail ("Illegal number: " ++ word)
  else
    let n : Nat := digits.foldl (fun n c => 10 * n + (c.toNat - '0'.toNat)) 0
    if Arithmetic.largest < n then Action.fail ("Illegal number: " ++ word)
    else return if negative then -n else n

/-- A condition on two words. -/
def compare (a name b : String) : Action Bool := do
  let numbers (f : Int → Int → Bool) : Action Bool := do return f (← number a) (← number b)
  match name with
  | "=" => return a == b
  | "!=" => return a != b
  | "<" => return decide (a < b)
  | ">" => return decide (b < a)
  | "-eq" => numbers (· == ·)
  | "-ne" => numbers (· != ·)
  | "-ge" => numbers (· ≥ ·)
  | "-gt" => numbers (· > ·)
  | "-le" => numbers (· ≤ ·)
  | "-lt" => numbers (· < ·)
  | "-ef" =>
    let files := (← get).files
    let place (word : String) : Option Place :=
      match files.find ⟨Text.Utf8.gather word.toList⟩ with
      | .ok (place, _) => some place
      | .error _ => none
    return (place a).isSome && place a == place b
  | _ => return false

/-- Whether what is at a path can be run: a program, a directory, or a text that names the program
    that reads it. -/
def isExecutable : FileNode → Bool
  | .directory | .program _ => true
  | .file text => text.startsWith "#!"
  | .device => false

/-- A condition on one word. -/
def inspect (name word : String) : Action Bool := do
  let node? := (← get).files.node? ⟨Text.Utf8.gather word.toList⟩
  let holds (f : FileNode → Bool) : Bool := (node?.map f).getD false
  match name with
  | "-z" => return word == ""
  | "-n" => return word != ""
  | "-t" =>
    let _ ← number word
    return false
  | "-e" | "-r" | "-w" | "-O" | "-G" => return node?.isSome
  | "-x" => return holds isExecutable
  | "-d" => return holds (· == .directory)
  | "-c" => return holds (· == .device)
  | "-f" => return holds fun
    | .file _ | .program _ => true
    | _ => false
  | "-s" => return holds fun
    | .file text => text != ""
    | .device => false
    | _ => true
  | _ => return false

/-! ## Joined conditions -/

/-- The rest of the words changes while a condition is read. -/
abbrev Evaluation := StateT (List String) Action

/-- Takes the next word. -/
def take : Evaluation Unit := modify List.tail

mutual

/-- Conditions of which one has to hold. -/
def anyOf : Nat → Evaluation Bool
  | 0 => return false
  | fuel + 1 => do
    let a ← allOf fuel
    if front? (← get) = some .or then
      take
      return a || (← anyOf fuel)
    else return a

/-- Conditions of which all have to hold. -/
def allOf : Nat → Evaluation Bool
  | 0 => return false
  | fuel + 1 => do
    let a ← negated fuel
    if front? (← get) = some .and then
      take
      return a && (← allOf fuel)
    else return a

/-- A condition that may have to fail. -/
def negated : Nat → Evaluation Bool
  | 0 => return false
  | fuel + 1 => do
    if front? (← get) = some .not then
      take
      return !(← negated fuel)
    else primary fuel

/-- A single condition. -/
def primary : Nat → Evaluation Bool
  | 0 => return false
  | fuel + 1 => do
    let words ← get
    match front? words, words with
    | _, [] => return false
    | some .openParen, _ :: rest =>
      set rest
      if front? rest = some .closeParen then
        take
        return false
      else
        let a ← anyOf fuel
        match (← get) with
        | ")" :: rest =>
          set rest
          return a
        | _ => Action.fail "closing paren expected"
    | some (.unary name), _ :: rest =>
      match rest with
      | word :: rest =>
        set rest
        inspect name word
      | [] => Action.fail (name ++ ": argument expected")
    | _, a :: rest =>
      match front? rest, rest with
      | some (.binary name), _ :: rest =>
        match rest with
        | b :: rest =>
          set rest
          compare a name b
        | [] => Action.fail (name ++ ": argument expected")
      | _, _ =>
        set rest
        return a != ""

end

/-- What words say that are a condition from the first to the last. -/
def whole (words : List String) : Action Bool := do
  let (holds, rest) ← (anyOf (4 * words.length + 4)).run words
  if rest.isEmpty then return holds
  else
    let last := (words.take (words.length - rest.length)).getLast?.getD ""
    Action.fail (last ++ ": unexpected operator")

/-- What the words of a condition say. With three or four words, parentheses around them and a
    negation in front of them come first. -/
def evaluate : Nat → List String → Action Bool
  | 0, _ => return false
  | fuel + 1, words => do
    match words with
    | [] => return false
    | [a, b, c] =>
      if isBinary b then compare a b c
      else if a = "(" && c = ")" then evaluate fuel [b]
      else if a = "!" then return !(← evaluate fuel [b, c])
      else whole words
    | [a, b, c, d] =>
      if a = "(" && d = ")" then evaluate fuel [b, c]
      else if a = "!" then return !(← evaluate fuel [b, c, d])
      else whole words
    | _ => whole words

end Flowchart.Condition
