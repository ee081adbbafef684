import Flowchart.Script.Shell

set_option autoImplicit false

/-! # Arithmetic of shell scripts

Expressions over integers of 64 bits. An expression is evaluated while it is read; a part whose
value does not count is read without being evaluated. -/

namespace Flowchart.Arithmetic

/-- A lexical unit of an expression. -/
inductive Token where
  | number (n : Int)
  | name (name : String)
  | sign (text : String)
deriving DecidableEq

/-- The value of a number in 64 bits. -/
def wrap (n : Int) : Int := Int.bmod n (Nat.pow 2 64)

/-- The value that digits have. -/
def digitsValue (base : Nat) (cs : List Char) : Nat :=
  cs.foldl (fun n c =>
    base * n + (if c.isDigit then c.toNat - '0'.toNat else c.toLower.toNat - 'a'.toNat + 10)) 0

/-- The largest number. -/
def largest : Nat := Nat.pow 2 63 - 1

/-- Reads a number of any size: hexadecimal after `0x`, octal after `0`, decimal otherwise. -/
def readNatural (cs : List Char) : Nat × List Char :=
  let digits (base : Nat) (isDigit : Char → Bool) (cs : List Char) : Nat × List Char :=
    let ds := cs.takeWhile isDigit
    (digitsValue base ds, cs.drop ds.length)
  let isHex (c : Char) : Bool := c.isDigit || ('a' ≤ c.toLower && c.toLower ≤ 'f')
  match cs with
  | '0' :: x :: c :: rest =>
    if (x = 'x' || x = 'X') && isHex c then digits 16 isHex (c :: rest)
    else digits 8 (fun c => '0' ≤ c && c ≤ '7') cs
  | '0' :: _ => digits 8 (fun c => '0' ≤ c && c ≤ '7') cs
  | cs => digits 10 Char.isDigit cs

/-- Reads a number; one that is too large becomes the largest one. -/
def readNumber (cs : List Char) : Int × List Char :=
  let (n, rest) := readNatural cs
  (min n largest, rest)

/-- The signs of expressions, longer ones first. -/
def signs : List String :=
  ["<<=", ">>=", "<<", ">>", "<=", ">=", "==", "!=", "&&", "||", "+=", "-=", "*=", "/=", "%=",
    "&=", "^=", "|=", "<", ">", "=", "!", "&", "|", "+", "-", "*", "/", "%", "^", "~", "(", ")",
    "?", ":"]

/-- Reads an expression as tokens; what is no token ends it as the empty sign. -/
def readTokens : Nat → List Char → List Token
  | 0, _ => []
  | _ + 1, [] => []
  | fuel + 1, c :: rest =>
    if c = ' ' || c = '\t' || c = '\n' then readTokens fuel rest
    else if c.isDigit then
      let (n, rest) := readNumber (c :: rest)
      .number n :: readTokens fuel rest
    else if ScriptParameter.beginsName c then
      let name := (c :: rest).takeWhile ScriptParameter.continuesName
      .name (String.ofList name) :: readTokens fuel ((c :: rest).drop name.length)
    else
      match signs.find? (fun sign => sign.toList.isPrefixOf (c :: rest)) with
      | some sign => .sign sign :: readTokens fuel ((c :: rest).drop sign.length)
      | none => [.sign ""]

/-- The rank of a sign between two operands; smaller ranks bind tighter. -/
def rank? : String → Option Nat
  | "*" | "/" | "%" => some 0
  | "+" | "-" => some 1
  | "<<" | ">>" => some 2
  | "<" | "<=" | ">" | ">=" => some 3
  | "==" | "!=" => some 4
  | "&" => some 5
  | "^" => some 6
  | "|" => some 7
  | _ => none

/-- The truth of a condition as a number. -/
def truth (b : Bool) : Int := if b then 1 else 0

/-- The bits of two numbers combined. -/
def bitwise (f : BitVec 64 → BitVec 64 → BitVec 64) (a b : Int) : Int :=
  (f (BitVec.ofInt 64 a) (BitVec.ofInt 64 b)).toInt

/-- The value of an operation; none, if it divides by zero. -/
def result? (sign : String) (a b : Int) : Option Int :=
  match sign with
  | "*" => some (wrap (a * b))
  | "/" => if b = 0 then none else some (wrap (Int.tdiv a b))
  | "%" => if b = 0 then none else some (wrap (Int.tmod a b))
  | "+" => some (wrap (a + b))
  | "-" => some (wrap (a - b))
  | "<<" => some (bitwise (fun x y => x <<< (y.toNat % 64)) a b)
  | ">>" => some (bitwise (fun x y => x.sshiftRight (y.toNat % 64)) a b)
  | "<" => some (truth (a < b))
  | "<=" => some (truth (a ≤ b))
  | ">" => some (truth (a > b))
  | ">=" => some (truth (a ≥ b))
  | "==" => some (truth (a = b))
  | "!=" => some (truth (a ≠ b))
  | "&" => some (bitwise (· &&& ·) a b)
  | "^" => some (bitwise (· ^^^ ·) a b)
  | "|" => some (bitwise (· ||| ·) a b)
  | _ => some b

/-- The operation of a sign that also assigns. -/
def compound? (sign : String) : Option String :=
  match sign with
  | "*=" | "/=" | "%=" | "+=" | "-=" | "<<=" | ">>=" | "&=" | "^=" | "|=" =>
    some (sign.dropEnd 1).copy
  | _ => none

/-- An evaluation: the tokens that are left change on the way. -/
abbrev Evaluation := StateT (List Token) Action

/-- Refuses an expression. -/
def fail {α : Type} (text message : String) : Action α :=
  Action.fail ("arithmetic expression: " ++ message ++ ": \"" ++ text ++ "\"")

/-- The number that a variable holds. -/
def valueOf (name : String) : Action Int := do
  let s ← get
  match s.valueOf? name with
  | none => return 0
  | some text =>
    let cs := text.toList.dropWhile (fun c => c = ' ' || ('\t' ≤ c && c ≤ '\r'))
    let (negative, digits) := match cs with
      | '-' :: rest => (true, rest)
      | '+' :: rest => (false, rest)
      | cs => (false, cs)
    let (n, rest) := readNumber digits
    let isNumber := (digits.head?.map Char.isDigit).getD false
    if cs.isEmpty then return 0
    else if isNumber && rest.all (fun c => c = ' ' || ('\t' ≤ c && c ≤ '\r')) then
      return if negative then -n else n
    else Action.fail ("Illegal number: " ++ text)

mutual

/-- An operand. -/
def primary (text : String) : Nat → Bool → Evaluation Int
  | 0, _ => fail text "expecting primary"
  | fuel + 1, live => do
    match (← get) with
    | .number n :: rest =>
      set rest
      return n
    | .name name :: rest =>
      set rest
      if live then valueOf name else return 0
    | .sign sign :: rest =>
      set rest
      match sign with
      | "(" =>
        let n ← assignment text fuel live
        match (← get) with
        | .sign ")" :: rest =>
          set rest
          return n
        | _ => fail text "expecting ')'"
      | "+" => primary text fuel live
      | "-" => return wrap (-(← primary text fuel live))
      | "!" => return truth ((← primary text fuel live) = 0)
      | "~" => return wrap (-(← primary text fuel live) - 1)
      | _ => fail text "expecting primary"
    | [] => fail text "expecting primary"

/-- An operand with the operations after it that bind tighter than a rank. -/
def operations (text : String) : Nat → Bool → Nat → Int → Evaluation Int
  | 0, _, _, _ => fail text "expecting primary"
  | fuel + 1, live, limit, a => do
    match (← get) with
    | .sign sign :: rest =>
      match rank? sign with
      | some rank =>
        if rank < limit then
          set rest
          let b ← operations text fuel live rank (← primary text fuel live)
          match (if live then result? sign a b else some b) with
          | some n => operations text fuel live limit n
          | none => fail text "division by zero"
        else return a
      | none => return a
    | _ => return a

/-- Operands of which all have to be true. -/
def conjunction (text : String) : Nat → Bool → Evaluation Int
  | 0, _ => fail text "expecting primary"
  | fuel + 1, live => do
    let a ← operations text fuel live 8 (← primary text fuel live)
    match (← get) with
    | .sign "&&" :: rest =>
      set rest
      let b ← conjunction text fuel (live && a ≠ 0)
      return truth (a ≠ 0 && b ≠ 0)
    | _ => return a

/-- Operands of which one has to be true. -/
def disjunction (text : String) : Nat → Bool → Evaluation Int
  | 0, _ => fail text "expecting primary"
  | fuel + 1, live => do
    let a ← conjunction text fuel live
    match (← get) with
    | .sign "||" :: rest =>
      set rest
      let b ← disjunction text fuel (live && a = 0)
      return truth (a ≠ 0 || b ≠ 0)
    | _ => return a

/-- A choice between two values. -/
def choice (text : String) : Nat → Bool → Evaluation Int
  | 0, _ => fail text "expecting primary"
  | fuel + 1, live => do
    let a ← disjunction text fuel live
    match (← get) with
    | .sign "?" :: rest =>
      set rest
      let b ← assignment text fuel (live && a ≠ 0)
      match (← get) with
      | .sign ":" :: rest =>
        set rest
        let c ← choice text fuel (live && a = 0)
        return if a ≠ 0 then b else c
      | _ => fail text "expecting ':'"
    | _ => return a

/-- An expression that may assign its value. -/
def assignment (text : String) : Nat → Bool → Evaluation Int
  | 0, _ => fail text "expecting primary"
  | fuel + 1, live => do
    match (← get) with
    | .name name :: .sign sign :: rest =>
      if sign = "=" || (compound? sign).isSome then
        set rest
        let b ← assignment text fuel live
        if live then
          let n ← match compound? sign with
            | none => pure b
            | some sign => do
              match result? sign (← valueOf name) b with
              | some n => pure n
              | none => fail text "division by zero"
          Action.assign name (toString n)
          return n
        else return b
      else choice text fuel live
    | _ => choice text fuel live

end

/-- The value of an expression. -/
def evaluate (text : String) : Action Int := do
  let tokens := readTokens (text.length + 1) text.toList
  let (n, rest) ← (assignment text (12 * tokens.length + 12) true).run tokens
  if rest.isEmpty then return n else fail text "expecting EOF"

end Flowchart.Arithmetic
