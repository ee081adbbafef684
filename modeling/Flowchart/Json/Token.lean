import Flowchart.Json.Value
import Flowchart.Uuid

set_option autoImplicit false

/-! # Tokens of JSON texts

A JSON text is cut into brackets, commas, colons and scalars by a machine that looks at one
character at a time. A string whose escapes leave a surrogate without its partner, and a number
beyond the double range, are tokens that keep no content: where a value is skipped they do no harm,
where it is used they cannot be. -/

namespace Flowchart

/-- A lexical unit of a JSON text. -/
inductive JsonToken where
  | openArray
  | closeArray
  | openObject
  | closeObject
  | comma
  | colon
  | null
  | bool (b : Bool)
  | number (content : Option JsonNumber)
  | text (content : Option String)

namespace JsonToken

/-! ## Numbers and words -/

/-- The number an integer numeral stands for: integers from `-2 ^ 63` to `2 ^ 64 - 1` stay
    integers, and negative zero and larger integers are doubles. -/
def integer (negative : Bool) (n : Nat) : JsonNumber :=
  if negative then
    if n = 0 || 9223372036854775808 < n then .double (Decimal.toDouble ⟨true, n, 0⟩)
    else .integer (-(n : Int))
  else if n < 18446744073709551616 then .integer n
  else .double (Decimal.toDouble ⟨false, n, 0⟩)

/-- A number that lies in the range of the finite doubles. -/
def inRange : JsonNumber → Option JsonNumber
  | .double d => if d.isFinite then some (.double d) else none
  | n => some n

/-- Reads a numeral: an optional minus, digits without a superfluous leading zero, an optional
    point with digits, an optional exponent. The exact value of a numeral with a point or an
    exponent is rounded once, to the nearest double, ties to the even one, however many digits it
    has. A reader that drops digits beyond 64 bits, or multiplies by rounded powers of ten, agrees
    with this for short numerals and may end in a neighbouring double for long ones. -/
def readNumber? (cs : List Char) : Option JsonToken :=
  let (negative, body) := match cs with
    | '-' :: rest => (true, rest)
    | cs => (false, cs)
  let whole := body.takeWhile Char.isDigit
  let tail := body.dropWhile Char.isDigit
  if whole.isEmpty || (whole.head? == some '0' && whole.length != 1) then none
  else if tail.isEmpty then some (.number (inRange (integer negative (Decimal.ofDigits whole))))
  else
    let (fraction, rest) := Decimal.readFraction tail
    if tail.head? == some '.' && fraction.isEmpty then none
    else (Decimal.readExponent? rest).map fun e =>
      let d : Decimal :=
        { negative, coefficient := Decimal.ofDigits (whole ++ fraction)
          exponent := e - fraction.length }
      .number (inRange (.double d.toDouble))

/-- The token of a run of letters, digits, signs and points. -/
def ofWord? (cs : List Char) : Option JsonToken :=
  if cs = "null".toList then some .null
  else if cs = "true".toList then some (.bool true)
  else if cs = "false".toList then some (.bool false)
  else readNumber? cs

/-! ## Strings -/

/-- The part of a string that has been read: its characters in reverse, a leading surrogate that
    waits for its partner, and whether all surrogates so far had one. -/
structure PartialText where
  reversed : List Char := []
  pending : Option Nat := none
  paired : Bool := true

namespace PartialText

/-- Adds a character. -/
def push (t : PartialText) (c : Char) : PartialText :=
  { reversed := c :: t.reversed, pending := none, paired := t.paired && t.pending.isNone }

/-- Adds a 16-bit unit given by an escape. -/
def pushUnit (t : PartialText) (n : Nat) : PartialText :=
  match t.pending with
  | some high =>
    if 0xDC00 ≤ n && n ≤ 0xDFFF then
      { t with
        reversed := Char.ofNat (0x10000 + (high - 0xD800) * 0x400 + (n - 0xDC00)) :: t.reversed
        pending := none }
    else { t with pending := none, paired := false }
  | none =>
    if 0xD800 ≤ n && n ≤ 0xDBFF then { t with pending := some n }
    else if 0xDC00 ≤ n && n ≤ 0xDFFF then { t with paired := false }
    else t.push (Char.ofNat n)

/-- The text, unless a surrogate stands alone. -/
def content (t : PartialText) : Option String :=
  if t.paired && t.pending.isNone then some (String.ofList t.reversed.reverse) else none

end PartialText

/-! ## The machine -/

/-- Where the machine stands. -/
inductive Scan where
  | between
  | word (reversed : List Char)
  | text (t : PartialText)
  | escape (t : PartialText)
  | code (t : PartialText) (digitsLeft : Nat) (value : Nat)

/-- A character that can belong to a number or a word. -/
def isWordChar (c : Char) : Bool :=
  c.isAlphanum || c == '+' || c == '-' || c == '.'

/-- What a character outside of words and strings does. -/
def scanBetween (c : Char) : Option (List JsonToken × Scan) :=
  match c with
  | ' ' | '\t' | '\n' | '\r' => some ([], .between)
  | '[' => some ([.openArray], .between)
  | ']' => some ([.closeArray], .between)
  | '\x7b' => some ([.openObject], .between)
  | '\x7d' => some ([.closeObject], .between)
  | ',' => some ([.comma], .between)
  | ':' => some ([.colon], .between)
  | '"' => some ([], .text {})
  | c => if isWordChar c then some ([], .word [c]) else none

/-- The character that stands for a one-letter escape. -/
def escaped? (c : Char) : Option Char :=
  match c with
  | '"' => some '"'
  | '\\' => some '\\'
  | '/' => some '/'
  | 'b' => some (Char.ofNat 8)
  | 'f' => some (Char.ofNat 12)
  | 'n' => some '\n'
  | 'r' => some '\r'
  | 't' => some '\t'
  | _ => none

/-- One step of the machine, with the tokens it completes. -/
def scan : Scan → Char → Option (List JsonToken × Scan)
  | .between, c => scanBetween c
  | .word reversed, c =>
    if isWordChar c then some ([], .word (c :: reversed))
    else do
      let token ← ofWord? reversed.reverse
      let (tokens, next) ← scanBetween c
      return (token :: tokens, next)
  | .text t, c =>
    if c = '"' then some ([.text t.content], .between)
    else if c = '\\' then some ([], .escape t)
    else if c.toNat < 0x20 then none
    else some ([], .text (t.push c))
  | .escape t, c =>
    if c = 'u' then some ([], .code t 4 0)
    else (escaped? c).map fun c => ([], .text (t.push c))
  | .code t digitsLeft value, c =>
    (Uuid.hexValue? c).map fun digit =>
      let value := 16 * value + digit
      if digitsLeft ≤ 1 then ([], .text (t.pushUnit value))
      else ([], .code t (digitsLeft - 1) value)

/-- The tokens in reverse after the last character. -/
def finish (reversed : List JsonToken) : Scan → Option (List JsonToken)
  | .between => some reversed
  | .word cs => (ofWord? cs.reverse).map (· :: reversed)
  | _ => none

/-- Runs the machine; `reversed` holds the tokens completed so far. -/
def tokenizeFrom (reversed : List JsonToken) (s : Scan) : List Char → Option (List JsonToken)
  | [] => finish reversed s
  | c :: rest =>
    match scan s c with
    | none => none
    | some (tokens, next) => tokenizeFrom (tokens.reverse ++ reversed) next rest

/-- The tokens of a text, or nothing if some part of it is no token. -/
def tokenize (s : String) : Option (List JsonToken) :=
  (tokenizeFrom [] .between s.toList).map List.reverse

end JsonToken

end Flowchart
