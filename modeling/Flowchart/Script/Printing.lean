import Flowchart.Script.Arithmetic
import Flowchart.Script.Floating

set_option autoImplicit false

/-! # What `echo` and `printf` print

Both print a text with escapes; `printf` also fills its arguments in where the text has directives.
Text is handled byte by byte, each byte as the character with its number. -/

namespace Flowchart.Printing

/-! ## Escapes -/

/-- The value of an octal digit. -/
def octalDigit? (c : Char) : Option Nat :=
  if '0' ≤ c && c ≤ '7' then some (c.toNat - '0'.toNat) else none

/-- Reads at most some octal digits as a byte. -/
def readOctal : Nat → Nat → List Char → Char × List Char
  | 0, value, cs => (Char.ofNat (value % 256), cs)
  | count + 1, value, cs =>
    match cs with
    | c :: rest =>
      match octalDigit? c with
      | some d => readOctal count (8 * value + d) rest
      | none => (Char.ofNat (value % 256), cs)
    | [] => (Char.ofNat (value % 256), [])

/-- The character that a letter after a backslash stands for. -/
def escapeLetter? : Char → Option Char
  | 'a' => some '\x07'
  | 'b' => some '\x08'
  | 'e' => some '\x1b'
  | 'f' => some '\x0c'
  | 'n' => some '\n'
  | 'r' => some '\r'
  | 't' => some '\t'
  | 'v' => some '\x0b'
  | '\\' => some '\\'
  | _ => none

/-- What follows a backslash as one character, and the rest; a backslash that begins no escape
    stands for itself. -/
def escaped (cs : List Char) : Char × List Char :=
  match cs with
  | c :: rest =>
    match octalDigit? c with
    | some _ => readOctal 3 0 cs
    | none =>
      match escapeLetter? c with
      | some e => (e, rest)
      | none => ('\\', cs)
  | [] => ('\\', [])

/-- A text with its escapes replaced, and whether it ends the printing. A zero may have three more
    octal digits after it, and the letter `c` ends the text. -/
def unescape : Nat → List Char → List Char × Bool
  | 0, _ => ([], false)
  | _ + 1, [] => ([], false)
  | fuel + 1, c :: rest =>
    let add (c : Char) (rest : List Char) :=
      let (after, ended) := unescape fuel rest
      (c :: after, ended)
    if c ≠ '\\' then add c rest
    else
      match rest with
      | 'c' :: _ => ([], true)
      | '0' :: rest =>
        let (c, rest) := readOctal 3 0 rest
        add c rest
      | rest =>
        let (c, rest) := escaped rest
        add c rest

/-- What `echo` prints. -/
def echoed (arguments : List String) : List Char :=
  let (lineEnd, words) := match arguments with
    | "-n" :: words => (false, words)
    | words => (true, words)
  let cs := (String.intercalate " " words).toList
  let (text, ended) := unescape (cs.length + 1) cs
  if lineEnd && !ended then text ++ ['\n'] else text

/-! ## Directives -/

/-- How an argument is filled in. -/
structure Layout where
  flags : List Char := []
  width : Nat := 0
  precision : Option Nat := none
deriving DecidableEq

/-- A text at least as wide as the layout asks for. -/
def Layout.pad (l : Layout) (cs : List Char) : List Char :=
  let blanks := List.replicate (l.width - cs.length) ' '
  if l.flags.contains '-' then cs ++ blanks else blanks ++ cs

/-- A text that may be cut. -/
def Layout.ofText (l : Layout) (cs : List Char) : List Char :=
  l.pad (match l.precision with
    | some n => cs.take n
    | none => cs)

/-- The digits of a number. -/
def digits (base : Nat) (upper : Bool) (n : Nat) : List Char :=
  (Nat.toDigits base n).map fun c => if upper then c.toUpper else c

/-- A number with a sign or mark in front of it. -/
def Layout.ofNumber (l : Layout) (mark : List Char) (ds : List Char) : List Char :=
  let ds := match l.precision with
    | some n => List.replicate (n - ds.length) '0' ++ ds
    | none =>
      if l.flags.contains '0' && !l.flags.contains '-' then
        List.replicate (l.width - mark.length - ds.length) '0' ++ ds
      else ds
  l.pad (mark ++ ds)

/-- The sign in front of a number. -/
def Layout.sign (l : Layout) (negative : Bool) : List Char :=
  if negative then ['-'] else if l.flags.contains '+' then ['+']
  else if l.flags.contains ' ' then [' '] else []

/-- A signed number. -/
def Layout.ofInt (l : Layout) (n : Int) : List Char :=
  l.ofNumber (l.sign (n < 0)) (digits 10 false n.natAbs)

/-- A number that may have a point. -/
def Layout.ofDouble (l : Layout) (letter : Char) (negative : Bool) (d : Double) : List Char :=
  let precision := l.precision.getD 6
  let text := Floating.format letter precision (l.flags.contains '#') d
  let flags := if d.isFinite then l.flags else l.flags.filter (· ≠ '0')
  { l with flags, precision := none : Layout }.ofNumber (l.sign negative) text

/-- An unsigned number of 64 bits. -/
def Layout.ofUnsigned (l : Layout) (conversion : Char) (n : Int) : List Char :=
  let value := (BitVec.ofInt 64 n).toNat
  let marked := l.flags.contains '#'
  match conversion with
  | 'o' =>
    let ds := digits 8 false value
    l.ofNumber [] (if marked && value ≠ 0 then '0' :: ds else ds)
  | 'x' => l.ofNumber (if marked && value ≠ 0 then ['0', 'x'] else []) (digits 16 false value)
  | 'X' => l.ofNumber (if marked && value ≠ 0 then ['0', 'X'] else []) (digits 16 true value)
  | _ => l.ofNumber [] (digits 10 false value)

/-! ## Formats -/

/-- What has been printed, and the arguments that are left. -/
structure State where
  reversed : List Char := []
  arguments : List String
  taken : Bool := false
  ended : Bool := false

/-- Printing a format. -/
abbrev Output := StateT State Action

/-- Prints characters. -/
def put (cs : List Char) : Output Unit :=
  modify fun p => { p with reversed := cs.reverse ++ p.reversed }

/-- Takes the next argument; none is left if it is missing. -/
def take? : Output (Option String) := do
  let p ← get
  match p.arguments with
  | a :: rest =>
    set { p with arguments := rest, taken := true }
    return some a
  | [] => return none

/-- Reports an argument that is no number; the printing goes on. -/
def complain (argument message : String) : Output Unit := do
  Action.complain (argument ++ ": " ++ message)
  Action.setStatus 1

/-- Reports what is left of an argument after its number, if anything is. -/
def checkRest (argument : String) (rest : List Char) : Output Unit :=
  if rest.isEmpty then return () else complain argument "not completely converted"

/-- A number out of range has been replaced by the last one in it. -/
def checkRange (argument : String) (isOutside : Bool) : Output Unit :=
  if isOutside then complain argument "Numerical result out of range" else return ()

/-- The characters after blanks and a sign, and whether that is a minus. -/
def withoutSign (cs : List Char) : Bool × List Char :=
  match cs.dropWhile (fun c => c = ' ' || ('\t' ≤ c && c ≤ '\r')) with
  | '-' :: rest => (true, rest)
  | '+' :: rest => (false, rest)
  | rest => (false, rest)

/-- The number of the character after a quote, if an argument begins with one. -/
def quotedChar? (argument : String) : Option Nat :=
  match argument.toList with
  | '\x27' :: rest | '\x22' :: rest => some ((rest.head?.map Char.toNat).getD 0)
  | _ => none

/-- The next argument as an integer. After a quote it is that of a character. -/
def takeNumber (signed : Bool) : Output Int := do
  let argument := (← take?).getD ""
  match quotedChar? argument with
  | some n => return (n : Int)
  | none =>
    let (negative, unsigned) := withoutSign argument.toList
    if !((unsigned.head?.map Char.isDigit).getD false) then
      if argument ≠ "" then complain argument "expected numeric value"
      return 0
    else
      let (n, rest) := Arithmetic.readNatural unsigned
      let greatest := if !signed then Nat.pow 2 64 - 1
        else if negative then Arithmetic.largest + 1 else Arithmetic.largest
      checkRest argument rest
      if rest.isEmpty then checkRange argument (greatest < n)
      let value : Int := min n greatest
      return if negative && (signed || n ≤ greatest) then -value else value

/-- The next argument as a number that may have a point, and whether it has a minus. -/
def takeDouble : Output (Bool × Double) := do
  let argument := (← take?).getD ""
  match quotedChar? argument with
  | some n => return (false, Double.ofInt n)
  | none =>
    let (negative, unsigned) := withoutSign argument.toList
    match Floating.read? unsigned with
    | none =>
      if argument ≠ "" then complain argument "expected numeric value"
      return (false, Double.zero)
    | some (d, rest) =>
      checkRest argument rest
      if rest.isEmpty then checkRange argument (Floating.isOutOfRange unsigned d)
      return (negative, d)

/-- Reads a number in a format, or takes it from the arguments. -/
def readCount (cs : List Char) : Output (Option Int × List Char) := do
  match cs with
  | '*' :: rest => return (some (← takeNumber true), rest)
  | cs =>
    let ds := cs.takeWhile Char.isDigit
    let n : Int := Arithmetic.digitsValue 10 ds
    return (if ds.isEmpty then none else some n, cs.drop ds.length)

/-- Reads the precision in a format, if there is one. -/
def readPrecision (cs : List Char) : Output (Option Nat × List Char) := do
  match cs with
  | '.' :: rest =>
    let (n, rest) ← readCount rest
    return (some ((n.getD 0).toNat), rest)
  | rest => return (none, rest)

/-- Prints the next argument in the way that a letter asks for. The directive is named if there is
    no such way. -/
def convert (layout : Layout) (letter : Char) (directive : List Char) : Output Unit := do
  match letter with
  | 's' => put (layout.ofText ((← take?).getD "").toList)
  | 'b' =>
    let argument := ((← take?).getD "").toList
    let (text, ended) := unescape (argument.length + 1) argument
    put (layout.ofText text)
    if ended then modify fun p => { p with ended := true }
  | 'c' =>
    let argument := ((← take?).getD "").toList
    put (layout.pad [argument.headD (Char.ofNat 0)])
  | 'd' | 'i' => put (layout.ofInt (← takeNumber true))
  | 'o' | 'u' | 'x' | 'X' => put (layout.ofUnsigned letter (← takeNumber false))
  | 'e' | 'E' | 'f' | 'F' | 'g' | 'G' =>
    let (negative, d) ← takeDouble
    put (layout.ofDouble letter negative d)
  | _ => Action.fail (String.ofList directive ++ ": invalid directive")

/-- Fills an argument in after a percent sign; the result is the rest of the format. -/
def fill (cs : List Char) : Output (List Char) := do
  let flags := cs.takeWhile (['#', '-', '+', ' ', '0'].contains ·)
  let (width, rest) ← readCount (cs.drop flags.length)
  let (precision, rest) ← readPrecision rest
  let width := width.getD 0
  let flags := if width < 0 then '-' :: flags else flags
  match rest with
  | [] => Action.fail "missing format character"
  | letter :: after =>
    convert { flags, width := width.natAbs, precision } letter
      ('%' :: cs.take (cs.length - after.length))
    return after

/-- Prints a format once. -/
def once : Nat → List Char → Output Unit
  | 0, _ => return ()
  | _ + 1, [] => return ()
  | fuel + 1, c :: rest => do
    if (← get).ended then return ()
    else if c = '\\' then
      let (c, rest) := escaped rest
      put [c]
      once fuel rest
    else if c = '%' then
      match rest with
      | '%' :: rest =>
        put ['%']
        once fuel rest
      | rest => once fuel (← fill rest)
    else
      put [c]
      once fuel rest

/-- Prints a format again as long as it takes arguments and some are left. -/
def again (format : List Char) : Nat → Output Unit
  | 0 => return ()
  | fuel + 1 => do
    modify fun p => { p with taken := false }
    once (format.length + 1) format
    let p ← get
    if p.ended || !p.taken || p.arguments.isEmpty then return () else again format fuel

end Flowchart.Printing
