import Flowchart.Number.Shortest

set_option autoImplicit false

/-! # Numbers with a point in scripts

How `printf` reads a number that may have a point, and how it shows one: with a fixed number of
decimal places, with one digit in front of the point and an exponent, or in the shorter of the two
ways. All digits are those of the exact value, rounded once. -/

namespace Flowchart.Floating

/-! ## Reading -/

/-- The digits at the front of some characters, and what follows them. -/
def takeDigits (cs : List Char) : List Char × List Char :=
  let ds := cs.takeWhile Char.isDigit
  (ds, cs.drop ds.length)

/-- The exponent at the front of some characters, if there is one, and what follows it. -/
def takeExponent (cs : List Char) : List Char × List Char :=
  match cs with
  | c :: rest =>
    if c = 'e' || c = 'E' then
      let (sign, rest) := match rest with
        | '-' :: rest => (['-'], rest)
        | '+' :: rest => (['+'], rest)
        | rest => ([], rest)
      let (ds, rest) := takeDigits rest
      if ds.isEmpty then ([], cs) else ('e' :: sign ++ ds, rest)
    else ([], cs)
  | [] => ([], [])

/-- The numeral at the front of some characters, and what follows it. -/
def takeNumeral (cs : List Char) : List Char × List Char :=
  let (whole, rest) := takeDigits cs
  let (fraction, rest) := match rest with
    | '.' :: after =>
      let (ds, after) := takeDigits after
      if whole.isEmpty && ds.isEmpty then ([], rest) else ('.' :: ds, after)
    | rest => ([], rest)
  let mantissa := whole ++ fraction
  if mantissa.isEmpty then ([], cs)
  else
    let (exponent, rest) := takeExponent rest
    (mantissa ++ exponent, rest)

/-- The words for numbers that no numeral stands for. -/
def words : List String := ["infinity", "inf", "nan"]

/-- The number at the front of some characters without a sign, and what follows it. -/
def read? (cs : List Char) : Option (Double × List Char) :=
  let lower := cs.map Char.toLower
  let (text, rest) := match words.find? fun word => word.toList.isPrefixOf lower with
    | some word => (word.toList, cs.drop word.length)
    | none => takeNumeral cs
  (Double.read? (String.ofList text)).map fun d => (d, rest)

/-- Whether a number has become infinite or zero although its text is that of another one. -/
def isOutOfRange (text : List Char) (d : Double) : Bool :=
  let (numeral, _) := takeNumeral text
  match d with
  | .infinite _ => !numeral.isEmpty
  | .finite _ a =>
    a.val == 0 && (numeral.takeWhile (· ≠ 'e')).any fun c => c.isDigit && c ≠ '0'
  | .nan => false

/-! ## Showing -/

/-- Digits with a point in front of the last of them. -/
def withPoint (places : Nat) (always : Bool) (ds : List Char) : List Char :=
  let ds := List.replicate (places + 1 - ds.length) '0' ++ ds
  let whole := ds.take (ds.length - places)
  let fraction := ds.drop whole.length
  if fraction.isEmpty && !always then whole else whole ++ '.' :: fraction

/-- A magnitude as a multiple of a power of ten, rounded to an integer. -/
def scaled (a : Magnitude) (exponent : Int) : Nat :=
  let (n, d) := a.fraction
  if 0 ≤ exponent then roundQuotient n (d * Nat.pow 10 exponent.toNat)
  else roundQuotient (n * Nat.pow 10 (-exponent).toNat) d

/-- A magnitude with a fixed number of decimal places. -/
def fixed (places : Nat) (always : Bool) (a : Magnitude) : List Char :=
  withPoint places always (Nat.toDigits 10 (scaled a (-places)))

/-- The digits of a magnitude as an integer with the given number of digits after the first, and the
    power of ten of the first. Rounding up can lead to one digit more, which is a zero. -/
def leading (places : Nat) (a : Magnitude) : Nat × Int :=
  if a.val = 0 then (0, 0)
  else
    let order := a.decimalOrder - 1
    let n := scaled a (order - places)
    if n < Nat.pow 10 (places + 1) then (n, order) else (n / 10, order + 1)

/-- An exponent, of at least two digits. -/
def exponent (e : Int) : List Char :=
  let ds := Nat.toDigits 10 e.natAbs
  (if e < 0 then '-' else '+') :: List.replicate (2 - ds.length) '0' ++ ds

/-- A magnitude with one digit in front of the point. -/
def scientific (places : Nat) (always : Bool) (a : Magnitude) : List Char :=
  let (n, e) := leading places a
  withPoint places always (Nat.toDigits 10 n) ++ 'e' :: exponent e

/-- A text without the zeros that end its decimal places. -/
def trimZeros (cs : List Char) : List Char :=
  let (mantissa, rest) := (cs.takeWhile (· ≠ 'e'), cs.dropWhile (· ≠ 'e'))
  if mantissa.contains '.' then
    let kept := mantissa.reverse.dropWhile (· = '0')
    (match kept with
      | '.' :: whole => whole
      | kept => kept).reverse ++ rest
  else cs

/-- A magnitude with a number of digits, in the shorter way. -/
def general (digits : Nat) (always : Bool) (a : Magnitude) : List Char :=
  let places := digits - 1
  let (_, e) := leading places a
  let text := if -4 ≤ e && e ≤ places then fixed (places - e).toNat always a
    else scientific places always a
  if always then text else trimZeros text

/-- A number without its sign in the way that a letter asks for. -/
def format (letter : Char) (precision : Nat) (always : Bool) (d : Double) : List Char :=
  let text := match d with
    | .nan => "nan".toList
    | .infinite _ => "inf".toList
    | .finite _ a =>
      match letter.toLower with
      | 'f' => fixed precision always a
      | 'e' => scientific precision always a
      | _ => general (max precision 1) always a
  if letter.isUpper then text.map Char.toUpper else text

end Flowchart.Floating
