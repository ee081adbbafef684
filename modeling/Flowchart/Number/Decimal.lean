import Flowchart.Number.Double

set_option autoImplicit false

/-! # Decimal numerals

A decimal is a sign, a natural number and a power of ten. `Decimal.toDouble` is its nearest double,
`Decimal.read?` the reading of a numeral with optional point and exponent, and `Double.read?` adds
the words for infinity and NaN. -/

namespace Flowchart

/-- The number `± coefficient * 10 ^ exponent`. -/
structure Decimal where
  negative : Bool
  coefficient : Nat
  exponent : Int
deriving DecidableEq

namespace Decimal

/-- How many decimal digits a natural number has. -/
def digitCount (n : Nat) : Nat := (Nat.toDigits 10 n).length

/-- The nearest double, ties to even. Decimals that are certainly out of range are decided by their
    order of magnitude, so that no power of ten with a huge exponent is ever formed. -/
def toDouble (d : Decimal) : Double :=
  let order : Int := digitCount d.coefficient + d.exponent
  if d.coefficient = 0 || order < -330 then .finite d.negative Magnitude.zero
  else if 330 < order then .infinite d.negative
  else if 0 ≤ d.exponent then
    Double.nearest d.negative (d.coefficient * Nat.pow 10 d.exponent.toNat) 1
  else Double.nearest d.negative d.coefficient (Nat.pow 10 (-d.exponent).toNat)

/-! ## Reading -/

/-- The value of a decimal digit. -/
def digitValue (c : Char) : Nat := c.toNat - '0'.toNat

/-- The natural number written by a list of digits. -/
def ofDigits (ds : List Char) : Nat :=
  ds.foldl (fun n c => 10 * n + digitValue c) 0

/-- An optional sign and what follows it; `true` stands for minus. -/
def readSign : List Char → Bool × List Char
  | '-' :: rest => (true, rest)
  | '+' :: rest => (false, rest)
  | cs => (false, cs)

/-- The power of ten after the digits: nothing, or `e` with an optional sign and some digits. -/
def readExponent? : List Char → Option Int
  | [] => some 0
  | c :: rest =>
    if c = 'e' || c = 'E' then
      let (negative, digits) := readSign rest
      if digits.isEmpty || !digits.all Char.isDigit then none
      else some (if negative then -(ofDigits digits : Int) else ofDigits digits)
    else none

/-- Splits off a point with the digits after it. -/
def readFraction : List Char → List Char × List Char
  | '.' :: rest => (rest.takeWhile Char.isDigit, rest.dropWhile Char.isDigit)
  | cs => ([], cs)

/-- An unsigned numeral: digits with at most one point, at least one digit in all, and an optional
    exponent. -/
def readUnsigned? (negative : Bool) (cs : List Char) : Option Decimal :=
  let whole := cs.takeWhile Char.isDigit
  let (fraction, rest) := readFraction (cs.dropWhile Char.isDigit)
  if whole.isEmpty && fraction.isEmpty then none
  else (readExponent? rest).map fun e =>
    { negative, coefficient := ofDigits (whole ++ fraction), exponent := e - fraction.length }

/-- A numeral with an optional sign. -/
def read? (cs : List Char) : Option Decimal :=
  let (negative, rest) := readSign cs
  readUnsigned? negative rest

end Decimal

namespace Double

/-- Reads a numeral, or one of the words `inf`, `infinity` and `nan` in any case, with an optional
    sign. Nothing else may stand in the text, blanks included. -/
def read? (s : String) : Option Double :=
  let (negative, rest) := Decimal.readSign s.toList
  let word := rest.map Char.toLower
  if word = "inf".toList || word = "infinity".toList then some (.infinite negative)
  else if word = "nan".toList then some .nan
  else (Decimal.readUnsigned? negative rest).map Decimal.toDouble

end Double

end Flowchart
