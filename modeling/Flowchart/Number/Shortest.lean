import Flowchart.Number.Decimal

set_option autoImplicit false

/-! # Shortest digits of a double

The fewest decimal digits that read back as a given magnitude. For 1, 2, … 17 digits the two
neighbours of the exact value on that decimal grid are read back; the first grid with a hit wins,
and of two hits the nearer one, with a rule for exact ties. Seventeen digits suffice for every
double; should no grid have a hit, the exact decimal expansion is taken, so that what is printed
always denotes the number. -/

namespace Flowchart

/-- What to do with a value exactly between two candidates. -/
inductive TieRule where
  | awayFromZero
  | toEven
deriving DecidableEq

/-- A positive number written `0.d₁d₂… * 10 ^ point`, the first and the last digit not zero. -/
structure Digits where
  digits : List Char
  point : Int
deriving DecidableEq

namespace Digits

/-- The digits of `coefficient * 10 ^ exponent`, without trailing zeros. -/
def ofDecimal (coefficient : Nat) (exponent : Int) : Digits :=
  let all := Nat.toDigits 10 coefficient
  { digits := (all.reverse.dropWhile (· == '0')).reverse, point := all.length + exponent }

end Digits

namespace Magnitude

/-- The exact value as a decimal: a power of two with a negative exponent is a power of five over
    a power of ten. -/
def expansion (a : Magnitude) : Nat × Int :=
  if 0 ≤ a.exponent then (a.significand * Nat.pow 2 a.exponent.toNat, 0)
  else (a.significand * Nat.pow 5 (-a.exponent).toNat, a.exponent)

/-- Whether `coefficient * 10 ^ exponent` reads back as this magnitude. -/
def readsBack (a : Magnitude) (coefficient : Nat) (exponent : Int) : Bool :=
  Decimal.toDouble ⟨false, coefficient, exponent⟩ == .finite false a

/-- The exponent `e` with `10 ^ (e - 1) ≤ value < 10 ^ e`, for a value that is not zero. A value
    below one is no power of ten, so counting the digits of its inverse is exact. -/
def decimalOrder (a : Magnitude) : Int :=
  let (n, d) := a.fraction
  if d ≤ n then Decimal.digitCount (n / d)
  else 1 - (Decimal.digitCount (d / n) : Int)

/-- The better of the two neighbours of the value on the grid of multiples of `10 ^ exponent`, if
    one of them reads back. -/
def candidate? (tie : TieRule) (a : Magnitude) (exponent : Int) : Option Nat :=
  let (n, d) := a.fraction
  let top := if 0 ≤ exponent then n else n * Nat.pow 10 (-exponent).toNat
  let bottom := if 0 ≤ exponent then d * Nat.pow 10 exponent.toNat else d
  let low := top / bottom
  let rest := top % bottom * 2
  let preferHigh :=
    if rest < bottom then false
    else if bottom < rest then true
    else match tie with
      | .awayFromZero => true
      | .toEven => low % 2 == 1
  match a.readsBack low exponent, a.readsBack (low + 1) exponent with
  | true, true => some (if preferHigh then low + 1 else low)
  | true, false => some low
  | false, true => some (low + 1)
  | false, false => none

/-- The first hit among the grids with `count`, `count + 1`, … digits. -/
def search (tie : TieRule) (a : Magnitude) (order : Int) : Nat → Nat → Nat × Int
  | _, 0 => a.expansion
  | count, grids + 1 =>
    match a.candidate? tie (order - count) with
    | some c => (c, order - count)
    | none => search tie a order (count + 1) grids

/-- The shortest digits that read back as a magnitude that is not zero. -/
def shortest (tie : TieRule) (a : Magnitude) : Digits :=
  let (coefficient, exponent) := search tie a a.decimalOrder 1 17
  Digits.ofDecimal coefficient exponent

end Magnitude

end Flowchart
