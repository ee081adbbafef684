import Flowchart.Number.Shortest

set_option autoImplicit false

/-! # Number formats

A number format fixes everything about the text of a finite double beyond its digits: which numbers
are written without an exponent, and how an exponent is written. Numbers without an exponent always
have a digit on both sides of the point. -/

namespace Flowchart

/-- The choices a number format makes. -/
structure NumberFormat where
  /-- The least power of ten of a leading digit that is written without an exponent. -/
  leastPlain : Int
  /-- The greatest power of ten of a leading digit that is written without an exponent. -/
  greatestPlain : Int
  /-- Whether an exponent that is not negative has a plus sign. -/
  exponentPlus : Bool
  tie : TieRule

namespace NumberFormat

/-- Digits around a point, without an exponent. -/
def plain (d : Digits) : List Char :=
  if d.point ≤ 0 then
    ['0', '.'] ++ List.replicate (-d.point).toNat '0' ++ d.digits
  else
    let whole := d.point.toNat
    if d.digits.length ≤ whole then
      d.digits ++ List.replicate (whole - d.digits.length) '0' ++ ['.', '0']
    else d.digits.take whole ++ ['.'] ++ d.digits.drop whole

/-- The decimal numeral of an integer, with a sign if it is negative. -/
def integer (n : Int) : List Char :=
  if n < 0 then '-' :: Nat.toDigits 10 n.natAbs else Nat.toDigits 10 n.natAbs

/-- One digit, the rest after a point, and the exponent. -/
def scientific (f : NumberFormat) (d : Digits) : List Char :=
  let mantissa := match d.digits with
    | [] => []
    | [c] => [c]
    | c :: rest => c :: '.' :: rest
  let power := d.point - 1
  mantissa ++ ['e'] ++ (if f.exponentPlus && 0 ≤ power then ['+'] else []) ++ integer power

/-- The text of a magnitude. -/
def magnitude (f : NumberFormat) (a : Magnitude) : List Char :=
  if a.val = 0 then ['0', '.', '0']
  else
    let d := a.shortest f.tie
    if f.leastPlain ≤ d.point - 1 && d.point - 1 ≤ f.greatestPlain then plain d
    else f.scientific d

/-- The text of a finite double; a minus stands also before a negative zero. -/
def finite (f : NumberFormat) (negative : Bool) (a : Magnitude) : String :=
  String.ofList ((if negative then ['-'] else []) ++ f.magnitude a)

end NumberFormat

end Flowchart
