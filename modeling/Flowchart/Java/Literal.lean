import Flowchart.Number.Format
import Flowchart.Text.Blank

set_option autoImplicit false

/-! # Java literals

The texts of numbers and strings in generated sources. -/

namespace Flowchart.Java

/-- Doubles from `1e-4` up to `1e16` are written without an exponent, an exponent has no plus sign,
    and a tie goes away from zero. -/
def numberFormat : NumberFormat :=
  { leastPlain := -4, greatestPlain := 15, exponentPlus := false, tie := .awayFromZero }

/-- A `double` literal; NaN and the infinities are named by the constants of `Double`. -/
def numberLiteral : Double → String
  | .nan => "Double.NaN"
  | .infinite false => "Double.POSITIVE_INFINITY"
  | .infinite true => "Double.NEGATIVE_INFINITY"
  | .finite negative a => numberFormat.finite negative a

/-- The last four hexadecimal digits of a number. -/
def fourHexDigits (n : Nat) : List Char :=
  [Nat.digitChar (n / 4096 % 16), Nat.digitChar (n / 256 % 16), Nat.digitChar (n / 16 % 16),
    Nat.digitChar (n % 16)]

/-- A character inside a string literal. Quotes, backslashes and control characters are escaped, so
    a literal never contains a line break. -/
def escape (c : Char) : List Char :=
  match c with
  | '"' => ['\\', '"']
  | '\\' => ['\\', '\\']
  | '\n' => ['\\', 'n']
  | '\r' => ['\\', 'r']
  | '\t' => ['\\', 't']
  | c => if Text.isControl c then '\\' :: 'u' :: fourHexDigits c.toNat else [c]

/-- A quoted string literal. -/
def stringLiteral (s : String) : String :=
  String.ofList ('"' :: s.toList.flatMap escape ++ ['"'])

/-- A `boolean` literal. -/
def booleanLiteral (b : Bool) : String := if b then "true" else "false"

end Flowchart.Java
