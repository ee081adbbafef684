import Flowchart.OrderedMap
import Flowchart.Number.Format

set_option autoImplicit false

/-! # JSON values

Values as a project file may hold them, with integers kept apart from doubles, and their compact
text: no spaces, members by ascending name, the least escaping. -/

namespace Flowchart

/-- A number is a 64-bit integer or a double. -/
inductive JsonNumber where
  | integer (n : Int)
  | double (d : Double)
deriving DecidableEq

/-- A JSON value; the members of an object are listed by ascending name. -/
inductive Json where
  | null
  | bool (b : Bool)
  | number (n : JsonNumber)
  | string (s : String)
  | array (elements : List Json)
  | object (members : List (String × Json))
deriving Inhabited

/-- The nearest double. -/
def JsonNumber.toDouble : JsonNumber → Double
  | .integer n => Double.ofInt n
  | .double d => d

namespace Json

/-- The object with the given members; of members with the same name the last one counts. -/
def ofMembers (members : List (String × Json)) : Json :=
  .object (collectBindings textLt members)

/-- The number value of a double; NaN and the infinities have none and become null. -/
def ofDouble (d : Double) : Json :=
  if d.isFinite then .number (.double d) else .null

/-! ## Compact text -/

/-- Doubles from `1e-5` up to `1e16` are written without an exponent; an exponent has a sign, and
    a tie goes to the even digit. -/
def numberFormat : NumberFormat :=
  { leastPlain := -5, greatestPlain := 15, exponentPlus := true, tie := .toEven }

/-- The text of a number. -/
def numberText : JsonNumber → String
  | .integer n => String.ofList (NumberFormat.integer n)
  | .double (.finite negative a) => numberFormat.finite negative a
  | .double _ => "null"

/-- A character inside a string; only quotes, backslashes and the characters below the space are
    escaped. -/
def escape (c : Char) : List Char :=
  match c with
  | '"' => ['\\', '"']
  | '\\' => ['\\', '\\']
  | '\n' => ['\\', 'n']
  | '\r' => ['\\', 'r']
  | '\t' => ['\\', 't']
  | c =>
    let n := c.toNat
    if n = 8 then ['\\', 'b']
    else if n = 12 then ['\\', 'f']
    else if n < 0x20 then
      ['\\', 'u', '0', '0', Nat.digitChar (n / 16), Nat.digitChar (n % 16)]
    else [c]

/-- A quoted string. -/
def stringText (s : String) : String :=
  String.ofList ('"' :: s.toList.flatMap escape ++ ['"'])

mutual

/-- The compact text of a value. -/
def compact : Json → String
  | .null => "null"
  | .bool true => "true"
  | .bool false => "false"
  | .number n => numberText n
  | .string s => stringText s
  | .array elements => "[" ++ String.intercalate "," (compactElements elements) ++ "]"
  | .object members => "\x7b" ++ String.intercalate "," (compactMembers members) ++ "\x7d"

/-- The texts of the elements of an array. -/
def compactElements : List Json → List String
  | [] => []
  | j :: rest => j.compact :: compactElements rest

/-- The texts of the members of an object. -/
def compactMembers : List (String × Json) → List String
  | [] => []
  | (name, j) :: rest => (stringText name ++ ":" ++ j.compact) :: compactMembers rest

end

end Json

end Flowchart
