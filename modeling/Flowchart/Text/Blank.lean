set_option autoImplicit false

/-! # Blank characters and trimming

Which characters count as blank, and the removal of blanks at the ends of a text. Texts are taken
apart as lists of characters; the `String` forms only wrap those. -/

namespace Flowchart.Text

/-- The 25 characters of the Unicode property `White_Space`. -/
def isBlank (c : Char) : Bool :=
  let n := c.toNat
  (9 ≤ n && n ≤ 13) || n == 0x20 || n == 0x85 || n == 0xA0 || n == 0x1680
    || (0x2000 ≤ n && n ≤ 0x200A) || n == 0x2028 || n == 0x2029 || n == 0x202F
    || n == 0x205F || n == 0x3000

/-- The control characters, general category `Cc`. -/
def isControl (c : Char) : Bool :=
  let n := c.toNat
  n < 0x20 || (0x7F ≤ n && n ≤ 0x9F)

/-! ## Trimming -/

/-- A text without the blanks it starts with. -/
def dropBlanks (s : List Char) : List Char :=
  s.dropWhile isBlank

/-- A text without the blanks it ends with. -/
def dropTrailingBlanks (s : List Char) : List Char :=
  (s.reverse.dropWhile isBlank).reverse

/-- A text without the blanks at either end. -/
def stripBlanks (s : List Char) : List Char :=
  dropTrailingBlanks (dropBlanks s)

/-- `stripBlanks` on strings. -/
def trim (s : String) : String :=
  String.ofList (stripBlanks s.toList)

/-- `dropTrailingBlanks` on strings. -/
def trimEnd (s : String) : String :=
  String.ofList (dropTrailingBlanks s.toList)

/-- Whether a text is nothing but blanks. -/
def isAllBlank (s : String) : Bool :=
  s.toList.all isBlank

end Flowchart.Text
