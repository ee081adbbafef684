import Flowchart.Text.Blank

set_option autoImplicit false

/-! # Comments as documentation

The lines of a documentation comment that an item's comments become. -/

namespace Flowchart.Comments

/-- Replaces the end of a comment by a text that looks the same in a browser and ends nothing. -/
def neutralize : List Char → List Char
  | '*' :: '/' :: rest => "*&#47;".toList ++ neutralize rest
  | c :: rest => c :: neutralize rest
  | [] => []

/-- The lines of a comment, without the blanks around the comment and at the ends of its lines.
    A comment of blanks has no lines. -/
def lines (comments : String) : List String :=
  let body := Text.stripBlanks comments.toList
  if body.isEmpty then []
  else (body.splitOn '\n').map fun l => String.ofList (neutralize (Text.dropTrailingBlanks l))

end Flowchart.Comments
