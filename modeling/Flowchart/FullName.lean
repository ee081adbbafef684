set_option autoImplicit false

/-! # Full names

An item is known by the names on the way from the root, joined by dots. -/

namespace Flowchart.FullName

/-- The full name of what is called `name` inside `parent`; an empty parent adds no dot. -/
def join (parent name : String) : String :=
  if parent = "" then name else parent ++ "." ++ name

/-- The names that a full name joins. -/
def segments (fullName : String) : List String :=
  (fullName.toList.splitOn '.').map String.ofList

/-- The first name, that of the project. -/
def project (fullName : String) : String :=
  String.ofList (fullName.toList.takeWhile (· ≠ '.'))

/-- Everything before the last dot; nothing if there is no dot. -/
def parent (fullName : String) : String :=
  String.ofList ((fullName.toList.reverse.dropWhile (· ≠ '.')).drop 1).reverse

theorem join_empty (name : String) : join "" name = name := rfl

theorem join_of_ne {parent : String} (name : String) (h : parent ≠ "") :
    join parent name = parent ++ "." ++ name := by
  simp [join, h]

end Flowchart.FullName
