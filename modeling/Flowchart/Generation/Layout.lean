import Flowchart.FullName
import Flowchart.Generation.Naming
import Flowchart.Path
import Flowchart.Text.Blank

set_option autoImplicit false

/-! # Layout

Where everything of a project goes: a directory for the project and for each package, a marker file
with the identity of the project, a file with the comments of each of them, and one declaration
unit for each class, function and variable outside of classes and functions. The order is that of
the tree, parents before children. -/

namespace Flowchart

/-- A generated file, with its path below the output directory. -/
structure GeneratedFile where
  path : Path
  contents : String
deriving DecidableEq

/-- A declaration that gets a source file of its own. -/
structure DeclarationUnit where
  item : Item
  fullName : String
  /-- The full name of the package around it. -/
  package : String
  directory : Path

/-- The parts of the output that are known before any function is compiled. -/
structure Layout where
  directories : List Path := []
  files : List GeneratedFile := []
  units : List DeclarationUnit := []

namespace Layout

/-- One layout after the other. -/
def append (a b : Layout) : Layout where
  directories := a.directories ++ b.directories
  files := a.files ++ b.files
  units := a.units ++ b.units

instance : Append Layout := ⟨append⟩

/-- The file that holds the identity of a project. -/
def markerFile : String := "id.txt"

/-- The file that holds the comments of a project or package. -/
def commentsFile : String := "comments.html"

/-- The comments of an item as a file, unless they are blank or left out. -/
def ofComments (item : Item) (directory : Path) (includeComments : Bool) : Layout where
  files :=
    if includeComments && !Text.isAllBlank item.comments then
      [{ path := directory.child commentsFile, contents := item.comments }]
    else []

mutual

/-- The layout of an item inside a project or package. -/
def ofItem (parent : String) (directory : Path) (includeComments : Bool) :
    Item → Except CompileError Layout
  | { name, kind, id, comments, children, typeName, returnType, blocks } => do
    let item : Item := { name, kind, id, comments, children, typeName, returnType, blocks }
    item.checkName (FullName.project parent)
    let fullName := FullName.join parent name
    match kind with
    | .package =>
      let inner := directory.child name
      let rest ← ofItems fullName inner includeComments children
      return { directories := [inner] } ++ ofComments item inner includeComments ++ rest
    | .classItem | .function | .variable =>
      return { units := [{ item, fullName, package := parent, directory }] }
    | .parameter => .error (.invalidItem fullName .parameterOutsideFunction)
    | .project => .error (.invalidItem fullName .nestedProject)

/-- The layout of several items inside the same project or package. -/
def ofItems (parent : String) (directory : Path) (includeComments : Bool) :
    List Item → Except CompileError Layout
  | [] => .ok {}
  | item :: rest => do
    let first ← ofItem parent directory includeComments item
    let others ← ofItems parent directory includeComments rest
    return first ++ others

end

/-- The layout of a whole project. -/
def ofProject (root : Item) (includeComments : Bool) : Except CompileError Layout := do
  if root.kind ≠ .project then .error (.invalidItem root.name (.rootNotProject root.kind))
  else
    match root.id with
    | none => .error (.invalidItem root.name .projectWithoutId)
    | some id =>
      root.checkName root.name
      let directory : Path := ⟨root.name⟩
      let rest ← ofItems root.name directory includeComments root.children
      let marker : GeneratedFile :=
        { path := directory.child markerFile, contents := id.text ++ "\n" }
      return { directories := [directory], files := [marker] }
        ++ ofComments root directory includeComments ++ rest

end Layout

end Flowchart
