import Flowchart.Project.Block

set_option autoImplicit false

/-! # Items

The declaration tree of a project. -/

namespace Flowchart

/-- A node of the declaration tree. -/
structure Item where
  name : String
  kind : ItemKind
  /-- The identity of a project, written into its output directory. -/
  id : Option Uuid := none
  comments : String := ""
  children : List Item := []
  /-- The type of a variable or parameter. -/
  typeName : Option String := none
  /-- What a function returns; `VOID` if nothing. -/
  returnType : Option String := none
  /-- The flow graph of a function. -/
  blocks : List Block := []

namespace Item

/-- The children of one kind. -/
def childrenOfKind (item : Item) (kind : ItemKind) : List Item :=
  item.children.filter (·.kind = kind)

/-- The parameters a function declares, in order. -/
def parameters (item : Item) : List Item := item.childrenOfKind .parameter

end Item

end Flowchart
