import Flowchart.CompileError
import Flowchart.Java.Identifier
import Flowchart.Project.Item

set_option autoImplicit false

/-! # Names that can be declared -/

namespace Flowchart

/-- Checks that an item can be declared in the project with the given name. References to static
    members start with the name of the project, so nothing else may be called like it. -/
def Item.checkName (item : Item) (project : String) : Except CompileError Unit :=
  if !Java.isIdentifier item.name then .error (.invalidIdentifier item.name)
  else if Java.reservedNames.contains item.name then .error (.reservedName item.name)
  else if item.kind != .project && item.name == project then
    .error (.shadowsProject item.name project)
  else .ok ()

end Flowchart
