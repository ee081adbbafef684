import Flowchart.Project.Block

set_option autoImplicit false

/-! # Project file records

What a project file holds, field for field, before it is checked. Fields that may be absent or null
are options; the targets on one side of a block ascend by identifier. -/

namespace Flowchart.ProjectFile

mutual

/-- A statement of the file. -/
structure StatementRecord where
  kind : StatementKind
  value : Option Json
  operands : List StatementRecord
  calls : List CallRecord

/-- A call step of the file; its target may be missing. -/
structure CallRecord where
  target : Option String
  arguments : List StatementRecord

end

/-- The content of a block of the file. -/
structure ContentRecord where
  statement : Option StatementRecord
  target : Option String

/-- The targets of the connections that leave one side, each with the side it arrives at. -/
abbrev TargetMap := OrderedMap Uuid Side Uuid.lt

/-- The connections of a block of the file. -/
structure ConnectionsRecord where
  top : Option TargetMap := none
  bottom : Option TargetMap := none
  left : Option TargetMap := none
  right : Option TargetMap := none

namespace ConnectionsRecord

/-- The targets of one side, if it is mentioned. -/
def get? (c : ConnectionsRecord) : Side → Option TargetMap
  | .top => c.top
  | .bottom => c.bottom
  | .left => c.left
  | .right => c.right

/-- Replaces the targets of one side. -/
def set (c : ConnectionsRecord) (side : Side) (targets : TargetMap) : ConnectionsRecord :=
  match side with
  | .top => { c with top := some targets }
  | .bottom => { c with bottom := some targets }
  | .left => { c with left := some targets }
  | .right => { c with right := some targets }

end ConnectionsRecord

/-- A block of the file. -/
structure BlockRecord where
  id : Uuid
  kind : BlockKind
  connections : ConnectionsRecord
  content : Option ContentRecord

/-- An item of the file. -/
structure ItemRecord where
  name : String
  comments : Option String
  kind : ItemKind
  id : Option Uuid
  children : List ItemRecord
  typeName : Option String
  returnType : Option String
  blocks : List BlockRecord

end Flowchart.ProjectFile
