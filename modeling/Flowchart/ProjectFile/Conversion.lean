import Flowchart.Project.Item
import Flowchart.ProjectFile.Record

set_option autoImplicit false

/-! # From records to items

A project file becomes a declaration tree if only functions own blocks and every call step has a
target. An item's own blocks are checked first, then its children in order, then what its blocks
contain; in a statement the operands come before the calls. -/

namespace Flowchart.ProjectFile

/-- Why a project file is no project. -/
inductive ConversionError where
  | strayBlocks (kind : ItemKind) (name : String)
  | missingTarget
deriving DecidableEq

namespace ConversionError

/-- What is wrong. -/
def detail : ConversionError → String
  | .strayBlocks kind name => s!"{kind.name} '{name}' owns blocks, only functions can"
  | .missingTarget => "call step without a target name"

/-- The text of the error. -/
def message (e : ConversionError) : String := s!"Invalid project data: {e.detail}"

end ConversionError

/-! ## Statements -/

/-- A literal's value; null stands for none. -/
def presentValue : Option Json → Option Json
  | some .null => none
  | v => v

mutual

/-- The statement of a record. -/
def StatementRecord.convert : StatementRecord → Except ConversionError Statement
  | { kind, value, operands, calls } => do
    let operands ← convertStatements operands
    let calls ← convertCalls calls
    return { kind, value := presentValue value, operands, calls }

/-- The statements of records, in order. -/
def convertStatements : List StatementRecord → Except ConversionError (List Statement)
  | [] => .ok []
  | r :: rest => do
    let s ← r.convert
    return s :: (← convertStatements rest)

/-- The call steps of records, in order; a step's target is looked at before its arguments. -/
def convertCalls : List CallRecord → Except ConversionError (List CallStep)
  | [] => .ok []
  | { target, arguments } :: rest => do
    match target with
    | none => .error .missingTarget
    | some target =>
      let arguments ← convertStatements arguments
      return { target, arguments } :: (← convertCalls rest)

end

/-! ## Blocks -/

/-- The connections of one side, in the order of their targets. -/
def TargetMap.connections (targets : TargetMap) : List Connection :=
  targets.entries.map fun t => { target := t.1, targetSide := t.2 }

/-- The connections of a record. -/
def ConnectionsRecord.convert (c : ConnectionsRecord) : Connections where
  top := c.top.map TargetMap.connections
  bottom := c.bottom.map TargetMap.connections
  left := c.left.map TargetMap.connections
  right := c.right.map TargetMap.connections

/-- The content of a record. -/
def ContentRecord.convert (c : ContentRecord) : Except ConversionError BlockContent := do
  match c.statement with
  | none => return { statement := none, target := c.target }
  | some s => return { statement := some (← s.convert), target := c.target }

/-- The block of a record. -/
def BlockRecord.convert (b : BlockRecord) : Except ConversionError Block := do
  let connections := b.connections.convert
  match b.content with
  | none => return { id := b.id, kind := b.kind, content := none, connections }
  | some c => return { id := b.id, kind := b.kind, content := some (← c.convert), connections }

/-- The blocks of records, in order. -/
def convertBlocks : List BlockRecord → Except ConversionError (List Block)
  | [] => .ok []
  | b :: rest => do
    let block ← b.convert
    return block :: (← convertBlocks rest)

/-! ## Items -/

mutual

/-- The item of a record. -/
def ItemRecord.convert : ItemRecord → Except ConversionError Item
  | { name, comments, kind, id, children, typeName, returnType, blocks } => do
    if !blocks.isEmpty && kind != .function then
      .error (.strayBlocks kind name)
    else
      let children ← convertItems children
      let blocks ← convertBlocks blocks
      return {
        name, kind, id, comments := comments.getD "", children, typeName, returnType, blocks }

/-- The items of records, in order. -/
def convertItems : List ItemRecord → Except ConversionError (List Item)
  | [] => .ok []
  | r :: rest => do
    let item ← r.convert
    return item :: (← convertItems rest)

end

end Flowchart.ProjectFile
