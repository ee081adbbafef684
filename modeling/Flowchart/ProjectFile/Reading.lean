import Flowchart.Json.Record
import Flowchart.ProjectFile.Record

set_option autoImplicit false

/-! # Reading project files

From the text of a project file to its records. The nesting of a usable document is bounded, and
each level of the records takes at least one level of the document, so the readers of the recursive
records count down from that bound. -/

namespace Flowchart.ProjectFile

open Document (required optional nullable)

/-- A UUID in any of its spellings. -/
def readId? (d : Document) : Option Uuid := d.text?.bind Uuid.read?

/-! ## Statements -/

/-- The fields of a statement. -/
def statementFields : List (List String) := [["type"], ["value"], ["parameter"], ["calls"]]

/-- The fields of a call step. -/
def callFields : List (List String) := [["type"], ["parameter"]]

/-- A list of statements, each read by `read`. -/
def readList? {α : Type} (read : Document → Option α) (d : Document) : Option (List α) :=
  d.elements?.bind (·.mapM read)

/-- A call step whose arguments are read by `read`. -/
def readCall? (read : Document → Option StatementRecord) (d : Document) : Option CallRecord := do
  match ← d.slots? callFields with
  | [target, arguments] =>
    return {
      target := ← optional none (nullable Document.text?) target
      arguments := ← optional [] (readList? read) arguments }
  | _ => none

/-- A statement nested at most `levels` deep. -/
def readStatement? : Nat → Document → Option StatementRecord
  | 0, _ => none
  | levels + 1, d => do
    match ← d.slots? statementFields with
    | [kind, value, operands, calls] =>
      let kind ← required (·.choice?.bind StatementKind.ofName?) kind
      let value ← optional none (nullable Document.value?) value
      let operands ← optional [] (readList? fun d => readStatement? levels d) operands
      let calls ← optional [] (readList? (readCall? fun d => readStatement? levels d)) calls
      return { kind, value, operands, calls }
    | _ => none

/-! ## Blocks -/

/-- The targets of one side. -/
def readTargets? (d : Document) : Option TargetMap := do
  let members ← d.members?
  members.foldlM (fun targets m => do
    return targets.insert (← Uuid.read? m.1) (← m.2.choice?.bind Side.ofName?)) OrderedMap.empty

/-- The connections of a block; of a side mentioned twice the last mention counts. -/
def readConnections? (d : Document) : Option ConnectionsRecord := do
  let members ← d.members?
  members.foldlM (fun connections m => do
    return connections.set (← Side.ofName? m.1) (← readTargets? m.2)) {}

/-- The fields of a block's content. -/
def contentFields : List (List String) := [["statement"], ["variable"]]

/-- The content of a block. -/
def readContent? (d : Document) : Option ContentRecord := do
  match ← d.slots? contentFields with
  | [statement, target] =>
    return {
      statement := ← optional none (nullable (readStatement? Document.nestingLimit)) statement
      target := ← optional none (nullable Document.text?) target }
  | _ => none

/-- The fields of a block. -/
def blockFields : List (List String) :=
  [["blockid"], ["blocktype"], ["blockconnections"], ["blockcontent"]]

/-- A block. -/
def readBlock? (d : Document) : Option BlockRecord := do
  match ← d.slots? blockFields with
  | [id, kind, connections, content] =>
    return {
      id := ← required readId? id
      kind := ← required (·.choice?.bind BlockKind.ofName?) kind
      connections := ← optional {} readConnections? connections
      content := ← optional none (nullable readContent?) content }
  | _ => none

/-! ## Items -/

/-- The fields of an item. -/
def itemFields : List (List String) :=
  [["name"], ["comments"], ["item"], ["id"], ["children"], ["type"], ["returntype", "returnType"],
    ["blocks"]]

/-- An item nested at most `levels` deep. -/
def readItem? : Nat → Document → Option ItemRecord
  | 0, _ => none
  | levels + 1, d => do
    match ← d.slots? itemFields with
    | [name, comments, kind, id, children, typeName, returnType, blocks] =>
      return {
        name := ← required Document.text? name
        comments := ← optional none (nullable Document.text?) comments
        kind := ← required (·.choice?.bind ItemKind.ofName?) kind
        id := ← optional none (nullable readId?) id
        children := ← optional [] (readList? fun d => readItem? levels d) children
        typeName := ← optional none (nullable Document.text?) typeName
        returnType := ← optional none (nullable Document.text?) returnType
        blocks := ← optional [] (readList? readBlock?) blocks }
    | _ => none

/-- Reads the text of a project file. -/
def read? (text : String) : Option ItemRecord :=
  (Document.read? text).bind (readItem? Document.nestingLimit)

end Flowchart.ProjectFile
