import Flowchart.CompileError
import Flowchart.FullName
import Flowchart.Project.Item

set_option autoImplicit false

/-! # Symbol table

The items of a project by full name and the blocks by identifier. The table exists only if neither
repeats; then it lists every item of the tree, parents before children, and every block with the
function that owns it. -/

namespace Flowchart

/-- An item with the context it is declared in. -/
structure Symbol where
  item : Item
  fullName : String
  /-- The kind of the item around it; the root has none. -/
  parentKind : Option ItemKind

namespace Symbol

/-- Variables and functions declared directly in a package or project become static members. -/
def isStatic (s : Symbol) : Bool :=
  s.parentKind.any ItemKind.isNamespace && (s.item.kind == .variable || s.item.kind == .function)

/-- How generated code refers to a variable, parameter or function. A static member lives in a
    class named after itself; everything else goes by its plain name. -/
def reference (s : Symbol) : String :=
  if s.isStatic then s.fullName ++ "." ++ s.item.name else s.item.name

end Symbol

/-- A block with the full name of the function that owns it. -/
structure OwnedBlock where
  block : Block
  owner : String

/-! ## The items of a tree -/

mutual

/-- The symbols of a tree, parents before children. -/
def Item.symbols (parent : String) (parentKind : Option ItemKind) : Item → List Symbol
  | { name, kind, id, comments, children, typeName, returnType, blocks } =>
    let fullName := FullName.join parent name
    { item := { name, kind, id, comments, children, typeName, returnType, blocks }
      fullName, parentKind } :: Item.symbolsAll fullName kind children

/-- The symbols of several trees with the same parent. -/
def Item.symbolsAll (parent : String) (parentKind : ItemKind) : List Item → List Symbol
  | [] => []
  | item :: rest =>
    item.symbols parent (some parentKind) ++ Item.symbolsAll parent parentKind rest

end

/-- The blocks a symbol's item owns. -/
def Symbol.ownedBlocks (s : Symbol) : List OwnedBlock :=
  s.item.blocks.map fun b => { block := b, owner := s.fullName }

/-! ## Repetitions -/

/-- The first block whose identifier has been used before. -/
def firstRepeatedBlock (used : List Uuid) : List Block → Option Uuid
  | [] => none
  | b :: rest => if b.id ∈ used then some b.id else firstRepeatedBlock (b.id :: used) rest

/-- The first repetition in a list of symbols: of each symbol the name is looked at before its
    blocks. -/
def firstRepetition (names : List String) (used : List Uuid) : List Symbol → Option CompileError
  | [] => none
  | s :: rest =>
    if s.fullName ∈ names then some (.duplicateName s.fullName)
    else
      match firstRepeatedBlock used s.item.blocks with
      | some id => some (.duplicateBlock id)
      | none => firstRepetition (s.fullName :: names) (s.item.blocks.map (·.id) ++ used) rest

/-! ## The table -/

/-- The items by full name and the blocks by identifier. -/
structure SymbolTable where
  symbols : List Symbol
  blocks : List OwnedBlock

namespace SymbolTable

/-- The table of a tree. -/
def build (root : Item) : Except CompileError SymbolTable :=
  let symbols := root.symbols "" none
  match firstRepetition [] [] symbols with
  | some e => .error e
  | none => .ok { symbols, blocks := symbols.flatMap Symbol.ownedBlocks }

/-- The symbol with a full name. -/
def find? (t : SymbolTable) (name : String) : Option Symbol :=
  t.symbols.find? (·.fullName == name)

/-- The symbol with a full name, which has to exist. -/
def resolve (t : SymbolTable) (name : String) : Except CompileError Symbol :=
  match t.find? name with
  | some s => .ok s
  | none => .error (.unresolvedName name)

/-- The block with an identifier. -/
def findBlock? (t : SymbolTable) (id : Uuid) : Option OwnedBlock :=
  t.blocks.find? (·.block.id == id)

/-- Whether a full name is that of a static member. -/
def isStatic (t : SymbolTable) (name : String) : Bool :=
  (t.find? name).any Symbol.isStatic

end SymbolTable

end Flowchart
