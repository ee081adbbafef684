import Flowchart.Typing

set_option autoImplicit false

/-! # Flow graphs

A function that is being compiled, with the blocks it owns and the ways between them. A block goes
on at its only connection; a decision goes on at the right or at the left. Connections that lead to
blocks of other functions lead nowhere. -/

namespace Flowchart

/-- A function whose flow graph is being compiled. -/
structure FlowGraph where
  table : SymbolTable
  function : Symbol
  returnType : JavaType

namespace FlowGraph

/-- The blocks the function owns. -/
def blocks (g : FlowGraph) : List Block := g.function.item.blocks

/-- A block of the function. -/
abbrev Node (g : FlowGraph) := { b : Block // b ∈ g.blocks }

/-- The graph of the function with a full name, if its return type is known. -/
def ofFunction (t : SymbolTable) (name : String) : Except CompileError FlowGraph := do
  let function ← t.resolve name
  if function.item.kind = .function then
    let returnType ← t.resolveReturnTypeOf function
    return { table := t, function, returnType }
  else .error (.invalidItem name (.noFlowGraph function.item.kind))

/-! ## Ways between blocks -/

/-- The block of the function with an identifier. -/
def node? (g : FlowGraph) (id : Uuid) : Option g.Node :=
  g.blocks.attach.find? (·.val.id == id)

/-- The block a connection leads to. -/
def follow (g : FlowGraph) (source : Block) (connection : Connection) :
    Except CompileError g.Node :=
  match g.node? connection.target with
  | some node => .ok node
  | none => .error (.blockNotFound connection.target source.id)

/-- The only start block. -/
def start (g : FlowGraph) : Except CompileError g.Node :=
  match g.blocks.attach.filter (·.val.kind = .start) with
  | [] => .error (.missingStartBlock g.function.fullName)
  | [node] => .ok node
  | nodes => .error (.multipleStartBlocks g.function.fullName nodes.length)

/-- The only block that follows a block which is no decision. -/
def next (g : FlowGraph) (b : Block) : Except CompileError g.Node :=
  match b.successors with
  | [] => .error (.missingSuccessor b.id b.kind)
  | [connection] => g.follow b connection
  | connections => .error (.ambiguousSuccessor b.id b.kind connections.length)

/-- The block at one branch of a decision, if the branch is connected. -/
def branch (g : FlowGraph) (b : Block) (side : Side) : Except CompileError (Option g.Node) :=
  match b.branch side with
  | [] => .ok none
  | [connection] => do return some (← g.follow b connection)
  | connections => .error (.ambiguousSuccessor b.id b.kind connections.length)

/-! ## Progress -/

/-- The blocks whose identifiers are not on a path. -/
def unvisited (g : FlowGraph) (path : List Uuid) : List Block :=
  g.blocks.filter (·.id ∉ path)

/-- A path that visits a new block leaves fewer blocks to visit. -/
theorem unvisited_cons_lt (g : FlowGraph) {path : List Uuid} (node : g.Node)
    (h : node.val.id ∉ path) :
    (g.unvisited (node.val.id :: path)).length < (g.unvisited path).length := by
  have hsplit : g.unvisited (node.val.id :: path)
      = (g.unvisited path).filter (fun b => decide (b.id ≠ node.val.id)) := by
    unfold unvisited
    rw [List.filter_filter]
    apply List.filter_congr
    intro b _
    simp only [List.mem_cons, not_or, ne_eq, Bool.decide_and]
  rw [hsplit, List.length_filter_lt_length_iff_exists]
  refine ⟨node.val, ?_, by simp⟩
  simp only [unvisited, List.mem_filter, decide_eq_true_eq]
  exact ⟨node.property, h⟩

end FlowGraph

end Flowchart
