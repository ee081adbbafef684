import Flowchart.Lowering.Expression
import Flowchart.Lowering.Flow
import Flowchart.Java.JavaStmt

set_option autoImplicit false

/-! # From flow graphs to Java statements

The body of a function is found by walking its blocks from the start. Each path through a decision
is walked by itself, so blocks behind a join are compiled once for each way to reach them; a block
that is met again on the same path is a cycle, which cannot be compiled. The walk ends because every
step visits a block that is not yet on its path. -/

namespace Flowchart

/-- A compiled function body. -/
structure Body where
  statements : List JavaStmt
  /-- Whether an input block was compiled, so that a scanner is needed. -/
  readsInput : Bool

namespace FlowGraph

variable (g : FlowGraph)

/-! ## Single blocks -/

/-- The expression of a block's statement. -/
def expression (b : Block) (s : Statement) : Except CompileError JavaExpr :=
  (g.table.lower s).mapError (.statement b.id)

/-- The expression of a block that has to have a statement. -/
def requiredExpression (b : Block) : Except CompileError JavaExpr :=
  match b.statement? with
  | some s => g.expression b s
  | none => .error (.missingStatement b.id b.kind)

/-- The variable that a block writes to. -/
def assigned (b : Block) : Except CompileError Symbol :=
  match b.target? with
  | none => .error (.missingVariable b.id b.kind)
  | some name => do
    let symbol ← g.table.resolve name
    if symbol.item.kind.isAssignable then return symbol
    else .error (.notAssignable name symbol.item.kind)

/-- Whether a variable is a field of the class that the function is a method of. -/
def isOwnField (target : Symbol) : Bool :=
  target.parentKind == some .classItem && g.function.parentKind == some .classItem
    && FullName.parent target.fullName == FullName.parent g.function.fullName

/-- Whether a parameter or local of the function has the plain name of a variable. -/
def isHidden (target : Symbol) : Bool :=
  g.function.item.children.any (·.name == target.item.name)

/-- The left-hand side of an assignment. A field of the function's own class is written through
    `this` if a parameter or local hides it, or if the value is spelt exactly like it. -/
def assignmentTarget (target : Symbol) (value : JavaExpr) : JavaExpr :=
  if g.isOwnField target && (g.isHidden target || value.render == target.reference) then
    .name ("this." ++ target.reference)
  else .name target.reference

/-- The statement that reads input into a variable. -/
def readStatement (b : Block) : Except CompileError JavaStmt := do
  let target ← g.assigned b
  let type ← g.table.resolveTypeOf target
  match type.inputMethod? with
  | none => .error (.unsupportedInputType b.id (target.item.typeName.getD ""))
  | some method => return .readInput (.name target.reference) method (← type.defaultValue)

/-- The statement of a call, assignment, input or output block; the other kinds have none of their
    own. -/
def head (b : Block) : Except CompileError (Option JavaStmt) :=
  match b.kind with
  | .call => do return some (.expression (← g.requiredExpression b))
  | .assignment => do
    let target ← g.assigned b
    let value ← g.requiredExpression b
    return some (.assign (g.assignmentTarget target value) value)
  | .input => do return some (← g.readStatement b)
  | .output => do return some (.print (← g.requiredExpression b))
  | .start | .stop | .decision => .ok none

/-- The statement of an end block, which has a value exactly if the function returns one. -/
def returnStatement (b : Block) : Except CompileError JavaStmt :=
  match b.statement? with
  | some s =>
    if g.returnType = .void then .error (.unexpectedReturnValue b.id g.function.fullName)
    else do return .return (some (← g.expression b s))
  | none =>
    if g.returnType = .void then .ok (.return none)
    else .error (.missingReturnValue b.id g.function.fullName g.returnType)

/-- The two ways out of a decision. At least one has to be connected, and both in a function that
    returns a value. -/
def branches (b : Block) : Except CompileError (Option g.Node × Option g.Node) := do
  let whenTrue ← g.branch b .right
  let whenFalse ← g.branch b .left
  if whenTrue.isNone && whenFalse.isNone then .error (.decisionWithoutBranches b.id)
  else if g.returnType ≠ .void && (whenTrue.isNone || whenFalse.isNone) then
    .error (.incompleteDecision b.id g.function.fullName g.returnType)
  else return (whenTrue, whenFalse)

/-! ## The walk -/

/-- The body of everything that is reached from a block; `path` holds the identifiers of the blocks
    that led to it. -/
def walk (path : List Uuid) (node : g.Node) : Except CompileError Body :=
  if h : node.val.id ∈ path then .error (.cycleDetected node.val.id)
  else
    have := g.unvisited_cons_lt node h
    let path' := node.val.id :: path
    match node.val.kind with
    | .stop => do
      let statement ← g.returnStatement node.val
      return { statements := [statement], readsInput := false }
    | .decision => do
      let condition ← g.requiredExpression node.val
      let (whenTrue, whenFalse) ← g.branches node.val
      let thenBody ←
        match whenTrue with
        | some next => walk path' next
        | none => pure { statements := [], readsInput := false }
      match whenFalse with
      | some next =>
        let elseBody ← walk path' next
        return {
          statements := [.ifElse condition thenBody.statements (some elseBody.statements)]
          readsInput := thenBody.readsInput || elseBody.readsInput }
      | none =>
        return {
          statements := [.ifElse condition thenBody.statements none]
          readsInput := thenBody.readsInput }
    | kind => do
      let head ← g.head node.val
      let next ← g.next node.val
      let rest ← walk path' next
      return {
        statements := head.toList ++ rest.statements
        readsInput := kind == .input || rest.readsInput }
termination_by (g.unvisited path).length

end FlowGraph

/-- The body of the function with a full name. -/
def SymbolTable.functionBody (t : SymbolTable) (name : String) : Except CompileError Body := do
  let g ← FlowGraph.ofFunction t name
  let start ← g.start
  g.walk [] start

end Flowchart
