import Flowchart.Proofs.Graph

set_option autoImplicit false

/-! # Walks that succeed

`Walked path node body` says how the walk comes from a block to a body, one rule for each way a
block can go on. The walk succeeds exactly by these rules, so what holds of all compiled bodies is
proved by induction over them. -/

namespace Flowchart.FlowGraph

variable {g : FlowGraph}

/-! ## The walk from one block -/

/-- The body of everything that is reached at one side of a decision. -/
def walkSide (g : FlowGraph) (path : List Uuid) : Option g.Node → Except CompileError Body
  | some next => g.walk path next
  | none => .ok { statements := [], readsInput := false }

section

variable {path : List Uuid} {node : g.Node}

theorem walk_of_mem (hmem : node.val.id ∈ path) :
    g.walk path node = .error (.cycleDetected node.val.id) := by
  rw [walk, dif_pos hmem]

theorem walk_stop (hfresh : node.val.id ∉ path) (hkind : node.val.kind = .stop) :
    g.walk path node = g.returnStatement node.val >>= fun statement =>
      .ok { statements := [statement], readsInput := false } := by
  rw [walk, dif_neg hfresh]
  simp only [hkind]
  rfl

theorem walk_decision (hfresh : node.val.id ∉ path) (hkind : node.val.kind = .decision) :
    g.walk path node = g.requiredExpression node.val >>= fun condition =>
      g.branches node.val >>= fun ways =>
      g.walkSide (node.val.id :: path) ways.1 >>= fun thenBody =>
      match ways.2 with
      | some next => g.walk (node.val.id :: path) next >>= fun elseBody =>
          .ok { statements := [.ifElse condition thenBody.statements (some elseBody.statements)]
                readsInput := thenBody.readsInput || elseBody.readsInput }
      | none => .ok { statements := [.ifElse condition thenBody.statements none]
                      readsInput := thenBody.readsInput } := by
  rw [walk, dif_neg hfresh]
  simp only [hkind]
  refine bind_congr fun condition => bind_congr fun ways => ?_
  obtain ⟨whenTrue, whenFalse⟩ := ways
  cases whenTrue with
  | none => rfl
  | some next => rfl

theorem walk_step (hfresh : node.val.id ∉ path) (hstop : node.val.kind ≠ .stop)
    (hdecision : node.val.kind ≠ .decision) :
    g.walk path node = g.head node.val >>= fun head => g.next node.val >>= fun next =>
      g.walk (node.val.id :: path) next >>= fun rest =>
      .ok { statements := head.toList ++ rest.statements
            readsInput := node.val.kind == .input || rest.readsInput } := by
  rw [walk, dif_neg hfresh]
  split
  · next hkind => exact absurd hkind hstop
  · next hkind => exact absurd hkind hdecision
  · rfl

end

/-! ## Rules -/

/-- How the walk compiles everything that is reached from a block with the given path behind it. -/
inductive Walked : List Uuid → g.Node → Body → Prop
  | stop {path : List Uuid} {node : g.Node} {statement : JavaStmt}
      (fresh : node.val.id ∉ path) (kind : node.val.kind = .stop)
      (result : g.returnStatement node.val = .ok statement) :
      Walked path node { statements := [statement], readsInput := false }
  | step {path : List Uuid} {node next : g.Node} {head : Option JavaStmt} {rest : Body}
      (fresh : node.val.id ∉ path) (not_stop : node.val.kind ≠ .stop)
      (not_decision : node.val.kind ≠ .decision)
      (head_eq : g.head node.val = .ok head) (next_eq : g.next node.val = .ok next)
      (walked : Walked (node.val.id :: path) next rest) :
      Walked path node
        { statements := head.toList ++ rest.statements
          readsInput := node.val.kind == .input || rest.readsInput }
  | both {path : List Uuid} {node right left : g.Node} {condition : JavaExpr}
      {thenBody elseBody : Body}
      (fresh : node.val.id ∉ path) (kind : node.val.kind = .decision)
      (condition_eq : g.requiredExpression node.val = .ok condition)
      (branches_eq : g.branches node.val = .ok (some right, some left))
      (thenWalked : Walked (node.val.id :: path) right thenBody)
      (elseWalked : Walked (node.val.id :: path) left elseBody) :
      Walked path node
        { statements := [.ifElse condition thenBody.statements (some elseBody.statements)]
          readsInput := thenBody.readsInput || elseBody.readsInput }
  | onlyRight {path : List Uuid} {node right : g.Node} {condition : JavaExpr} {thenBody : Body}
      (fresh : node.val.id ∉ path) (kind : node.val.kind = .decision)
      (condition_eq : g.requiredExpression node.val = .ok condition)
      (branches_eq : g.branches node.val = .ok (some right, none))
      (thenWalked : Walked (node.val.id :: path) right thenBody) :
      Walked path node
        { statements := [.ifElse condition thenBody.statements none]
          readsInput := thenBody.readsInput }
  | onlyLeft {path : List Uuid} {node left : g.Node} {condition : JavaExpr} {elseBody : Body}
      (fresh : node.val.id ∉ path) (kind : node.val.kind = .decision)
      (condition_eq : g.requiredExpression node.val = .ok condition)
      (branches_eq : g.branches node.val = .ok (none, some left))
      (elseWalked : Walked (node.val.id :: path) left elseBody) :
      Walked path node
        { statements := [.ifElse condition [] (some elseBody.statements)]
          readsInput := elseBody.readsInput }

namespace Walked

variable {path : List Uuid} {node : g.Node} {body : Body}

/-- A block is never on the path that led to it. -/
theorem fresh (h : Walked path node body) : node.val.id ∉ path := by
  cases h <;> assumption

/-! ## The walk follows the rules -/

theorem of_walk (h : g.walk path node = .ok body) : Walked path node body := by
  induction path, node using walk.induct g generalizing body with
  | case1 path node hmem =>
    rw [walk_of_mem hmem] at h
    cases h
  | case2 path node hfresh _ hkind =>
    rw [walk_stop hfresh hkind] at h
    obtain ⟨statement, hresult, h⟩ := bind_eq_ok.1 h
    cases h
    exact .stop hfresh hkind hresult
  | case3 path node hfresh _ path' hkind =>
    rename_i ih
    rw [walk_decision hfresh hkind] at h
    simp only [bind_eq_ok] at h
    obtain ⟨condition, hcondition, ⟨whenTrue, whenFalse⟩, hbranches, thenBody, hthen, h⟩ := h
    -- each way of being connected has its rule; no side at all has been refused before
    cases whenTrue with
    | none =>
      cases whenFalse with
      | none => simp [branches_eq_ok_iff] at hbranches
      | some left =>
        obtain ⟨elseBody, helse, h⟩ := bind_eq_ok.1 h
        cases hthen
        cases h
        exact .onlyLeft hfresh hkind hcondition hbranches (ih left helse)
    | some right =>
      cases whenFalse with
      | none =>
        cases h
        exact .onlyRight hfresh hkind hcondition hbranches (ih right hthen)
      | some left =>
        obtain ⟨elseBody, helse, h⟩ := bind_eq_ok.1 h
        cases h
        exact .both hfresh hkind hcondition hbranches (ih right hthen) (ih left helse)
  | case4 path node hfresh _ path' hstop hdecision =>
    rename_i ih
    rw [walk_step hfresh hstop hdecision] at h
    simp only [bind_eq_ok] at h
    obtain ⟨head, hhead, next, hnext, rest, hrest, h⟩ := h
    cases h
    exact .step hfresh hstop hdecision hhead hnext (ih next hrest)

theorem walk_eq (h : Walked path node body) : g.walk path node = .ok body := by
  induction h with
  | stop fresh kind result =>
    rw [walk_stop fresh kind, result]
    rfl
  | step fresh not_stop not_decision head_eq next_eq walked ih =>
    rw [walk_step fresh not_stop not_decision, head_eq, ok_bind, next_eq, ok_bind, ih]
    rfl
  | both fresh kind condition_eq branches_eq thenWalked elseWalked ihThen ihElse =>
    rw [walk_decision fresh kind, condition_eq, ok_bind, branches_eq, ok_bind]
    simp only [walkSide, ihThen, ihElse, ok_bind]
  | onlyRight fresh kind condition_eq branches_eq thenWalked ih =>
    rw [walk_decision fresh kind, condition_eq, ok_bind, branches_eq, ok_bind]
    simp only [walkSide, ih, ok_bind]
  | onlyLeft fresh kind condition_eq branches_eq elseWalked ih =>
    rw [walk_decision fresh kind, condition_eq, ok_bind, branches_eq, ok_bind]
    simp only [walkSide, ih, ok_bind, Bool.false_or]

end Walked

/-- The walk succeeds exactly by the rules. -/
theorem walk_eq_ok_iff {path : List Uuid} {node : g.Node} {body : Body} :
    g.walk path node = .ok body ↔ Walked path node body :=
  ⟨Walked.of_walk, Walked.walk_eq⟩

/-- The body of a function is what the walk from its start block finds. -/
theorem functionBody_eq_ok_iff {t : SymbolTable} {name : String} {body : Body} :
    t.functionBody name = .ok body
      ↔ ∃ g : FlowGraph, ofFunction t name = .ok g
        ∧ ∃ start : g.Node, g.start = .ok start ∧ Walked [] start body := by
  simp only [SymbolTable.functionBody, bind_eq_ok, walk_eq_ok_iff]

end Flowchart.FlowGraph

/-! ## A join -/

namespace Flowchart

/-- A decision that goes around an output or through it, to the same end. -/
def crossingMain : Item where
  name := "main"
  kind := .function
  returnType := some "VOID"
  blocks := [
    { id := .ofNat 1, kind := .start, content := none
      connections := { bottom := some [⟨.ofNat 2, .top⟩] } },
    { id := .ofNat 2, kind := .decision, content := some ⟨some (.boolean true), none⟩
      connections := { right := some [⟨.ofNat 3, .top⟩], left := some [⟨.ofNat 4, .top⟩] } },
    { id := .ofNat 3, kind := .output, content := some ⟨some (.text "through"), none⟩
      connections := { bottom := some [⟨.ofNat 4, .top⟩] } },
    { id := .ofNat 4, kind := .stop, content := none, connections := {} }]

/-- A project with that function. -/
def crossing : Item where
  name := "Demo"
  kind := .project
  children := [crossingMain]

/-- The table of the project with the join. -/
def crossingTable : SymbolTable where
  symbols := crossing.symbols "" none
  blocks := (crossing.symbols "" none).flatMap Symbol.ownedBlocks

/-- The graph of the function with the join. -/
def crossingGraph : FlowGraph where
  table := crossingTable
  function := ⟨crossingMain, "Demo.main", some .project⟩
  returnType := .void

/-- What both ways lead to is compiled once for each of them. -/
def crossingBody : Body where
  statements :=
    [.ifElse (.boolean true) [.print (.text "through"), .return none] (some [.return none])]
  readsInput := false

theorem crossing_ofFunction : FlowGraph.ofFunction crossingTable "Demo.main" = .ok crossingGraph :=
  rfl

open FlowGraph (Walked)

theorem crossing_body : crossingTable.functionBody "Demo.main" = .ok crossingBody := by
  let node (i : Fin 4) : crossingGraph.Node := ⟨crossingGraph.blocks.get i, List.get_mem _ _⟩
  let done : Body := { statements := [.return none], readsInput := false }
  let through : Body :=
    { statements := [.print (.text "through"), .return none], readsInput := false }
  -- the end is walked twice, but neither time with itself on the path
  have haround : Walked [.ofNat 2, .ofNat 1] (node 3) done := .stop (by decide) rfl rfl
  have hbehind : Walked [.ofNat 3, .ofNat 2, .ofNat 1] (node 3) done := .stop (by decide) rfl rfl
  have hthrough : Walked [.ofNat 2, .ofNat 1] (node 2) through :=
    @Walked.step _ _ (node 2) (node 3) (some (.print (.text "through"))) done
      (by decide) (by decide) (by decide) rfl rfl hbehind
  have hdecision : Walked [.ofNat 1] (node 1) crossingBody :=
    @Walked.both _ _ (node 1) (node 2) (node 3) (.boolean true) through done
      (by decide) rfl rfl rfl hthrough haround
  have hstart : Walked [] (node 0) crossingBody :=
    @Walked.step _ _ (node 0) (node 1) none crossingBody
      (by decide) (by decide) (by decide) rfl rfl hdecision
  exact FlowGraph.functionBody_eq_ok_iff.2 ⟨crossingGraph, crossing_ofFunction, node 0, rfl, hstart⟩

end Flowchart
