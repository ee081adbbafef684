import Flowchart.Proofs.Repetitions
import Flowchart.Proofs.Reports

set_option autoImplicit false

/-! # The walk with a path of its own

The walk as a procedure that keeps one path for all its calls: a call puts its block on the path,
compiles it and takes it off again, whatever came of it. Nothing remembers which blocks have been
compiled, and the depth of the calls is bounded from outside. That bound is never needed: on every
path the blocks differ, so there are at most as many calls inside each other as the function has
blocks, and one more that finds the block on the path. -/

namespace Flowchart.FlowGraph

variable {g : FlowGraph} {α β : Type}

/-! ## The procedure -/

/-- A call for a block, with the identifiers that are on the path then, last one first. -/
structure Visit (g : FlowGraph) where
  path : List Uuid
  node : g.Node

/-- What the procedure changes. -/
structure Walker (g : FlowGraph) where
  path : List Uuid := []
  readsInput : Bool := false
  /-- All calls so far. -/
  visits : List (Visit g) := []

/-- Why there are no statements. -/
inductive Halt where
  | failed (e : CompileError)
  /-- The calls are deeper inside each other than allowed. -/
  | tooDeep

/-- What is done by a walker that may halt. The changes made until then stay. -/
abbrev Walking (g : FlowGraph) (α : Type) := ExceptT Halt (StateM (Walker g)) α

namespace Walking

/-- A check that changes nothing. -/
def check (x : Except CompileError α) : Walking g α :=
  ExceptT.mk (return x.mapError .failed)

/-- Notes a call; the result is the path at its beginning. -/
def enter (node : g.Node) : Walking g (List Uuid) := do
  let path := (← get).path
  modify fun w => { w with visits := w.visits ++ [⟨path, node⟩] }
  return path

/-- Does something with a block on the path, and takes the last block off the path then. -/
def withBlock (node : g.Node) (action : Walking g α) : Walking g α := ExceptT.mk do
  modify fun w => { w with path := node.val.id :: w.path }
  let result ← action.run
  modify fun w => { w with path := w.path.tail }
  return result

/-- Notes that input is read. -/
def noteInput (kind : BlockKind) : Walking g Unit :=
  modify fun w => { w with readsInput := kind == .input || w.readsInput }

/-- Does something for the block at one side of a decision, if there is one. -/
def onSide (go : g.Node → Walking g (List JavaStmt)) :
    Option g.Node → Walking g (List JavaStmt)
  | some next => go next
  | none => return []

/-- Compiles a block; `go` is what is done for the blocks that follow it. -/
def compileBlock (go : g.Node → Walking g (List JavaStmt)) (node : g.Node) :
    Walking g (List JavaStmt) :=
  match node.val.kind with
  | .stop => do
    let statement ← check (g.returnStatement node.val)
    return [statement]
  | .decision => do
    let condition ← check (g.requiredExpression node.val)
    let (whenTrue, whenFalse) ← check (g.branches node.val)
    let thenBranch ← onSide go whenTrue
    match whenFalse with
    | some next =>
      let elseBranch ← go next
      return [.ifElse condition thenBranch (some elseBranch)]
    | none => return [.ifElse condition thenBranch none]
  | kind => do
    let head ← check (g.head node.val)
    noteInput kind
    let next ← check (g.next node.val)
    let rest ← go next
    return head.toList ++ rest

/-- Compiles everything that is reached from a block, with at most so many calls inside each
    other. -/
def compileFrom : Nat → g.Node → Walking g (List JavaStmt)
  | 0, _ => throw .tooDeep
  | depth + 1, node => do
    let path ← enter node
    if node.val.id ∈ path then check (.error (.cycleDetected node.val.id))
    else withBlock node (compileBlock (compileFrom depth) node)

/-! ## Running it -/

section

variable {w w' : Walker g} {action : Walking g α} {result : Except Halt α}

theorem run_bind_ok {a : α} (h : action.run w = (.ok a, w')) (next : α → Walking g β) :
    (action >>= next).run w = (next a).run w' := by
  rw [ExceptT.run_bind]
  show (StateT.bind _ _) w = _
  simp only [StateT.bind, h]
  rfl

theorem run_bind_error {e : Halt} (h : action.run w = (.error e, w')) (next : α → Walking g β) :
    (action >>= next).run w = (.error e, w') := by
  rw [ExceptT.run_bind]
  show (StateT.bind _ _) w = _
  simp only [StateT.bind, h]
  rfl

theorem run_check_ok (a : α) (next : α → Walking g β) :
    (check (.ok a) >>= next).run w = (next a).run w :=
  run_bind_ok rfl next

theorem run_check_error (e : CompileError) (next : α → Walking g β) :
    (check (.error e) >>= next).run w = (.error (.failed e), w) :=
  run_bind_error rfl next

theorem run_withBlock {node : g.Node}
    (h : action.run { w with path := node.val.id :: w.path } = (result, w')) :
    (withBlock node action).run w = (result, { w' with path := w'.path.tail }) := by
  have hrun : (withBlock node action).run w
      = ((action.run { w with path := node.val.id :: w.path }).1,
        { (action.run { w with path := node.val.id :: w.path }).2 with
          path := (action.run { w with path := node.val.id :: w.path }).2.path.tail }) := rfl
  rw [hrun, h]

/-- What a run comes to, beside what is compiled: it ends as the compilation does, the path is what
    it was before, and every call on the way has some property. -/
inductive Ends (w : Walker g) (P : Visit g → Prop) :
    Except CompileError Body → Except Halt (List JavaStmt) × Walker g → Prop
  | ok (body : Body) {visits : List (Visit g)} (all : ∀ v ∈ visits, P v) :
      Ends w P (.ok body) (.ok body.statements,
        ⟨w.path, body.readsInput || w.readsInput, w.visits ++ visits⟩)
  | failed {e : CompileError} {readsInput : Bool} {visits : List (Visit g)}
      (all : ∀ v ∈ visits, P v) :
      Ends w P (.error e) (.error (.failed e), ⟨w.path, readsInput, w.visits ++ visits⟩)

variable {P : Visit g → Prop} {x : Except CompileError Body}
  {outcome : Except Halt (List JavaStmt) × Walker g}

theorem Ends.done (statements : List JavaStmt) :
    Ends w P (.ok { statements, readsInput := false }) (.ok statements, w) := by
  have h : Ends w P (.ok { statements, readsInput := false })
      (.ok statements, ⟨w.path, w.readsInput, w.visits ++ []⟩) :=
    .ok _ (List.forall_mem_nil _)
  rwa [List.append_nil] at h

theorem Ends.halted (e : CompileError) (readsInput : Bool) :
    Ends w P (.error e) (.error (.failed e), { w with readsInput }) := by
  have h : Ends w P (.error e)
      (.error (.failed e), ⟨w.path, readsInput, w.visits ++ []⟩) := .failed (List.forall_mem_nil _)
  rwa [List.append_nil] at h

/-- What follows a run goes on with the statements and the walker that the run leaves. -/
theorem Ends.bind {action : Walking g (List JavaStmt)} (h : Ends w P x (action.run w))
    {f : Body → Except CompileError Body} {next : List JavaStmt → Walking g (List JavaStmt)}
    (hnext : ∀ body visits, (∀ v ∈ visits, P v) →
      Ends w P (f body) ((next body.statements).run
        ⟨w.path, body.readsInput || w.readsInput, w.visits ++ visits⟩)) :
    Ends w P (x >>= f) ((action >>= next).run w) := by
  generalize hrun : action.run w = outcome at h
  cases h with
  | @ok body visits all =>
    rw [run_bind_ok hrun]
    exact hnext body visits all
  | failed all =>
    rw [run_bind_error hrun]
    exact .failed all

/-- What was done before adds its calls and its reading of input. -/
theorem Ends.after {first : Bool} (visits : List (Visit g)) (hvisits : ∀ v ∈ visits, P v)
    {action : Walking g (List JavaStmt)}
    (h : Ends ⟨w.path, first || w.readsInput, w.visits ++ visits⟩ P x
      (action.run ⟨w.path, first || w.readsInput, w.visits ++ visits⟩))
    (f : List JavaStmt → List JavaStmt) :
    Ends w P
      (x >>= fun rest => .ok { statements := f rest.statements
                               readsInput := first || rest.readsInput })
      ((action >>= fun statements => return f statements).run
        ⟨w.path, first || w.readsInput, w.visits ++ visits⟩) := by
  have hall : ∀ {more}, (∀ v ∈ more, P v) → ∀ v ∈ visits ++ more, P v :=
    fun hmore v hv => (List.mem_append.1 hv).elim (hvisits v) (hmore v)
  generalize hrun : action.run _ = outcome at h
  cases h with
  | @ok body more all =>
    rw [run_bind_ok hrun, Bool.or_left_comm, ← Bool.or_assoc, List.append_assoc]
    exact .ok ⟨f body.statements, first || body.readsInput⟩ (hall all)
  | failed all =>
    rw [run_bind_error hrun, List.append_assoc]
    exact .failed (hall all)

/-- A block that is put on the path is taken off again, and the call for it is one more. -/
theorem Ends.withBlock {node : g.Node} {visit : Visit g} (hvisit : P visit)
    {action : Walking g (List JavaStmt)}
    (h : Ends ⟨node.val.id :: w.path, w.readsInput, w.visits ++ [visit]⟩ P x
      (action.run ⟨node.val.id :: w.path, w.readsInput, w.visits ++ [visit]⟩)) :
    Ends w P x ((Walking.withBlock node action).run { w with visits := w.visits ++ [visit] }) := by
  have hall : ∀ {more}, (∀ v ∈ more, P v) → ∀ v ∈ visit :: more, P v :=
    fun hmore => List.forall_mem_cons.2 ⟨hvisit, hmore⟩
  generalize hrun : action.run _ = outcome at h
  cases h with
  | ok body all =>
    rw [run_withBlock hrun, List.append_assoc]
    exact .ok body (hall all)
  | failed all =>
    rw [run_withBlock hrun, List.append_assoc]
    exact .failed (hall all)

theorem Ends.mono {Q : Visit g → Prop} (h : Ends w P x outcome) (hPQ : ∀ v, P v → Q v) :
    Ends w Q x outcome := by
  cases h with
  | ok body all => exact .ok body fun v hv => hPQ v (all v hv)
  | failed all => exact .failed fun v hv => hPQ v (all v hv)

end

/-! ## One block -/

section

variable {P : Visit g → Prop} {path : List Uuid} {node : g.Node} {w : Walker g}
  {go : g.Node → Walking g (List JavaStmt)}

/-- For the blocks that follow a block, `go` ends as the walk does. -/
def GoesOn (P : Visit g → Prop) (path : List Uuid) (node : g.Node)
    (go : g.Node → Walking g (List JavaStmt)) : Prop :=
  ∀ next w, LeadsTo node next → w.path = node.val.id :: path →
    Ends w P (g.walk (node.val.id :: path) next) ((go next).run w)

theorem ends_stop (hfresh : node.val.id ∉ path) (hkind : node.val.kind = .stop) :
    Ends w P (g.walk path node) ((compileBlock go node).run w) := by
  rw [walk_stop hfresh hkind, compileBlock]
  simp only [hkind]
  cases g.returnStatement node.val with
  | error e =>
    rw [run_check_error]
    exact .halted e w.readsInput
  | ok statement =>
    rw [run_check_ok]
    exact .done [statement]

theorem ends_step (hg : g.Distinct) (hfresh : node.val.id ∉ path)
    (hstop : node.val.kind ≠ .stop) (hdecision : node.val.kind ≠ .decision)
    (hw : w.path = node.val.id :: path) (hgo : GoesOn P path node go) :
    Ends w P (g.walk path node) ((compileBlock go node).run w) := by
  have hblock : compileBlock go node = (do
      let head ← check (g.head node.val)
      noteInput node.val.kind
      let next ← check (g.next node.val)
      let rest ← go next
      return head.toList ++ rest) := by
    rw [compileBlock]
    split
    · next hkind => exact absurd hkind hstop
    · next hkind => exact absurd hkind hdecision
    · rfl
  rw [walk_step hfresh hstop hdecision, hblock]
  cases g.head node.val with
  | error e =>
    rw [run_check_error]
    exact .halted e w.readsInput
  | ok head =>
    have hnote : (noteInput node.val.kind : Walking g Unit).run w
        = (.ok (), { w with readsInput := node.val.kind == .input || w.readsInput }) := rfl
    rw [run_check_ok, run_bind_ok hnote, ok_bind]
    cases hnext : g.next node.val with
    | error e =>
      rw [run_check_error]
      exact .halted e _
    | ok next =>
      rw [run_check_ok, ok_bind]
      have hleads := leadsTo_of_next hg hstop hdecision hnext
      have hrest := hgo next { w with readsInput := node.val.kind == .input || w.readsInput }
        hleads hw
      simpa only [List.append_nil] using
        Ends.after (w := w) [] (List.forall_mem_nil _)
          (by simpa only [List.append_nil] using hrest) (head.toList ++ ·)

theorem ends_decision (hg : g.Distinct) (hfresh : node.val.id ∉ path)
    (hkind : node.val.kind = .decision) (hw : w.path = node.val.id :: path)
    (hgo : GoesOn P path node go) :
    Ends w P (g.walk path node) ((compileBlock go node).run w) := by
  rw [walk_decision hfresh hkind, compileBlock]
  simp only [hkind]
  cases g.requiredExpression node.val with
  | error e =>
    rw [run_check_error]
    exact .halted e w.readsInput
  | ok condition =>
    rw [run_check_ok, ok_bind]
    cases hbranches : g.branches node.val with
    | error e =>
      rw [run_check_error]
      exact .halted e w.readsInput
    | ok ways =>
      obtain ⟨whenTrue, whenFalse⟩ := ways
      obtain ⟨hright, hleft, -⟩ := branches_eq_ok_iff.1 hbranches
      rw [run_check_ok, ok_bind]
      have hside : Ends w P (g.walkSide (node.val.id :: path) whenTrue)
          ((onSide go whenTrue).run w) := by
        cases whenTrue with
        | none => exact .done []
        | some next => exact hgo next w (leadsTo_of_branch hg hkind (.inl rfl) hright) hw
      refine hside.bind fun thenBody visits hvisits => ?_
      cases whenFalse with
      | none =>
        exact .ok ⟨[.ifElse condition thenBody.statements none], thenBody.readsInput⟩ hvisits
      | some next =>
        have helse := hgo next ⟨w.path, thenBody.readsInput || w.readsInput, w.visits ++ visits⟩
          (leadsTo_of_branch hg hkind (.inr rfl) hleft) hw
        exact .after visits hvisits helse
          fun statements => [.ifElse condition thenBody.statements (some statements)]

/-- A block is compiled as the walk does it, if the blocks behind it are. -/
theorem ends_block (hg : g.Distinct) (hfresh : node.val.id ∉ path)
    (hw : w.path = node.val.id :: path) (hgo : GoesOn P path node go) :
    Ends w P (g.walk path node) ((compileBlock go node).run w) := by
  by_cases hstop : node.val.kind = .stop
  · exact ends_stop hfresh hstop
  by_cases hdecision : node.val.kind = .decision
  · exact ends_decision hg hfresh hdecision hw hgo
  · exact ends_step hg hfresh hstop hdecision hw hgo

end

end Walking

/-! ## All calls -/

namespace Trail

variable {start node : g.Node} {path : List Uuid}

theorem nodup (h : Trail start path node) : path.Nodup := by
  induction h with
  | here => exact .nil
  | step _ fresh _ ih => exact ih.cons fresh

theorem length_le (h : Trail start path node) : path.length ≤ g.blocks.length := by
  have hsubset : path ⊆ g.blocks.map (·.id) := by
    intro id hid
    obtain ⟨a, rfl, -⟩ := h.exists_behind hid
    exact List.mem_map_of_mem a.property
  simpa using (List.subperm_of_subset h.nodup hsubset).length_le

end Trail

/-- A call on a way from a start: the path has the blocks of the way, which belong to the function
    and differ, so there are not more of them than the function has. -/
structure Visit.IsOrderly (start : g.Node) (v : Visit g) : Prop where
  trail : Trail start v.path v.node
  nodup : v.path.Nodup
  owned : ∀ id ∈ v.path, ∃ b ∈ g.blocks, b.id = id
  length_le : v.path.length ≤ g.blocks.length

theorem Trail.isOrderly {start node : g.Node} {path : List Uuid} (h : Trail start path node) :
    Visit.IsOrderly start ⟨path, node⟩ where
  trail := h
  nodup := h.nodup
  owned id hid := by
    obtain ⟨a, hid, -⟩ := h.exists_behind hid
    exact ⟨a, a.property, hid⟩
  length_le := h.length_le

namespace Walking

/-- With enough depth for the blocks that are not on the path, the compilation from a block ends as
    the walk does. -/
theorem ends_compileFrom (hg : g.Distinct) {depth : Nat} {node : g.Node} {w : Walker g}
    (hdepth : (g.unvisited w.path).length < depth) :
    Ends w (fun v => ∀ start, Trail start w.path node → v.IsOrderly start)
      (g.walk w.path node) ((compileFrom depth node).run w) := by
  -- on the depth: a call inside puts one more block on the path, so fewer are left
  induction depth generalizing node w with
  | zero => cases hdepth
  | succ depth ih =>
    have henter : (enter node).run w
        = (.ok w.path, { w with visits := w.visits ++ [⟨w.path, node⟩] }) := rfl
    have hvisit : ∀ start, Trail start w.path node → Visit.IsOrderly start ⟨w.path, node⟩ :=
      fun _ htrail => htrail.isOrderly
    rw [compileFrom, run_bind_ok henter]
    by_cases hmem : node.val.id ∈ w.path
    · rw [if_pos hmem, walk_of_mem hmem]
      exact .failed (List.forall_mem_singleton.2 hvisit)
    · rw [if_neg hmem]
      refine .withBlock hvisit (ends_block hg hmem rfl fun next w' hleads hpath => ?_)
      have hfewer : (g.unvisited w'.path).length < depth := by
        have hlt := g.unvisited_cons_lt node hmem
        rw [hpath]
        omega
      have hnext := @ih next w' hfewer
      rw [hpath] at hnext
      exact hnext.mono fun v hv start htrail => hv start (htrail.step hmem hleads)

end Walking

/-- A block is found by its identifier if the function that is compiled owns the one that the table
    has. -/
theorem node?_eq_owned {t : SymbolTable} {root : Item} {name : String} (ht : t.Lists root)
    (hg : ofFunction t name = .ok g) (id : Uuid) :
    (g.node? id).map Subtype.val
      = ((t.findBlock? id).filter (·.owner = g.function.fullName)).map (·.block) := by
  obtain ⟨-, hfind, -, -⟩ := ofFunction_eq_ok_iff.1 hg
  have hfunction := (ht.find?_eq_some_iff.1 hfind).1
  ext b
  simp only [Option.map_eq_some_iff, Option.filter_eq_some_iff, decide_eq_true_eq,
    (distinct_of_lists ht hg).node?_eq_some_iff, ht.findBlock?_eq_some_iff, ht.blocks_eq,
    List.mem_flatMap, Symbol.ownedBlocks, List.mem_map]
  constructor
  · rintro ⟨node, rfl, rfl⟩
    exact ⟨⟨node.val, g.function.fullName⟩,
      ⟨⟨⟨g.function, hfunction, node.val, node.property, rfl⟩, rfl⟩, rfl⟩, rfl⟩
  · rintro ⟨_, ⟨⟨⟨s, hs, c, hc, rfl⟩, rfl⟩, howner⟩, rfl⟩
    rw [ht.symbol_unique hs hfunction howner] at hc
    exact ⟨⟨c, hc⟩, rfl, rfl⟩

/-- For every table that can be built and every function in it: a block is looked up in the whole
    table, and it counts only if the function owns it. From every block, whatever is on the path,
    the compilation comes to an end with no more calls inside each other than the function has
    blocks, and one. It gives what the walk gives, and leaves the path as it was. On a way from a
    start, the path of each call holds the blocks of that way: they belong to the function, and
    none of them comes twice. -/
theorem compileFrom_terminates {t : SymbolTable} {root : Item} {name : String}
    (ht : SymbolTable.build root = .ok t) (hg : ofFunction t name = .ok g) :
    (∀ id, (g.node? id).map Subtype.val
        = ((t.findBlock? id).filter (·.owner = g.function.fullName)).map (·.block))
      ∧ ∀ node w, Walking.Ends w (fun v => ∀ start, Trail start w.path node → v.IsOrderly start)
          (g.walk w.path node) ((Walking.compileFrom (g.blocks.length + 1) node).run w) := by
  have hlists := SymbolTable.build_eq_ok_iff.1 ht
  refine ⟨node?_eq_owned hlists hg, fun node w => ?_⟩
  have hdepth : (g.unvisited w.path).length < g.blocks.length + 1 :=
    Nat.lt_succ_of_le (List.length_filter_le ..)
  exact Walking.ends_compileFrom (distinct_of_lists hlists hg) hdepth

/-- The graph of the function with the loop. -/
def windingGraph : FlowGraph where
  table := windingTable
  function := windingTable.symbols[1]
  returnType := .void

theorem winding_ofFunction : ofFunction windingTable "Demo.run" = .ok windingGraph := rfl

/-- The start of the function with the loop. -/
def windingStart : windingGraph.Node := ⟨windingGraph.blocks[0], List.getElem_mem _⟩

theorem winding_walk : windingGraph.walk [] windingStart = .error (.cycleDetected (.ofNat 2)) := by
  have h := winding_body
  rwa [SymbolTable.functionBody, winding_ofFunction] at h

/-- The loop is refused, and the path is empty again. -/
theorem winding_compileFrom :
    ∃ w, (Walking.compileFrom 5 windingStart).run {}
        = (.error (.failed (.cycleDetected (.ofNat 2))), w)
      ∧ w.path = [] ∧ ∀ v ∈ w.visits, v.IsOrderly windingStart := by
  have h := (compileFrom_terminates winding_build winding_ofFunction).2 windingStart {}
  rw [show ({} : Walker windingGraph).path = [] from rfl, winding_walk] at h
  generalize hrun : (Walking.compileFrom _ windingStart).run {} = outcome at h
  cases h with
  | failed all => exact ⟨_, hrun, rfl, fun v hv => all v hv windingStart .here⟩

end Flowchart.FlowGraph
