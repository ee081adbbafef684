import Flowchart.Proofs.Acceptance
import Flowchart.Proofs.Errors

set_option autoImplicit false

/-! # Defects of blocks

Where the walk through a flow graph fails, and why. The identifiers on its path are those of a trail
from the start to the present block, so whatever it finds wrong is wrong with a block that can be
reached from the start, and a block met again on the path can be reached from itself. `Defect` says
for each error what is the matter with the block. -/

namespace Flowchart

open Relation (ReflTransGen TransGen)

open CompileError (Plain)

namespace FlowGraph

variable {g : FlowGraph}

/-! ## Ways that are taken -/

/-- The connections at a way out of a block: those of the right or the left side of a decision,
    those of all sides of any other block that goes on, and none at an end. -/
def IsExit (b : Block) (connections : List Connection) : Prop :=
  match b.kind with
  | .stop => False
  | .decision => connections = b.branch .right ∨ connections = b.branch .left
  | _ => connections = b.successors

theorem isExit_decision {b : Block} (kind : b.kind = .decision) {side : Side}
    (hside : side = .right ∨ side = .left) : IsExit b (b.branch side) := by
  rw [IsExit, kind]
  rcases hside with rfl | rfl
  · exact Or.inl rfl
  · exact Or.inr rfl

theorem isExit_successors {b : Block} (hstop : b.kind ≠ .stop) (hdecision : b.kind ≠ .decision) :
    IsExit b b.successors := by
  rw [IsExit]
  split
  · next kind => exact hstop kind
  · next kind => exact absurd kind hdecision
  · rfl

/-- The walk goes on from one block to another: along the only connection at a way out. -/
def LeadsTo (a b : g.Node) : Prop := ∃ connections, IsExit a.val connections ∧ Leads connections b

/-- The identifiers of the blocks, last one first, on a way from the start to a block. None of them
    comes twice. -/
inductive Trail (start : g.Node) : List Uuid → g.Node → Prop
  | here : Trail start [] start
  | step {path : List Uuid} {a b : g.Node} (trail : Trail start path a) (fresh : a.val.id ∉ path)
      (leads : LeadsTo a b) : Trail start (a.val.id :: path) b

namespace Trail

variable {start node : g.Node} {path : List Uuid}

theorem reach (h : Trail start path node) : ReflTransGen LeadsTo start node := by
  induction h with
  | here => exact .refl
  | step _ _ leads ih => exact ih.tail leads

/-- The end of a trail can be reached from each of its blocks. -/
theorem exists_behind (h : Trail start path node) {id : Uuid} (hmem : id ∈ path) :
    ∃ a : g.Node, a.val.id = id ∧ TransGen LeadsTo a node := by
  induction h with
  | here => cases hmem
  | @step path a b _ _ leads ih =>
    rcases List.mem_cons.1 hmem with rfl | hmem
    · exact ⟨a, rfl, .single leads⟩
    · obtain ⟨c, hid, hreach⟩ := ih hmem
      exact ⟨c, hid, hreach.tail leads⟩

end Trail

/-! ## Defects -/

/-- What is the matter with a block if the walk fails at it with an error. -/
inductive Defect (g : FlowGraph) (b : g.Node) : CompileError → Prop
  | missingSuccessor (kind : b.val.kind ≠ .decision) (exit : IsExit b.val []) :
      Defect g b (.missingSuccessor b.val.id b.val.kind)
  | ambiguousSuccessor {connections : List Connection} (exit : IsExit b.val connections)
      (many : 2 ≤ connections.length) :
      Defect g b (.ambiguousSuccessor b.val.id b.val.kind connections.length)
  | blockNotFound {connection : Connection} (exit : IsExit b.val [connection])
      (missing : ∀ other ∈ g.blocks, other.id ≠ connection.target) :
      Defect g b (.blockNotFound connection.target b.val.id)
  | decisionWithoutBranches (kind : b.val.kind = .decision) (right : b.val.branch .right = [])
      (left : b.val.branch .left = []) : Defect g b (.decisionWithoutBranches b.val.id)
  /-- Just one side is connected. -/
  | incompleteDecision (kind : b.val.kind = .decision) (type : g.returnType ≠ .void)
      (one : b.val.branch .right = [] ↔ b.val.branch .left ≠ []) :
      Defect g b (.incompleteDecision b.val.id g.function.fullName g.returnType)
  | missingStatement (kind : b.val.kind ∈ [.call, .assignment, .output, .decision])
      (none : b.val.statement? = none) : Defect g b (.missingStatement b.val.id b.val.kind)
  | missingVariable (kind : b.val.kind ∈ [.assignment, .input]) (none : b.val.target? = none) :
      Defect g b (.missingVariable b.val.id b.val.kind)
  /-- The block can be reached from itself. -/
  | cycleDetected (cycle : TransGen LeadsTo b b) : Defect g b (.cycleDetected b.val.id)
  | statement {s : Statement} {source : CompileError} (kind : b.val.kind ∉ [.start, .input])
      (some : b.val.statement? = some s) (failed : g.table.lower s = .error source) :
      Defect g b (.statement b.val.id source)
  /-- The variable has the type of a class, which cannot be read. -/
  | unsupportedInputType {v : Symbol} {typeName name : String} (kind : b.val.kind = .input)
      (writes : g.Writes b.val v) (declared : v.item.typeName = some typeName)
      (object : g.table.NamesType typeName (.class name)) :
      Defect g b (.unsupportedInputType b.val.id typeName)
  | unexpectedReturnValue (kind : b.val.kind = .stop) (type : g.returnType = .void)
      (some : b.val.statement? ≠ none) :
      Defect g b (.unexpectedReturnValue b.val.id g.function.fullName)
  | missingReturnValue (kind : b.val.kind = .stop) (type : g.returnType ≠ .void)
      (none : b.val.statement? = none) :
      Defect g b (.missingReturnValue b.val.id g.function.fullName g.returnType)
  | unresolvedName {name : String} (kind : b.val.kind ∈ [.assignment, .input])
      (target : b.val.target? = some name) (missing : g.table.find? name = none) :
      Defect g b (.unresolvedName name)
  | notAssignable {name : String} {s : Symbol} (kind : b.val.kind ∈ [.assignment, .input])
      (target : b.val.target? = some name) (found : g.table.find? name = some s)
      (other : s.item.kind.isAssignable = false) : Defect g b (.notAssignable name s.item.kind)
  | missingType {v : Symbol} (kind : b.val.kind = .input) (writes : g.Writes b.val v)
      (undeclared : v.item.typeName = none) : Defect g b (.missingType v.fullName)
  | unresolvedType {v : Symbol} {typeName : String} (kind : b.val.kind = .input)
      (writes : g.Writes b.val v) (declared : v.item.typeName = some typeName)
      (unknown : ∀ type, ¬ g.table.NamesType typeName type) :
      Defect g b (.unresolvedType typeName)

/-- A block that can be reached from the start has the defect that an error names. -/
def Blames (start : g.Node) (e : CompileError) : Prop :=
  ∃ b : g.Node, ReflTransGen LeadsTo start b ∧ g.Defect b e

/-! ## Errors of single blocks -/

section

variable {b : g.Node}

/-- If a connection cannot be followed, no block of the function has the wanted identifier. -/
theorem follow_fails {source : Block} {connection : Connection} :
    FailsWith (fun e => e = .blockNotFound connection.target source.id
      ∧ ∀ other ∈ g.blocks, other.id ≠ connection.target) (g.follow source connection) := by
  unfold follow
  split
  · exact .ok
  · next hnone =>
      refine .error ⟨rfl, fun other hother hid => ?_⟩
      have hdiffers := List.find?_eq_none.1 hnone ⟨other, hother⟩ (List.mem_attach _ _)
      simp [hid] at hdiffers

theorem next_fails (hstop : b.val.kind ≠ .stop) (hdecision : b.val.kind ≠ .decision) :
    FailsWith (g.Defect b) (g.next b.val) := by
  have hexit := isExit_successors hstop hdecision
  unfold next
  split
  · next hnone =>
      rw [hnone] at hexit
      exact .error (.missingSuccessor hdecision hexit)
  · next connection hone =>
      rw [hone] at hexit
      refine follow_fails.mono ?_
      rintro _ ⟨rfl, hmissing⟩
      exact .blockNotFound hexit hmissing
  · next hnone hmany =>
      refine .error (.ambiguousSuccessor hexit ?_)
      match hsuccessors : b.val.successors with
      | [] => exact absurd hsuccessors hnone
      | [connection] => exact absurd hsuccessors (hmany connection)
      | _ :: _ :: _ => simp

theorem branch_fails (kind : b.val.kind = .decision) {side : Side}
    (hside : side = .right ∨ side = .left) : FailsWith (g.Defect b) (g.branch b.val side) := by
  have hexit := isExit_decision kind hside
  unfold branch
  split
  · exact .ok
  · next connection hone =>
      rw [hone] at hexit
      refine FailsWith.bind (follow_fails.mono ?_) fun _ _ => .ok
      rintro _ ⟨rfl, hmissing⟩
      exact .blockNotFound hexit hmissing
  · next hnone hmany =>
      refine .error (.ambiguousSuccessor hexit ?_)
      match hbranch : b.val.branch side with
      | [] => exact absurd hbranch hnone
      | [connection] => exact absurd hbranch (hmany connection)
      | _ :: _ :: _ => simp

theorem branches_fails (hg : g.Distinct) (kind : b.val.kind = .decision) :
    FailsWith (g.Defect b) (g.branches b.val) := by
  unfold branches
  refine (branch_fails kind (Or.inl rfl)).bind fun whenTrue hright => ?_
  refine (branch_fails kind (Or.inr rfl)).bind fun whenFalse hleft => ?_
  have hright := hg.branch_ne_nil_iff hright
  have hleft := hg.branch_ne_nil_iff hleft
  split
  · next hnone =>
      refine .error (.decisionWithoutBranches kind ?_ ?_) <;> simp_all
  · next hsome =>
      split
      · next hone =>
          simp only [Bool.and_eq_true, Bool.or_eq_true, Option.isNone_iff_eq_none,
            decide_eq_true_eq] at hone hsome
          refine .error (.incompleteDecision kind hone.1 ?_)
          cases whenTrue <;> cases whenFalse <;> simp_all
      · exact .ok

theorem expression_fails {s : Statement} (kind : b.val.kind ∉ [.start, .input])
    (hs : b.val.statement? = some s) : FailsWith (g.Defect b) (g.expression b.val s) :=
  .mapError fun _ hfailed => .statement kind hs hfailed

theorem requiredExpression_fails (kind : b.val.kind ∈ [.call, .assignment, .output, .decision]) :
    FailsWith (g.Defect b) (g.requiredExpression b.val) := by
  unfold requiredExpression
  split
  · next s hs =>
      refine expression_fails ?_ hs
      cases hkind : b.val.kind <;> simp_all
  · next hnone => exact .error (.missingStatement kind hnone)

theorem assigned_fails (kind : b.val.kind ∈ [.assignment, .input]) :
    FailsWith (g.Defect b) (g.assigned b.val) := by
  unfold assigned
  split
  · next hnone => exact .error (.missingVariable kind hnone)
  · next name htarget =>
      unfold SymbolTable.resolve
      split
      · next v hfound =>
          rw [ok_bind]
          split
          · exact .ok
          · next hother => exact .error (.notAssignable kind htarget hfound (by simpa using hother))
      · next hmissing => exact .error (.unresolvedName kind htarget hmissing)

theorem readStatement_fails (kind : b.val.kind = .input) :
    FailsWith (g.Defect b) (g.readStatement b.val) := by
  unfold readStatement
  refine (assigned_fails (by simp [kind])).bind fun v hv => ?_
  have hwrites := writes_iff.2 hv
  unfold SymbolTable.resolveTypeOf
  split
  · next typeName hdeclared =>
      refine FailsWith.bind ?_ fun type htype => ?_
      · intro e he
        cases g.table.resolveType_fails typeName e he
        refine .unresolvedType kind hwrites hdeclared fun type htype => ?_
        rw [SymbolTable.resolveType_eq_ok_iff.2 htype] at he
        cases he
      · cases SymbolTable.resolveType_eq_ok_iff.1 htype with
        | number | boolean | text => exact .ok
        | «class» other found object =>
          rw [hdeclared]
          exact .error (.unsupportedInputType kind hwrites hdeclared (.class other found object))
  · next hundeclared => exact .error (.missingType kind hwrites hundeclared)

theorem head_fails : FailsWith (g.Defect b) (g.head b.val) := by
  unfold head
  split
  · next kind => exact (requiredExpression_fails (by simp [kind])).bind fun _ _ => .ok
  · next kind =>
      refine (assigned_fails (by simp [kind])).bind fun _ _ => ?_
      exact (requiredExpression_fails (by simp [kind])).bind fun _ _ => .ok
  · next kind => exact (readStatement_fails kind).bind fun _ _ => .ok
  · next kind => exact (requiredExpression_fails (by simp [kind])).bind fun _ _ => .ok
  · exact .ok
  · exact .ok
  · exact .ok

theorem returnStatement_fails (kind : b.val.kind = .stop) :
    FailsWith (g.Defect b) (g.returnStatement b.val) := by
  unfold returnStatement
  split
  · next s hs =>
      split
      · next htype => exact .error (.unexpectedReturnValue kind htype (by simp [hs]))
      · exact (expression_fails (by simp [kind]) hs).bind fun _ _ => .ok
  · next hnone =>
      split
      · exact .ok
      · next htype => exact .error (.missingReturnValue kind htype hnone)

end

/-! ## Errors of the walk -/

theorem leadsTo_of_next (hg : g.Distinct) {a b : g.Node} (hstop : a.val.kind ≠ .stop)
    (hdecision : a.val.kind ≠ .decision) (h : g.next a.val = .ok b) : LeadsTo a b :=
  ⟨_, isExit_successors hstop hdecision, hg.next_eq_ok_iff.1 h⟩

theorem leadsTo_of_branch (hg : g.Distinct) {a b : g.Node} (kind : a.val.kind = .decision)
    {side : Side} (hside : side = .right ∨ side = .left)
    (h : g.branch a.val side = .ok (some b)) : LeadsTo a b := by
  rcases hg.branch_eq_ok_iff.1 h with ⟨⟨⟩, -⟩ | ⟨next, heq, hleads⟩
  cases heq
  exact ⟨_, isExit_decision kind hside, hleads⟩

/-- A defect of the block at the end of a trail is one of a block that can be reached. -/
theorem Trail.blames {α : Type} {start node : g.Node} {path : List Uuid} {x : Except CompileError α}
    (h : Trail start path node) (hx : FailsWith (g.Defect node) x) :
    FailsWith (g.Blames start) x :=
  hx.mono fun _ he => ⟨node, h.reach, he⟩

/-- What the walk fails with at the end of a trail is a defect of a block that can be reached from
    where the trail starts. -/
theorem Trail.walk_fails (hg : g.Distinct) {start node : g.Node} {path : List Uuid}
    (h : Trail start path node) : FailsWith (g.Blames start) (g.walk path node) := by
  -- on the recursion of the walk, along which the path stays a trail
  induction path, node using walk.induct g with
  | case1 path node hmem =>
    obtain ⟨a, hid, hcycle⟩ := h.exists_behind hmem
    rw [hg.node_ext hid] at hcycle
    rw [walk_of_mem hmem]
    exact .error ⟨node, h.reach, .cycleDetected hcycle⟩
  | case2 path node hfresh _ hkind =>
    rw [walk_stop hfresh hkind]
    exact (h.blames (returnStatement_fails hkind)).bind fun _ _ => .ok
  | case3 path node hfresh _ path' hkind =>
    rename_i ih
    rw [walk_decision hfresh hkind]
    refine (h.blames (requiredExpression_fails (by simp [hkind]))).bind fun condition _ => ?_
    refine (h.blames (branches_fails hg hkind)).bind fun ways hbranches => ?_
    obtain ⟨whenTrue, whenFalse⟩ := ways
    obtain ⟨hright, hleft, -⟩ := branches_eq_ok_iff.1 hbranches
    have hside : ∀ {side : Side} {next : g.Node}, side = .right ∨ side = .left →
        g.branch node.val side = .ok (some next) →
        FailsWith (g.Blames start) (g.walk path' next) := fun hside hnext =>
      ih _ (h.step hfresh (leadsTo_of_branch hg hkind hside hnext))
    refine FailsWith.bind ?_ fun thenBody _ => ?_
    · cases whenTrue with
      | none => exact .ok
      | some next => exact hside (Or.inl rfl) hright
    · cases whenFalse with
      | none => exact .ok
      | some next => exact (hside (Or.inr rfl) hleft).bind fun _ _ => .ok
  | case4 path node hfresh _ path' hstop hdecision =>
    rename_i ih
    rw [walk_step hfresh hstop hdecision]
    refine (h.blames head_fails).bind fun head _ => ?_
    refine (h.blames (next_fails hstop hdecision)).bind fun next hnext => ?_
    have htrail := h.step hfresh (leadsTo_of_next hg hstop hdecision hnext)
    exact (ih next htrail).bind fun _ _ => .ok

/-! ## Errors of a function -/

theorem plain_ofFunction (t : SymbolTable) (name : String) :
    FailsWith Plain (ofFunction t name) := by
  unfold ofFunction
  refine (t.plain_resolve name).bind fun function _ => ?_
  split
  · exact (t.plain_resolveReturnTypeOf function).bind fun _ _ => .ok
  · exact .error ⟨rfl, trivial, not_false⟩

theorem plain_start : FailsWith Plain g.start := by
  unfold start
  split
  · exact .error ⟨rfl, trivial, not_false⟩
  · exact .ok
  · exact .error ⟨rfl, trivial, not_false⟩

/-- The error is about no block, or about one that can be reached from the start of the function. -/
def Explains (t : SymbolTable) (name : String) (e : CompileError) : Prop :=
  e.Unplaced ∨ ∃ g : FlowGraph, ofFunction t name = .ok g
    ∧ ∃ start : g.Node, g.blocks.filter (·.kind = .start) = [start.val] ∧ Blames start e

theorem functionBody_fails {t : SymbolTable} {root : Item} (ht : t.Lists root) (name : String) :
    FailsWith (Explains t name) (t.functionBody name) := by
  unfold SymbolTable.functionBody
  refine ((plain_ofFunction t name).mono fun _ he => Or.inl he.unplaced).bind fun g hg => ?_
  refine (plain_start.mono fun _ he => Or.inl he.unplaced).bind fun start hstart => ?_
  refine (Trail.here.walk_fails (distinct_of_lists ht hg)).mono fun e he => ?_
  exact Or.inr ⟨g, hg, start, start_eq_ok_iff.1 hstart, he⟩

/-- An error about a block is about the block that has the defect. -/
theorem Defect.id_eq {b : g.Node} {e : CompileError} (h : g.Defect b e) {id : Uuid}
    (hid : e.block? = some id) : b.val.id = id := by
  cases h <;> simp_all [CompileError.block?]

/-- The only context that a defect can have around it is the block it was found in. -/
theorem Defect.bare_or_statement {b : g.Node} {e : CompileError} (h : g.Defect b e) :
    e.IsBare ∨ ∃ source, e = .statement b.val.id source ∧ source.IsBare := by
  cases h with
  | statement kind some failed =>
    exact Or.inr ⟨_, rfl, (g.table.plain_lower _ _ failed).isBare⟩
  | _ => exact Or.inl trivial

/-- No block has to do with the entry function. -/
theorem Defect.not_entry {b : g.Node} {e : CompileError} (h : g.Defect b e) :
    ¬ e.rootCause.IsEntryFault := by
  cases h with
  | statement kind some failed =>
    have hplain := g.table.plain_lower _ _ failed
    rw [CompileError.rootCause, hplain.isBare.rootCause_eq]
    exact hplain.not_entry
  | _ => exact id

theorem functionBody_not_entry {t : SymbolTable} {root : Item} (ht : t.Lists root) (name : String) :
    FailsWith (fun e => ¬ e.rootCause.IsEntryFault) (t.functionBody name) := by
  unfold SymbolTable.functionBody
  refine ((plain_ofFunction t name).mono fun _ he => he.not_entry_rootCause).bind fun g hg => ?_
  refine (plain_start.mono fun _ he => he.not_entry_rootCause).bind fun start _ => ?_
  refine (Trail.here.walk_fails (distinct_of_lists ht hg)).mono ?_
  rintro e ⟨b, -, hdefect⟩
  exact hdefect.not_entry

end FlowGraph

end Flowchart
