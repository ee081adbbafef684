import Flowchart.Proofs.Blocks
import Flowchart.Proofs.Expressions
import Flowchart.Proofs.Walk

set_option autoImplicit false

/-! # Accesses to variables

Where the blocks of a function read and write variables, and under which names. The names from which
accesses start in a compiled body are exactly those under which the blocks that can be reached from
the start access their variables. -/

namespace Flowchart

open Relation (ReflTransGen)

/-! ## Heads of statements -/

namespace JavaStmt

mutual

/-- The names from which a statement starts its accesses. -/
def heads : JavaStmt → List String
  | .expression e | .print e | .return (some e) => e.heads
  | .return none => []
  | .assign target value => target.heads ++ value.heads
  | .ifElse condition thenBranch none => condition.heads ++ headsAll thenBranch
  | .ifElse condition thenBranch (some elseBranch) =>
    condition.heads ++ headsAll thenBranch ++ headsAll elseBranch
  | .localVariable _ _ initializer => initializer.heads
  | .readInput target _ fallback => target.heads ++ fallback.heads

/-- The heads of several statements. -/
def headsAll : List JavaStmt → List String
  | [] => []
  | statement :: rest => statement.heads ++ headsAll rest

end

end JavaStmt

/-- What can be read from input falls back on a literal. -/
theorem JavaType.heads_defaultValue {type : JavaType} {method : String} {fallback : JavaExpr}
    (hmethod : type.inputMethod? = some method) (h : type.defaultValue = .ok fallback) :
    fallback.heads = [] := by
  cases type with
  | double | boolean | string =>
    cases h
    rfl
  | void => cases h
  | array element => cases h
  | «class» name => simp [inputMethod?] at hmethod

/-- How a block gets at a variable. -/
inductive AccessKind where
  /-- In an expression, as the first step of a chain. -/
  | read
  /-- As the target of an assignment. -/
  | assigned
  /-- As the target of an input. -/
  | input

namespace FlowGraph

variable {g : FlowGraph}

/-! ## Accesses of a block -/

/-- A block gets at a variable or parameter under a name. -/
inductive Accesses (g : FlowGraph) (b : Block) : AccessKind → Symbol → String → Prop
  | read {s : Statement} {v : Symbol} {n : String} (not_start : b.kind ≠ .start)
      (not_input : b.kind ≠ .input) (statement : b.statement? = some s)
      (reads : g.table.Reads s v n) : Accesses g b .read v n
  | assigned {v : Symbol} {e : JavaExpr} {n : String} (kind : b.kind = .assignment)
      (target : g.assigned b = .ok v) (value : g.requiredExpression b = .ok e)
      (emitted : g.assignmentTarget v e = .name n) : Accesses g b .assigned v n
  | input {v : Symbol} {method n : String} {fallback : JavaExpr} (kind : b.kind = .input)
      (target : g.assigned b = .ok v)
      (emitted : g.readStatement b = .ok (.readInput (.name n) method fallback)) :
      Accesses g b .input v n

/-- A name under which a block gets at a variable. -/
def AccessName (g : FlowGraph) (b : Block) (n : String) : Prop := ∃ how v, g.Accesses b how v n

variable {b : Block} {n : String}

theorem not_accessName_of_start (kind : b.kind = .start) : ¬ g.AccessName b n := by
  rintro ⟨how, v, h⟩
  cases h <;> simp_all

/-- The names under which a call, an output, a decision or an end gets at variables are those its
    statement reads. -/
theorem accessName_iff_reads {s : Statement} (not_start : b.kind ≠ .start)
    (not_input : b.kind ≠ .input) (not_assignment : b.kind ≠ .assignment)
    (hs : b.statement? = some s) : g.AccessName b n ↔ ∃ v, g.table.Reads s v n := by
  constructor
  · rintro ⟨how, v, h⟩
    cases h with
    | read _ _ statement reads =>
      rw [hs] at statement
      cases statement
      exact ⟨v, reads⟩
    | assigned kind => exact absurd kind not_assignment
    | input kind => exact absurd kind not_input
  · rintro ⟨v, reads⟩
    exact ⟨.read, v, .read not_start not_input hs reads⟩

theorem mem_heads_requiredExpression_iff {e : JavaExpr} (he : g.requiredExpression b = .ok e) :
    ∃ s, b.statement? = some s ∧ (n ∈ e.heads ↔ ∃ v, g.table.Reads s v n) := by
  obtain ⟨s, hs, hlower⟩ := requiredExpression_eq_ok_iff.1 he
  exact ⟨s, hs, SymbolTable.mem_heads_lower_iff hlower⟩

/-- The target of an assignment is a name. -/
theorem exists_assignmentTarget_eq (g : FlowGraph) (v : Symbol) (e : JavaExpr) :
    ∃ n, g.assignmentTarget v e = .name n := by
  unfold assignmentTarget
  split
  · exact ⟨_, rfl⟩
  · exact ⟨_, rfl⟩

/-- An assignment gets at its target, and at what its statement reads. -/
theorem accessName_assignment_iff {s : Statement} {v : Symbol} {e : JavaExpr} {written : String}
    (kind : b.kind = .assignment) (target : g.assigned b = .ok v)
    (value : g.requiredExpression b = .ok e) (hwritten : g.assignmentTarget v e = .name written)
    (hs : b.statement? = some s) :
    g.AccessName b n ↔ n = written ∨ ∃ v, g.table.Reads s v n := by
  constructor
  · rintro ⟨how, v', h⟩
    cases h with
    | read _ _ statement reads =>
      rw [hs] at statement
      cases statement
      exact Or.inr ⟨v', reads⟩
    | assigned _ target' value' emitted =>
      cases target.symm.trans target'
      cases value.symm.trans value'
      cases hwritten.symm.trans emitted
      exact Or.inl rfl
    | input kind' => simp [kind] at kind'
  · rintro (rfl | ⟨v', reads⟩)
    · exact ⟨.assigned, v, .assigned kind target value hwritten⟩
    · exact ⟨.read, v', .read (by simp [kind]) (by simp [kind]) hs reads⟩

/-- An input gets at its target only, whatever its statement says. -/
theorem accessName_input_iff {v : Symbol} {method : String} {fallback : JavaExpr}
    (kind : b.kind = .input) (target : g.assigned b = .ok v)
    (read : g.readStatement b = .ok (.readInput (.name v.reference) method fallback)) :
    g.AccessName b n ↔ n = v.reference := by
  constructor
  · rintro ⟨how, v', h⟩
    cases h with
    | read _ not_input => exact absurd kind not_input
    | assigned kind' => simp [kind] at kind'
    | input _ _ emitted =>
      cases read.symm.trans emitted
      rfl
  · rintro rfl
    exact ⟨.input, v, .input kind target read⟩

/-- The heads of a block's own statement are the names under which it gets at variables. -/
theorem Acts.mem_heads_iff {statement : JavaStmt} (h : g.Acts b statement) :
    n ∈ statement.heads ↔ g.AccessName b n := by
  cases h with
  | call kind value | output kind value =>
    obtain ⟨s, hs, hheads⟩ := mem_heads_requiredExpression_iff value
    rw [accessName_iff_reads (by simp [kind]) (by simp [kind]) (by simp [kind]) hs, ← hheads]
    rfl
  | @assignment v e kind target value =>
    obtain ⟨s, hs, hheads⟩ := mem_heads_requiredExpression_iff value
    obtain ⟨written, hwritten⟩ := exists_assignmentTarget_eq g v e
    rw [accessName_assignment_iff kind target value hwritten hs, ← hheads, hwritten, JavaStmt.heads,
      JavaExpr.heads, List.singleton_append, List.mem_cons]
  | input kind read =>
    obtain ⟨v, type, method, fallback, target, -, hmethod, hfallback, rfl⟩ :=
      readStatement_eq_ok_iff.1 read
    rw [accessName_input_iff kind target read]
    simp [JavaStmt.heads, JavaExpr.heads, JavaType.heads_defaultValue hmethod hfallback]

theorem Returns.mem_heads_iff {value : Option JavaExpr} (kind : b.kind = .stop)
    (h : g.Returns b value) : n ∈ (JavaStmt.return value).heads ↔ g.AccessName b n := by
  cases h with
  | nothing type statement =>
    constructor
    · intro hn
      cases hn
    · rintro ⟨how, v, h⟩
      cases h <;> simp_all
  | value type statement lowered =>
    rw [accessName_iff_reads (by simp [kind]) (by simp [kind]) (by simp [kind]) statement,
      ← SymbolTable.mem_heads_lower_iff lowered]
    rfl

/-- The heads of a decision's condition are the names under which the decision gets at variables. -/
theorem mem_heads_condition_iff (kind : b.kind = .decision) {condition : JavaExpr}
    (h : g.requiredExpression b = .ok condition) : n ∈ condition.heads ↔ g.AccessName b n := by
  obtain ⟨s, hs, hheads⟩ := mem_heads_requiredExpression_iff h
  rw [hheads, accessName_iff_reads (by simp [kind]) (by simp [kind]) (by simp [kind]) hs]

/-! ## Accesses of a body -/

/-- The names from which accesses start in a compiled body are those of the blocks behind it. -/
theorem Walked.mem_heads_iff (hg : g.Distinct) {path : List Uuid} {node : g.Node} {body : Body}
    (h : Walked path node body) :
    n ∈ JavaStmt.headsAll body.statements
      ↔ ∃ b : g.Node, ReflTransGen Edge node b ∧ g.AccessName b.val n := by
  induction h with
  | stop fresh kind result =>
    obtain ⟨value, rfl, returns⟩ := returnStatement_eq_ok_iff.1 result
    rw [exists_reach_iff, ← returns.mem_heads_iff kind]
    simp [JavaStmt.headsAll, not_edge_of_stop kind]
  | step fresh not_stop not_decision head_eq next_eq walked ih =>
    rw [exists_reach_iff]
    simp only [hg.edge_iff_of_next not_stop not_decision next_eq, exists_eq_left, ← ih]
    -- the start has no statement, and no access either
    rcases (head_eq_ok_iff not_stop not_decision).1 head_eq with
      ⟨kind, rfl⟩ | ⟨statement, rfl, acts⟩
    · simp [not_accessName_of_start kind]
    · simp [JavaStmt.headsAll, acts.mem_heads_iff]
  | both fresh kind condition_eq branches_eq thenWalked elseWalked ihThen ihElse =>
    rw [exists_reach_iff, ← mem_heads_condition_iff kind condition_eq]
    simp only [hg.edge_iff_of_branches kind branches_eq, Option.some_inj, or_and_right, exists_or,
      exists_eq_left', ← ihThen, ← ihElse]
    simp [JavaStmt.headsAll, JavaStmt.heads]
  | onlyRight fresh kind condition_eq branches_eq thenWalked ih =>
    rw [exists_reach_iff, ← mem_heads_condition_iff kind condition_eq]
    simp only [hg.edge_iff_of_branches kind branches_eq, Option.some_inj, reduceCtorEq, or_false,
      exists_eq_left', ← ih]
    simp [JavaStmt.headsAll, JavaStmt.heads]
  | onlyLeft fresh kind condition_eq branches_eq elseWalked ih =>
    rw [exists_reach_iff, ← mem_heads_condition_iff kind condition_eq]
    simp only [hg.edge_iff_of_branches kind branches_eq, Option.some_inj, reduceCtorEq, false_or,
      exists_eq_left', ← ih]
    simp [JavaStmt.headsAll, JavaStmt.heads]

end FlowGraph

end Flowchart
