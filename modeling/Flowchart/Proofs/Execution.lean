import Flowchart.Proofs.Blocks
import Flowchart.Proofs.Walk

set_option autoImplicit false

/-! # Running a flow graph and running its body

A flow graph runs from block to block, and a body runs from statement to statement. Whatever the
conditions and the statements mean, both do the same: the same tests and actions in the same order,
to the same state, with the same end. Joins need no care here: a body repeats what is behind them,
but a run goes through it once. -/

namespace Flowchart

universe u

/-! ## Runs -/

/-- What the conditions and the statements that do not branch mean, over states of any type. -/
structure Interpretation (σ : Type u) where
  holds : JavaExpr → σ → Bool
  effect : JavaStmt → σ → σ

/-- What a run does on its way. -/
inductive Event where
  | tested (condition : JavaExpr) (truth : Bool)
  | performed (statement : JavaStmt)

/-- How a run ends: after its last statement, or with a return. -/
inductive Outcome where
  | completed
  | returned (value : Option JavaExpr)

/-- What is seen of a run. -/
structure Run (σ : Type u) where
  events : List Event
  state : σ
  outcome : Outcome

namespace Run

variable {σ : Type u}

/-- The run of no statements. -/
def idle (s : σ) : Run σ := ⟨[], s, .completed⟩

/-- The run with some events before it. -/
def behind (events : List Event) (r : Run σ) : Run σ := { r with events := events ++ r.events }

/-- What comes next runs only if there was no return. -/
def andThen (r : Run σ) (next : σ → Run σ) : Run σ :=
  match r.outcome with
  | .completed => (next r.state).behind r.events
  | .returned _ => r

@[simp]
theorem andThen_idle (r : Run σ) : r.andThen idle = r := by
  obtain ⟨events, s, outcome⟩ := r
  cases outcome with
  | completed => simp [andThen, behind, idle]
  | returned value => rfl

end Run

/-! ## Running statements -/

namespace JavaStmt

variable {σ : Type u} (I : Interpretation σ)

mutual

/-- The run of a statement: a return ends it, a branch is picked by its condition, and everything
    else is performed as a whole. -/
def run (s : σ) : JavaStmt → Run σ
  | .return value => ⟨[], s, .returned value⟩
  | .ifElse condition thenBranch none =>
    Run.behind [.tested condition (I.holds condition s)]
      (if I.holds condition s then runAll s thenBranch else .idle s)
  | .ifElse condition thenBranch (some elseBranch) =>
    Run.behind [.tested condition (I.holds condition s)]
      (if I.holds condition s then runAll s thenBranch else runAll s elseBranch)
  | statement => ⟨[.performed statement], I.effect statement s, .completed⟩

/-- The run of statements, one after the other. -/
def runAll (s : σ) : List JavaStmt → Run σ
  | [] => .idle s
  | statement :: rest => (run s statement).andThen fun s' => runAll s' rest

end

@[simp]
theorem runAll_nil (s : σ) : runAll I s [] = .idle s := rfl

@[simp]
theorem runAll_cons (s : σ) (statement : JavaStmt) (rest : List JavaStmt) :
    runAll I s (statement :: rest) = (run I s statement).andThen fun s' => runAll I s' rest := rfl

theorem runAll_singleton (s : σ) (statement : JavaStmt) :
    runAll I s [statement] = run I s statement := by
  rw [runAll_cons]
  exact Run.andThen_idle _

end JavaStmt

namespace FlowGraph

variable {g : FlowGraph} {σ : Type u} {I : Interpretation σ}

/-! ## Running a flow graph -/

/-- The statement of a call, assignment, input or output block is performed as a whole. -/
theorem Acts.run_eq {b : Block} {statement : JavaStmt} (h : g.Acts b statement) (s : σ) :
    JavaStmt.run I s statement = ⟨[.performed statement], I.effect statement s, .completed⟩ := by
  cases h with
  | call kind value => rfl
  | assignment kind target value => rfl
  | output kind value => rfl
  | input kind read =>
    obtain ⟨v, type, method, fallback, -, -, -, -, rfl⟩ := readStatement_eq_ok_iff.1 read
    rfl

theorem Acts.kind_ne {b : Block} {statement : JavaStmt} (h : g.Acts b statement) :
    b.kind ≠ .start ∧ b.kind ≠ .stop ∧ b.kind ≠ .decision := by
  cases h <;> simp_all

theorem Acts.unique {b : Block} {first second : JavaStmt} (h : g.Acts b first)
    (h' : g.Acts b second) : first = second := by
  obtain ⟨-, hstop, hdecision⟩ := h.kind_ne
  have hfirst := (head_eq_ok_iff hstop hdecision).2 (Or.inr ⟨first, rfl, h⟩)
  have hsecond := (head_eq_ok_iff hstop hdecision).2 (Or.inr ⟨second, rfl, h'⟩)
  rw [hfirst] at hsecond
  cases hsecond
  rfl

theorem Returns.unique {b : Block} {first second : Option JavaExpr} (h : g.Returns b first)
    (h' : g.Returns b second) : first = second := by
  have hfirst := returnStatement_eq_ok_iff.2 ⟨first, rfl, h⟩
  have hsecond := returnStatement_eq_ok_iff.2 ⟨second, rfl, h'⟩
  rw [hfirst] at hsecond
  cases hsecond
  rfl

/-- The side at which a decision goes on when its condition has a truth value. -/
def way : Bool → Side
  | true => .right
  | false => .left

/-- One step from a block to the next: with an action, unless it is the start, or at one side of a
    decision. -/
inductive Step (I : Interpretation σ) : g.Node → σ → List Event → g.Node → σ → Prop
  | start {node next : g.Node} {s : σ} (kind : node.val.kind = .start)
      (leads : Leads node.val.successors next) : Step I node s [] next s
  | act {node next : g.Node} {s : σ} {statement : JavaStmt} (acts : g.Acts node.val statement)
      (leads : Leads node.val.successors next) :
      Step I node s [.performed statement] next (I.effect statement s)
  | decide {node next : g.Node} {s : σ} {condition : JavaExpr} (kind : node.val.kind = .decision)
      (condition_eq : g.requiredExpression node.val = .ok condition)
      (leads : Leads (node.val.branch (way (I.holds condition s))) next) :
      Step I node s [.tested condition (I.holds condition s)] next s

/-- Where a run ends: at an end block, or at a decision that goes to a side without connections. -/
inductive Ends (I : Interpretation σ) : g.Node → σ → List Event → Outcome → Prop
  | stop {node : g.Node} {s : σ} {value : Option JavaExpr} (kind : node.val.kind = .stop)
      (returns : g.Returns node.val value) : Ends I node s [] (.returned value)
  | decide {node : g.Node} {s : σ} {condition : JavaExpr} (kind : node.val.kind = .decision)
      (condition_eq : g.requiredExpression node.val = .ok condition)
      (opened : node.val.branch (way (I.holds condition s)) = []) :
      Ends I node s [.tested condition (I.holds condition s)] .completed

/-- The runs from a block. -/
inductive Runs (I : Interpretation σ) : g.Node → σ → Run σ → Prop
  | ends {node : g.Node} {s : σ} {events : List Event} {outcome : Outcome}
      (ends : Ends I node s events outcome) : Runs I node s ⟨events, s, outcome⟩
  | step {node next : g.Node} {s s' : σ} {events : List Event} {r : Run σ}
      (step : Step I node s events next s') (runs : Runs I next s' r) :
      Runs I node s (r.behind events)

/-- What runs behind a side of a decision: nothing if it is not connected. -/
def RunsOn (I : Interpretation σ) (node? : Option g.Node) (s : σ) (r : Run σ) : Prop :=
  match node? with
  | none => r = .idle s
  | some node => Runs I node s r

/-! ## The runs from each kind of block -/

section

variable {node next : g.Node} {s : σ} {r : Run σ}

theorem runs_stop_iff {value : Option JavaExpr} (kind : node.val.kind = .stop)
    (returns : g.Returns node.val value) :
    Runs I node s r ↔ r = ⟨[], s, .returned value⟩ := by
  constructor
  · intro h
    cases h with
    | ends ends =>
      cases ends with
      | stop _ returns' => rw [returns.unique returns']
      | decide kind' => simp [kind] at kind'
    | step step =>
      cases step with
      | start kind' => simp [kind] at kind'
      | act acts => exact absurd kind acts.kind_ne.2.1
      | decide kind' => simp [kind] at kind'
  · rintro rfl
    exact .ends (.stop kind returns)

theorem runs_start_iff (hg : g.Distinct) (kind : node.val.kind = .start)
    (leads : Leads node.val.successors next) : Runs I node s r ↔ Runs I next s r := by
  constructor
  · intro h
    cases h with
    | ends ends =>
      cases ends with
      | stop kind' => simp [kind] at kind'
      | decide kind' => simp [kind] at kind'
    | step step runs =>
      cases step with
      | start _ leads' => rwa [hg.leads_unique leads leads']
      | act acts => exact absurd kind acts.kind_ne.1
      | decide kind' => simp [kind] at kind'
  · intro h
    exact .step (.start kind leads) h

theorem runs_act_iff (hg : g.Distinct) {statement : JavaStmt} (acts : g.Acts node.val statement)
    (leads : Leads node.val.successors next) :
    Runs I node s r
      ↔ ∃ r', r = r'.behind [.performed statement] ∧ Runs I next (I.effect statement s) r' := by
  constructor
  · intro h
    cases h with
    | ends ends =>
      cases ends with
      | stop kind => exact absurd kind acts.kind_ne.2.1
      | decide kind => exact absurd kind acts.kind_ne.2.2
    | @step _ _ _ _ _ r' step runs =>
      cases step with
      | start kind => exact absurd kind acts.kind_ne.1
      | act acts' leads' =>
        rw [acts.unique acts', hg.leads_unique leads leads']
        exact ⟨r', rfl, runs⟩
      | decide kind => exact absurd kind acts.kind_ne.2.2
  · rintro ⟨r', rfl, h⟩
    exact .step (.act acts leads) h

theorem runs_decision_iff (hg : g.Distinct) (kind : node.val.kind = .decision)
    {condition : JavaExpr} (condition_eq : g.requiredExpression node.val = .ok condition)
    {whenTrue whenFalse : Option g.Node}
    (branches_eq : g.branches node.val = .ok (whenTrue, whenFalse)) :
    Runs I node s r
      ↔ ∃ r', r = r'.behind [.tested condition (I.holds condition s)]
        ∧ RunsOn I (if I.holds condition s then whenTrue else whenFalse) s r' := by
  obtain ⟨hright, hleft, -⟩ := branches_eq_ok_iff.1 branches_eq
  have branch_eq : g.branch node.val (way (I.holds condition s))
      = .ok (if I.holds condition s then whenTrue else whenFalse) := by
    cases I.holds condition s with
    | true => exact hright
    | false => exact hleft
  -- only the side that the condition picks matters from here on
  generalize (if I.holds condition s then whenTrue else whenFalse) = node? at branch_eq ⊢
  have hbranch := hg.branch_eq_ok_iff.1 branch_eq
  constructor
  · intro h
    cases h with
    | ends ends =>
      cases ends with
      | stop kind' => simp [kind] at kind'
      | decide _ condition_eq' opened =>
        cases condition_eq.symm.trans condition_eq'
        rcases hbranch with ⟨rfl, -⟩ | ⟨next, -, connection, hone, -⟩
        · exact ⟨.idle s, rfl, rfl⟩
        · rw [opened] at hone
          cases hone
    | @step _ _ _ _ _ r' step runs =>
      cases step with
      | start kind' => simp [kind] at kind'
      | act acts => exact absurd kind acts.kind_ne.2.2
      | decide _ condition_eq' leads =>
        cases condition_eq.symm.trans condition_eq'
        rcases hbranch with ⟨-, hnone⟩ | ⟨next, rfl, leads'⟩
        · obtain ⟨connection, hone, -⟩ := leads
          rw [hnone] at hone
          cases hone
        · rw [hg.leads_unique leads leads'] at runs
          exact ⟨r', rfl, runs⟩
  · rintro ⟨r', rfl, h⟩
    rcases hbranch with ⟨rfl, hnone⟩ | ⟨next, rfl, leads⟩
    · cases h
      exact .ends (.decide kind condition_eq hnone)
    · exact .step (.decide kind condition_eq leads) h

end

/-! ## The simulation -/

/-- The statements of a walk run as the blocks do. -/
theorem Walked.runs_iff (hg : g.Distinct) {path : List Uuid} {node : g.Node} {body : Body}
    (h : Walked path node body) {s : σ} {r : Run σ} :
    Runs I node s r ↔ r = JavaStmt.runAll I s body.statements := by
  -- the blocks behind run from other states than the present one
  induction h generalizing s r with
  | stop fresh kind result =>
    obtain ⟨value, rfl, returns⟩ := returnStatement_eq_ok_iff.1 result
    rw [runs_stop_iff kind returns, JavaStmt.runAll_singleton]
    rfl
  | step fresh not_stop not_decision head_eq next_eq walked ih =>
    have hleads := hg.next_eq_ok_iff.1 next_eq
    rcases (head_eq_ok_iff not_stop not_decision).1 head_eq with
      ⟨kind, rfl⟩ | ⟨statement, rfl, acts⟩
    · rw [runs_start_iff hg kind hleads, ih]
      rfl
    · simp only [runs_act_iff hg acts hleads, ih, exists_eq_right, Option.toList_some,
        List.singleton_append, JavaStmt.runAll_cons, acts.run_eq, Run.andThen]
  | @both _ _ _ _ condition _ _ fresh kind condition_eq branches_eq _ _ ihThen ihElse =>
    rw [runs_decision_iff hg kind condition_eq branches_eq, JavaStmt.runAll_singleton, JavaStmt.run]
    cases I.holds condition s with
    | true => simp [RunsOn, ihThen]
    | false => simp [RunsOn, ihElse]
  | @onlyRight _ _ _ condition _ fresh kind condition_eq branches_eq _ ih =>
    rw [runs_decision_iff hg kind condition_eq branches_eq, JavaStmt.runAll_singleton, JavaStmt.run]
    cases I.holds condition s with
    | true => simp [RunsOn, ih]
    | false => simp [RunsOn]
  | @onlyLeft _ _ _ condition _ fresh kind condition_eq branches_eq _ ih =>
    rw [runs_decision_iff hg kind condition_eq branches_eq, JavaStmt.runAll_singleton, JavaStmt.run]
    cases I.holds condition s with
    | true => simp [RunsOn]
    | false => simp [RunsOn, ih]

/-- Running the body of a function does exactly what walking its flow graph from the start block
    does, whatever its conditions and actions mean. -/
theorem functionBody_runs_iff {root : Item} {t : SymbolTable} (ht : SymbolTable.build root = .ok t)
    {name : String} {body : Body} (hbody : t.functionBody name = .ok body) :
    ∃ g : FlowGraph, ofFunction t name = .ok g
      ∧ ∃ start : g.Node, g.blocks.filter (·.kind = .start) = [start.val]
        ∧ ∀ (σ : Type u) (I : Interpretation σ) (s : σ) (r : Run σ),
          Runs I start s r ↔ r = JavaStmt.runAll I s body.statements := by
  obtain ⟨g, hg, start, hstart, hwalked⟩ := functionBody_eq_ok_iff.1 hbody
  have hdistinct := distinct_of_lists (SymbolTable.build_eq_ok_iff.1 ht) hg
  exact ⟨g, hg, start, start_eq_ok_iff.1 hstart, fun σ I s r => hwalked.runs_iff hdistinct⟩

/-- The runs through the join and those of its two copies. -/
theorem crossing_runs_iff :
    SymbolTable.build crossing = .ok crossingTable
      ∧ crossingTable.functionBody "Demo.main" = .ok crossingBody
      ∧ ∃ g : FlowGraph, ofFunction crossingTable "Demo.main" = .ok g
        ∧ ∃ start : g.Node, g.blocks.filter (·.kind = .start) = [start.val]
          ∧ ∀ (σ : Type) (I : Interpretation σ) (s : σ) (r : Run σ),
            Runs I start s r ↔ r = JavaStmt.runAll I s crossingBody.statements :=
  have hbuild : SymbolTable.build crossing = .ok crossingTable := rfl
  ⟨hbuild, crossing_body, functionBody_runs_iff hbuild crossing_body⟩

end FlowGraph

end Flowchart
