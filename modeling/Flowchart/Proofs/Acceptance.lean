import Flowchart.Proofs.Blocks
import Flowchart.Proofs.Walk

set_option autoImplicit false

/-! # Which functions can be compiled

A function has a body exactly if it has a single start block, every block that can be reached from
it is well formed by itself, and none of them can be reached from itself. That a body says so much
is because the walk goes along every edge; that so much is enough is because only blocks from which
the present one is reached are on the path, so meeting one of them again is a true cycle, and a join
never is. -/

namespace Flowchart

open Relation (ReflTransGen TransGen)

namespace FlowGraph

variable {g : FlowGraph}

/-! ## Blocks that are well formed by themselves -/

/-- The block has a statement, and it can be compiled. -/
def HasExpression (g : FlowGraph) (b : Block) : Prop :=
  ∃ s e, b.statement? = some s ∧ g.table.lower s = .ok e

/-- The block names a variable or parameter to write to. -/
def Writes (g : FlowGraph) (b : Block) (v : Symbol) : Prop :=
  ∃ name, b.target? = some name ∧ g.table.find? name = some v
    ∧ (v.item.kind = .variable ∨ v.item.kind = .parameter)

/-- There is a single connection, and a block of the function for it to lead to. -/
def GoesOn (g : FlowGraph) (connections : List Connection) : Prop :=
  ∃ connection, connections = [connection] ∧ ∃ b ∈ g.blocks, b.id = connection.target

/-- What a block needs apart from the blocks behind it. -/
def WellFormed (g : FlowGraph) (b : Block) : Prop :=
  match b.kind with
  | .start => g.GoesOn b.successors
  | .call | .output => g.HasExpression b ∧ g.GoesOn b.successors
  | .assignment => (∃ v, g.Writes b v) ∧ g.HasExpression b ∧ g.GoesOn b.successors
  | .input =>
    (∃ v, g.Writes b v ∧ (v.item.typeName = some "NUMBER" ∨ v.item.typeName = some "BOOLEAN"
        ∨ v.item.typeName = some "TEXT"))
      ∧ g.GoesOn b.successors
  | .decision =>
    g.HasExpression b
      ∧ (∀ side ∈ [Side.right, Side.left], b.branch side = [] ∨ g.GoesOn (b.branch side))
      ∧ (b.branch .right ≠ [] ∨ b.branch .left ≠ [])
      ∧ (g.returnType ≠ .void → b.branch .right ≠ [] ∧ b.branch .left ≠ [])
  | .stop => if g.returnType = .void then b.statement? = none else g.HasExpression b

theorem goesOn_iff {connections : List Connection} :
    g.GoesOn connections ↔ ∃ node : g.Node, Leads connections node := by
  constructor
  · rintro ⟨connection, hone, b, hb, hid⟩
    exact ⟨⟨b, hb⟩, connection, hone, hid⟩
  · rintro ⟨node, connection, hone, hid⟩
    exact ⟨connection, hone, node.val, node.property, hid⟩

theorem hasExpression_iff {b : Block} :
    g.HasExpression b ↔ ∃ e, g.requiredExpression b = .ok e := by
  simp only [HasExpression, requiredExpression_eq_ok_iff]
  exact exists_comm

theorem writes_iff {b : Block} {v : Symbol} : g.Writes b v ↔ g.assigned b = .ok v :=
  assigned_eq_ok_iff.symm

theorem readable_iff {b : Block} :
    (∃ v, g.Writes b v ∧ (v.item.typeName = some "NUMBER" ∨ v.item.typeName = some "BOOLEAN"
        ∨ v.item.typeName = some "TEXT"))
      ↔ ∃ statement, g.readStatement b = .ok statement := by
  simp only [← @SymbolTable.resolveTypeOf_inputMethod_iff g.table, writes_iff,
    readStatement_eq_ok_iff]
  constructor
  · rintro ⟨v, hv, type, method, htype, hmethod⟩
    obtain ⟨fallback, hfallback⟩ := JavaType.exists_defaultValue hmethod
    exact ⟨_, v, type, method, fallback, hv, htype, hmethod, hfallback, rfl⟩
  · rintro ⟨_, v, type, method, fallback, hv, htype, hmethod, -, -⟩
    exact ⟨v, hv, type, method, htype, hmethod⟩

theorem wellFormed_stop {b : Block} (hkind : b.kind = .stop) :
    g.WellFormed b ↔ ∃ statement, g.returnStatement b = .ok statement := by
  simp only [WellFormed, hkind, returnStatement_eq_ok_iff]
  constructor
  · intro h
    split at h
    · next htype => exact ⟨_, none, rfl, .nothing htype h⟩
    · next htype =>
        obtain ⟨s, e, hs, he⟩ := h
        exact ⟨_, some e, rfl, .value htype hs he⟩
  · rintro ⟨_, value, rfl, hreturns⟩
    cases hreturns with
    | nothing type statement => rwa [if_pos type]
    | value type statement lowered =>
      rw [if_neg type]
      exact ⟨_, _, statement, lowered⟩

/-- A call or output performs something if its expression can be compiled. -/
theorem exists_acts_iff {b : Block} (hkind : b.kind = .call ∨ b.kind = .output) :
    (∃ statement, g.Acts b statement) ↔ g.HasExpression b := by
  rw [hasExpression_iff]
  constructor
  · rintro ⟨statement, hacts⟩
    cases hacts <;> simp_all
  · rintro ⟨e, he⟩
    rcases hkind with hkind | hkind
    · exact ⟨_, .call hkind he⟩
    · exact ⟨_, .output hkind he⟩

theorem exists_acts_assignment_iff {b : Block} (hkind : b.kind = .assignment) :
    (∃ statement, g.Acts b statement) ↔ (∃ v, g.Writes b v) ∧ g.HasExpression b := by
  simp only [hasExpression_iff, writes_iff]
  constructor
  · rintro ⟨statement, hacts⟩
    cases hacts <;> simp_all
  · rintro ⟨⟨v, hv⟩, e, he⟩
    exact ⟨_, .assignment hkind hv he⟩

theorem exists_acts_input_iff {b : Block} (hkind : b.kind = .input) :
    (∃ statement, g.Acts b statement) ↔ ∃ statement, g.readStatement b = .ok statement := by
  constructor
  · rintro ⟨statement, hacts⟩
    cases hacts with
    | input kind read => exact ⟨statement, read⟩
    | call kind value => simp_all
    | assignment kind target value => simp_all
    | output kind value => simp_all
  · rintro ⟨statement, hread⟩
    exact ⟨statement, .input hkind hread⟩

theorem exists_head_iff {b : Block} (hstop : b.kind ≠ .stop) (hdecision : b.kind ≠ .decision) :
    (∃ head, g.head b = .ok head) ↔ b.kind = .start ∨ ∃ statement, g.Acts b statement := by
  simp only [head_eq_ok_iff hstop hdecision]
  constructor
  · rintro ⟨head, ⟨hkind, -⟩ | ⟨statement, -, hacts⟩⟩
    · exact Or.inl hkind
    · exact Or.inr ⟨statement, hacts⟩
  · rintro (hkind | ⟨statement, hacts⟩)
    · exact ⟨none, Or.inl ⟨hkind, rfl⟩⟩
    · exact ⟨some statement, Or.inr ⟨statement, rfl, hacts⟩⟩

/-- A block that is neither a decision nor an end is well formed if its own statement can be
    compiled and it has a next block. -/
theorem wellFormed_step {b : Block} (hstop : b.kind ≠ .stop) (hdecision : b.kind ≠ .decision) :
    g.WellFormed b
      ↔ (∃ head, g.head b = .ok head) ∧ ∃ node : g.Node, Leads b.successors node := by
  rw [← goesOn_iff, exists_head_iff hstop hdecision, WellFormed]
  cases hkind : b.kind with
  | start => simp
  | stop => exact absurd hkind hstop
  | decision => exact absurd hkind hdecision
  | call => simp [exists_acts_iff (Or.inl hkind)]
  | output => simp [exists_acts_iff (Or.inr hkind)]
  | assignment => simp [exists_acts_assignment_iff hkind, and_assoc]
  | input => simp [exists_acts_input_iff hkind, readable_iff]

/-- A decision is well formed if its condition can be compiled and its ways out can be found. -/
theorem wellFormed_decision (hg : g.Distinct) {b : Block} (hkind : b.kind = .decision) :
    g.WellFormed b ↔ (∃ e, g.requiredExpression b = .ok e) ∧ ∃ ways, g.branches b = .ok ways := by
  simp only [WellFormed, hkind, hasExpression_iff, goesOn_iff, ← hg.exists_branch_iff,
    List.forall_mem_cons, List.not_mem_nil, false_implies, implies_true, and_true]
  refine and_congr_right fun _ => ?_
  constructor
  · rintro ⟨⟨⟨right, hright⟩, left, hleft⟩, hone, hboth⟩
    rw [hg.branch_ne_nil_iff hright, hg.branch_ne_nil_iff hleft] at hone hboth
    exact ⟨(right, left), branches_eq_ok_iff.2 ⟨hright, hleft, hone, hboth⟩⟩
  · rintro ⟨⟨right, left⟩, h⟩
    obtain ⟨hright, hleft, hone, hboth⟩ := branches_eq_ok_iff.1 h
    rw [hg.branch_ne_nil_iff hright, hg.branch_ne_nil_iff hleft]
    exact ⟨⟨⟨right, hright⟩, left, hleft⟩, hone, hboth⟩

/-! ## What a walk finds -/

namespace Walked

variable {path : List Uuid} {a b node : g.Node} {body : Body}

theorem wellFormed (hg : g.Distinct) (h : Walked path node body) : g.WellFormed node.val := by
  cases h with
  | stop fresh kind result => exact (wellFormed_stop kind).2 ⟨_, result⟩
  | step fresh not_stop not_decision head_eq next_eq walked =>
    exact (wellFormed_step not_stop not_decision).2
      ⟨⟨_, head_eq⟩, _, hg.next_eq_ok_iff.1 next_eq⟩
  | both fresh kind condition_eq branches_eq thenWalked elseWalked =>
    exact (wellFormed_decision hg kind).2 ⟨⟨_, condition_eq⟩, _, branches_eq⟩
  | onlyRight fresh kind condition_eq branches_eq thenWalked =>
    exact (wellFormed_decision hg kind).2 ⟨⟨_, condition_eq⟩, _, branches_eq⟩
  | onlyLeft fresh kind condition_eq branches_eq elseWalked =>
    exact (wellFormed_decision hg kind).2 ⟨⟨_, condition_eq⟩, _, branches_eq⟩

/-- The walk goes along every edge, with the block it comes from on its path. -/
theorem edge (hg : g.Distinct) (h : Walked path a body) (hedge : Edge a b) :
    ∃ rest, Walked (a.val.id :: path) b rest := by
  cases h with
  | stop fresh kind result => exact absurd hedge (not_edge_of_stop kind)
  | step fresh not_stop not_decision head_eq next_eq walked =>
    cases (hg.edge_iff_of_next not_stop not_decision next_eq).1 hedge
    exact ⟨_, walked⟩
  | both fresh kind condition_eq branches_eq thenWalked elseWalked =>
    rcases (hg.edge_iff_of_branches kind branches_eq).1 hedge with h | h
    · cases h
      exact ⟨_, thenWalked⟩
    · cases h
      exact ⟨_, elseWalked⟩
  | onlyRight fresh kind condition_eq branches_eq thenWalked =>
    rcases (hg.edge_iff_of_branches kind branches_eq).1 hedge with h | h
    · cases h
      exact ⟨_, thenWalked⟩
    · cases h
  | onlyLeft fresh kind condition_eq branches_eq elseWalked =>
    rcases (hg.edge_iff_of_branches kind branches_eq).1 hedge with h | h
    · cases h
    · cases h
      exact ⟨_, elseWalked⟩

theorem reach (hg : g.Distinct) (h : Walked path a body) (hreach : ReflTransGen Edge a b) :
    ∃ path' rest, Walked path' b rest := by
  induction hreach with
  | refl => exact ⟨_, _, h⟩
  | tail _ hedge ih =>
    obtain ⟨path', rest, hwalked⟩ := ih
    obtain ⟨rest', hwalked'⟩ := hwalked.edge hg hedge
    exact ⟨_, _, hwalked'⟩

/-- A block stays on the path of the walks that go through it. -/
theorem mem_path (hg : g.Distinct) (h : Walked path a body) (hreach : TransGen Edge a b) :
    ∃ path' rest, a.val.id ∈ path' ∧ Walked path' b rest := by
  induction hreach with
  | single hedge =>
    obtain ⟨rest, hwalked⟩ := h.edge hg hedge
    exact ⟨_, _, List.mem_cons_self, hwalked⟩
  | tail _ hedge ih =>
    obtain ⟨path', rest, hmem, hwalked⟩ := ih
    obtain ⟨rest', hwalked'⟩ := hwalked.edge hg hedge
    exact ⟨_, _, List.mem_cons_of_mem _ hmem, hwalked'⟩

theorem acyclic (hg : g.Distinct) (h : Walked path a body) : ¬ TransGen Edge a a := by
  intro hcycle
  obtain ⟨path', rest, hmem, hwalked⟩ := h.mem_path hg hcycle
  exact hwalked.fresh hmem

end Walked

/-! ## When a walk succeeds -/

/-- Every block that can be reached is well formed and on no cycle. -/
def Sound (node : g.Node) : Prop :=
  ∀ b, ReflTransGen Edge node b → g.WellFormed b.val ∧ ¬ TransGen Edge b b

/-- Every identifier on the path is that of a block from which the present one can be reached. -/
def Behind (path : List Uuid) (node : g.Node) : Prop :=
  ∀ id ∈ path, ∃ a : g.Node, a.val.id = id ∧ TransGen Edge a node

theorem Walked.sound (hg : g.Distinct) {path : List Uuid} {node : g.Node} {body : Body}
    (h : Walked path node body) : Sound node := by
  intro b hreach
  obtain ⟨path', rest, hwalked⟩ := h.reach hg hreach
  exact ⟨hwalked.wellFormed hg, hwalked.acyclic hg⟩

theorem Sound.edge {a b : g.Node} (h : Sound a) (hedge : Edge a b) : Sound b :=
  fun c hreach => h c (.head hedge hreach)

theorem Behind.edge {path : List Uuid} {a b : g.Node} (h : Behind path a) (hedge : Edge a b) :
    Behind (a.val.id :: path) b := by
  intro id hmem
  rcases List.mem_cons.1 hmem with rfl | hmem
  · exact ⟨a, rfl, .single hedge⟩
  · obtain ⟨c, hid, hreach⟩ := h id hmem
    exact ⟨c, hid, hreach.tail hedge⟩

/-- The walk succeeds from a sound block. The path check only fires on a block that comes before
    itself, because the path never holds anything but blocks that come before. -/
theorem Sound.exists_walked (hg : g.Distinct) {path : List Uuid} {node : g.Node}
    (hsound : Sound node) (hbehind : Behind path node) : ∃ body, Walked path node body := by
  -- on the recursion of the walk, along which the path stays behind the block
  induction path, node using walk.induct g with
  | case1 path node hmem =>
    -- meeting a block of the path closes a cycle
    obtain ⟨a, hid, hreach⟩ := hbehind _ hmem
    rw [hg.node_ext hid] at hreach
    exact absurd hreach (hsound node .refl).2
  | case2 path node hfresh _ hkind =>
    obtain ⟨statement, hresult⟩ := (wellFormed_stop hkind).1 (hsound node .refl).1
    exact ⟨_, .stop hfresh hkind hresult⟩
  | case3 path node hfresh _ path' hkind =>
    rename_i ih
    obtain ⟨⟨condition, hcondition⟩, ⟨whenTrue, whenFalse⟩, hbranches⟩ :=
      (wellFormed_decision hg hkind).1 (hsound node .refl).1
    obtain ⟨-, -, hone, -⟩ := branches_eq_ok_iff.1 hbranches
    -- whichever sides there are, the walk goes on from them
    have hside : ∀ {next}, whenTrue = some next ∨ whenFalse = some next →
        ∃ rest, Walked path' next rest := by
      intro next hnext
      have hedge : Edge node next := (hg.edge_iff_of_branches hkind hbranches).2 hnext
      exact ih next (hsound.edge hedge) (hbehind.edge hedge)
    cases whenTrue with
    | none =>
      cases whenFalse with
      | none => simp at hone
      | some left =>
        obtain ⟨elseBody, helse⟩ := hside (Or.inr rfl)
        exact ⟨_, .onlyLeft hfresh hkind hcondition hbranches helse⟩
    | some right =>
      obtain ⟨thenBody, hthen⟩ := hside (Or.inl rfl)
      cases whenFalse with
      | none => exact ⟨_, .onlyRight hfresh hkind hcondition hbranches hthen⟩
      | some left =>
        obtain ⟨elseBody, helse⟩ := hside (Or.inr rfl)
        exact ⟨_, .both hfresh hkind hcondition hbranches hthen helse⟩
  | case4 path node hfresh _ path' hstop hdecision =>
    rename_i ih
    obtain ⟨⟨head, hhead⟩, next, hnext⟩ :=
      (wellFormed_step hstop hdecision).1 (hsound node .refl).1
    have hedge : Edge node next := .of_leads hstop hdecision hnext
    obtain ⟨rest, hrest⟩ := ih next (hsound.edge hedge) (hbehind.edge hedge)
    exact ⟨_, .step hfresh hstop hdecision hhead (hg.next_eq_ok_iff.2 hnext) hrest⟩

end FlowGraph

/-! ## Functions that have a body -/

namespace SymbolTable

open FlowGraph

/-- The name is that of a function with a known return type and a single start block, and everything
    that can be reached from there is well formed and on no cycle. -/
def Accepts (t : SymbolTable) (name : String) : Prop :=
  ∃ g : FlowGraph, g.table = t ∧ t.find? name = some g.function
    ∧ g.function.item.kind = .function ∧ t.resolveReturnTypeOf g.function = .ok g.returnType
    ∧ ∃ start : g.Node, g.blocks.filter (·.kind = .start) = [start.val] ∧ Sound start

/-- A function of a project has a body exactly if its flow graph is acceptable. -/
theorem functionBody_isOk_iff {root : Item} {t : SymbolTable} (ht : build root = .ok t)
    {name : String} : (∃ body, t.functionBody name = .ok body) ↔ t.Accepts name := by
  have hlists := build_eq_ok_iff.1 ht
  simp only [functionBody_eq_ok_iff]
  constructor
  · rintro ⟨body, g, hg, start, hstart, hwalked⟩
    have hdistinct := distinct_of_lists hlists hg
    obtain ⟨htable, hfind, hkind, htype⟩ := ofFunction_eq_ok_iff.1 hg
    exact ⟨g, htable, hfind, hkind, htype, start, start_eq_ok_iff.1 hstart, hwalked.sound hdistinct⟩
  · rintro ⟨g, htable, hfind, hkind, htype, start, hstart, hsound⟩
    have hg := ofFunction_eq_ok_iff.2 ⟨htable, hfind, hkind, htype⟩
    have hpath : Behind [] start := fun id hmem => nomatch hmem
    obtain ⟨body, hwalked⟩ := hsound.exists_walked (distinct_of_lists hlists hg) hpath
    exact ⟨body, g, hg, start, start_eq_ok_iff.2 hstart, hwalked⟩

/-- A way around a block and the way through it may meet again: that is no cycle. -/
theorem accepts_crossing : build crossing = .ok crossingTable ∧ crossingTable.Accepts "Demo.main" :=
  have hbuild : build crossing = .ok crossingTable := rfl
  ⟨hbuild, (functionBody_isOk_iff hbuild).1 ⟨_, crossing_body⟩⟩

end SymbolTable

end Flowchart
