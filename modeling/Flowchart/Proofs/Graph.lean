import Flowchart.Lowering.Body
import Flowchart.Proofs.Table
import Mathlib.Logic.Relation

set_option autoImplicit false

/-! # Ways through a flow graph

Which blocks follow which. A side of a decision, or a block that is no decision, goes on if it has a
single connection, and the connection goes to the block of the function with the wanted identifier.
In a function of a project whose table could be built that block is unique, and the searches of
`FlowGraph` find exactly it. -/

namespace Flowchart.FlowGraph

open Relation (ReflTransGen)

variable {g : FlowGraph}

/-! ## Blocks by identifier -/

/-- No two blocks of the function have the same identifier. -/
def Distinct (g : FlowGraph) : Prop := (g.blocks.map (·.id)).Nodup

/-- A graph belongs to a function that exists, is one, and has a known return type. -/
theorem ofFunction_eq_ok_iff {t : SymbolTable} {name : String} :
    ofFunction t name = .ok g
      ↔ g.table = t ∧ t.find? name = some g.function ∧ g.function.item.kind = .function
        ∧ t.resolveReturnTypeOf g.function = .ok g.returnType := by
  simp only [ofFunction, bind_eq_ok, SymbolTable.resolve_eq_ok_iff]
  constructor
  · rintro ⟨function, hfind, h⟩
    split at h
    · next hkind =>
        obtain ⟨returnType, htype, h⟩ := bind_eq_ok.1 h
        cases pure_eq_ok.1 h
        exact ⟨rfl, hfind, hkind, htype⟩
    · cases h
  · rintro ⟨rfl, hfind, hkind, htype⟩
    refine ⟨g.function, hfind, ?_⟩
    rw [if_pos hkind, htype]
    rfl

theorem distinct_of_lists {t : SymbolTable} {root : Item} {name : String} (ht : t.Lists root)
    (hg : ofFunction t name = .ok g) : g.Distinct := by
  obtain ⟨-, hfind, -, -⟩ := ofFunction_eq_ok_iff.1 hg
  exact ht.blockIds_nodup (ht.find?_eq_some_iff.1 hfind).1

theorem Distinct.node_ext (h : g.Distinct) {a b : g.Node} (hid : a.val.id = b.val.id) : a = b :=
  Subtype.ext (List.inj_on_of_nodup_map h a.property b.property hid)

/-- Looking an identifier up finds exactly the block that has it. -/
theorem Distinct.node?_eq_some_iff (h : g.Distinct) {id : Uuid} {node : g.Node} :
    g.node? id = some node ↔ node.val.id = id := by
  have hkeys : (g.blocks.attach.map (fun n : g.Node => n.val.id)).Nodup := by
    have hval : g.blocks.attach.map (fun n : g.Node => n.val.id) = g.blocks.map (·.id) := by
      simp
    rw [hval]
    exact h
  rw [node?, find?_key_eq_some_iff hkeys]
  exact and_iff_right (List.mem_attach _ node)

/-- The start of the walk is the only start block of the function. -/
theorem start_eq_ok_iff {node : g.Node} :
    g.start = .ok node ↔ g.blocks.filter (·.kind = .start) = [node.val] := by
  -- the search is over blocks that carry their membership
  have hval : g.blocks.filter (·.kind = .start)
      = (g.blocks.attach.filter (·.val.kind = .start)).map Subtype.val := by
    conv_lhs => rw [← List.attach_map_subtype_val g.blocks]
    rw [List.filter_map]
    rfl
  rw [hval, start]
  split
  · next hnil => simp [hnil]
  · next only hone => simp [hone, Subtype.ext_iff]
  · next nodes hnil hmany =>
      constructor
      · intro h
        cases h
      · intro h
        obtain ⟨only, hone, -⟩ := List.map_eq_singleton_iff.1 h
        exact absurd hone (hmany only)

/-! ## Connections -/

/-- There is a single connection, and it goes to a block of the function. -/
def Leads (connections : List Connection) (node : g.Node) : Prop :=
  ∃ connection, connections = [connection] ∧ node.val.id = connection.target

theorem Distinct.leads_unique (h : g.Distinct) {connections : List Connection} {a b : g.Node}
    (ha : Leads connections a) (hb : Leads connections b) : a = b := by
  obtain ⟨c, rfl, ha⟩ := ha
  obtain ⟨c', hc, hb⟩ := hb
  cases hc
  exact h.node_ext (ha.trans hb.symm)

theorem Distinct.follow_eq_ok_iff (h : g.Distinct) {source : Block} {connection : Connection}
    {node : g.Node} : g.follow source connection = .ok node ↔ Leads [connection] node := by
  have hleads : Leads [connection] node ↔ g.node? connection.target = some node := by
    rw [h.node?_eq_some_iff]
    constructor
    · rintro ⟨c, hc, hid⟩
      cases hc
      exact hid
    · intro hid
      exact ⟨connection, rfl, hid⟩
  rw [hleads, follow]
  cases g.node? connection.target with
  | none => simp
  | some other => simp

theorem Distinct.next_eq_ok_iff (h : g.Distinct) {b : Block} {node : g.Node} :
    g.next b = .ok node ↔ Leads b.successors node := by
  rw [next]
  split
  · next hnone => simp [hnone, Leads]
  · next connection hone => rw [hone, h.follow_eq_ok_iff]
  · next connections hnone hmany =>
      constructor
      · intro hok
        cases hok
      · rintro ⟨connection, hone, -⟩
        exact absurd hone (hmany connection)

/-- A side of a decision goes on to a block if its single connection does, and nowhere if it has
    none. -/
theorem Distinct.branch_eq_ok_iff (h : g.Distinct) {b : Block} {side : Side}
    {node? : Option g.Node} :
    g.branch b side = .ok node?
      ↔ (node? = none ∧ b.branch side = [])
        ∨ ∃ node, node? = some node ∧ Leads (b.branch side) node := by
  rw [branch]
  split
  · next hnone => simp [hnone, Leads, eq_comm]
  · next connection hone =>
      rw [hone]
      simp only [bind_eq_ok, h.follow_eq_ok_iff, pure_eq_ok]
      constructor
      · rintro ⟨node, hnode, rfl⟩
        exact Or.inr ⟨node, rfl, hnode⟩
      · rintro (⟨-, hnone⟩ | ⟨node, rfl, hnode⟩)
        · cases hnone
        · exact ⟨node, hnode, rfl⟩
  · next connections hnone hmany =>
      constructor
      · intro hok
        cases hok
      · rintro (⟨-, hempty⟩ | ⟨node, -, connection, hone, -⟩)
        · exact absurd hempty hnone
        · exact absurd hone (hmany connection)

theorem Distinct.exists_branch_iff (h : g.Distinct) {b : Block} {side : Side} :
    (∃ node?, g.branch b side = .ok node?)
      ↔ b.branch side = [] ∨ ∃ node : g.Node, Leads (b.branch side) node := by
  simp only [h.branch_eq_ok_iff]
  constructor
  · rintro ⟨_, ⟨rfl, hnone⟩ | ⟨node, rfl, hnode⟩⟩
    · exact Or.inl hnone
    · exact Or.inr ⟨node, hnode⟩
  · rintro (hnone | ⟨node, hnode⟩)
    · exact ⟨none, Or.inl ⟨rfl, hnone⟩⟩
    · exact ⟨some node, Or.inr ⟨node, rfl, hnode⟩⟩

theorem Distinct.branch_ne_nil_iff (h : g.Distinct) {b : Block} {side : Side}
    {node? : Option g.Node} (hbranch : g.branch b side = .ok node?) :
    b.branch side ≠ [] ↔ node?.isSome := by
  rcases h.branch_eq_ok_iff.1 hbranch with ⟨rfl, hnone⟩ | ⟨node, rfl, connection, hone, -⟩
  · simp [hnone]
  · simp [hone]

/-- The ways out of a decision: each side is open or goes on, one of them goes on, and both do in a
    function that returns a value. -/
theorem branches_eq_ok_iff {b : Block} {whenTrue whenFalse : Option g.Node} :
    g.branches b = .ok (whenTrue, whenFalse)
      ↔ g.branch b .right = .ok whenTrue ∧ g.branch b .left = .ok whenFalse
        ∧ (whenTrue.isSome ∨ whenFalse.isSome)
        ∧ (g.returnType ≠ .void → whenTrue.isSome ∧ whenFalse.isSome) := by
  simp only [branches, bind_eq_ok]
  constructor
  · rintro ⟨right, hright, left, hleft, h⟩
    split at h
    · cases h
    · next hsome =>
        split at h
        · cases h
        · next hboth =>
            cases pure_eq_ok.1 h
            refine ⟨hright, hleft, ?_, ?_⟩
            · cases whenTrue <;> cases whenFalse <;> simp_all
            · cases whenTrue <;> cases whenFalse <;> simp_all
  · rintro ⟨hright, hleft, hsome, hboth⟩
    refine ⟨whenTrue, hright, whenFalse, hleft, ?_⟩
    rw [if_neg, if_neg]
    · rfl
    · cases whenTrue <;> cases whenFalse <;> simp_all
    · cases whenTrue <;> cases whenFalse <;> simp_all

/-! ## Edges -/

/-- The steps the walk can take: from a decision along a connection of its right or left side, from
    an end nowhere, and from any other block along its only connection. -/
def Edge (a b : g.Node) : Prop :=
  match a.val.kind with
  | .stop => False
  | .decision => ∃ c ∈ a.val.branch .right ++ a.val.branch .left, b.val.id = c.target
  | _ => Leads a.val.successors b

theorem Edge.of_leads {a b : g.Node} (hstop : a.val.kind ≠ .stop)
    (hdecision : a.val.kind ≠ .decision) (h : Leads a.val.successors b) : Edge a b := by
  rw [Edge]
  split
  · next hkind => exact hstop hkind
  · next hkind => exact absurd hkind hdecision
  · exact h

theorem Edge.leads {a b : g.Node} (hdecision : a.val.kind ≠ .decision) (h : Edge a b) :
    Leads a.val.successors b := by
  rw [Edge] at h
  split at h
  · exact h.elim
  · next hkind => exact absurd hkind hdecision
  · exact h

theorem edge_decision {a b : g.Node} (hkind : a.val.kind = .decision) :
    Edge a b ↔ ∃ c ∈ a.val.branch .right ++ a.val.branch .left, b.val.id = c.target := by
  rw [Edge, hkind]

theorem not_edge_of_stop {a b : g.Node} (hkind : a.val.kind = .stop) : ¬ Edge a b := by
  rw [Edge, hkind]
  exact id

/-- What can be reached from a block is the block itself and what its next blocks reach. -/
theorem exists_reach_iff {node : g.Node} {P : g.Node → Prop} :
    (∃ b, ReflTransGen Edge node b ∧ P b)
      ↔ P node ∨ ∃ next, Edge node next ∧ ∃ b, ReflTransGen Edge next b ∧ P b := by
  constructor
  · rintro ⟨b, hreach, hb⟩
    rcases ReflTransGen.cases_head hreach with rfl | ⟨next, hedge, hreach⟩
    · exact Or.inl hb
    · exact Or.inr ⟨next, hedge, b, hreach, hb⟩
  · rintro (hnode | ⟨next, hedge, b, hreach, hb⟩)
    · exact ⟨node, .refl, hnode⟩
    · exact ⟨b, .head hedge hreach, hb⟩

/-- The only step from a block whose next block was found. -/
theorem Distinct.edge_iff_of_next (hg : g.Distinct) {a b next : g.Node} (hstop : a.val.kind ≠ .stop)
    (hdecision : a.val.kind ≠ .decision) (hnext : g.next a.val = .ok next) :
    Edge a b ↔ b = next := by
  have hleads := hg.next_eq_ok_iff.1 hnext
  constructor
  · intro h
    exact hg.leads_unique (h.leads hdecision) hleads
  · rintro rfl
    exact .of_leads hstop hdecision hleads

/-- A connected side is the only connection of its side. -/
theorem Distinct.branch_iff (hg : g.Distinct) {a : Block} {side : Side} {node? : Option g.Node}
    {node : g.Node} (hbranch : g.branch a side = .ok node?) :
    (∃ c ∈ a.branch side, node.val.id = c.target) ↔ node? = some node := by
  rcases hg.branch_eq_ok_iff.1 hbranch with ⟨rfl, hnone⟩ | ⟨other, rfl, c, hone, hid⟩
  · simp [hnone]
  · rw [hone, Option.some_inj]
    constructor
    · rintro ⟨c', hc', hid'⟩
      rw [List.mem_singleton.1 hc'] at hid'
      exact hg.node_ext (hid.trans hid'.symm)
    · rintro rfl
      exact ⟨c, List.mem_singleton_self c, hid⟩

/-- The steps from a decision whose ways out were found. -/
theorem Distinct.edge_iff_of_branches (hg : g.Distinct) {a b : g.Node}
    {whenTrue whenFalse : Option g.Node} (hkind : a.val.kind = .decision)
    (hbranches : g.branches a.val = .ok (whenTrue, whenFalse)) :
    Edge a b ↔ whenTrue = some b ∨ whenFalse = some b := by
  obtain ⟨hright, hleft, -⟩ := branches_eq_ok_iff.1 hbranches
  rw [edge_decision hkind, ← hg.branch_iff hright, ← hg.branch_iff hleft]
  simp only [List.mem_append, or_and_right, exists_or]

end Flowchart.FlowGraph
