import Flowchart.Proofs.Agreement
import Flowchart.Proofs.Walk
import Mathlib.Data.List.Perm.Basic

set_option autoImplicit false

/-! # Graphs that look alike

The blocks of a function can be listed in another order and have other identifiers. As long as no
two blocks get the same identifier, a walk goes from block to block as before, meets a block again
where it did before, and comes to the same body or to the same error about the renamed block. -/

namespace Flowchart

/-- Two functions with the same interface and the same names inside, whose blocks are the same but
    for their order and their identifiers. -/
structure Symbol.SameFunction (f : Uuid → Uuid) (s s' : Symbol) : Prop extends
    s.SameInterface s' where
  childNames_eq : s'.item.children.map (·.name) = s.item.children.map (·.name)
  blocks_perm : (s.item.blocks.map (Block.rename f)).Perm s'.item.blocks

namespace FlowGraph

/-- Two graphs of functions that look alike, in tables that agree. -/
structure Resembles (exact : Prop) (f : Uuid → Uuid) (g g' : FlowGraph) : Prop where
  injective : Function.Injective f
  agrees : g.table.Agrees exact g'.table
  function : g.function.SameFunction f g'.function
  returnType_eq : g'.returnType = g.returnType
  distinct : g.Distinct

namespace Resembles

variable {exact : Prop} {f : Uuid → Uuid} {g g' : FlowGraph}

/-- The identifiers of the second graph do not repeat either. -/
theorem distinct_right (h : g.Resembles exact f g') : g'.Distinct := by
  have hids : ((g.blocks.map (Block.rename f)).map (·.id)).Nodup := by
    have hmap : (g.blocks.map (Block.rename f)).map (·.id) = (g.blocks.map (·.id)).map f := by
      simp only [List.map_map]
      rfl
    rw [hmap]
    exact h.distinct.map h.injective
  exact (h.function.blocks_perm.map (·.id)).nodup_iff.1 hids

/-- The counterpart of a block. -/
def image (h : g.Resembles exact f g') (node : g.Node) : g'.Node :=
  ⟨node.val.rename f, h.function.blocks_perm.subset (List.mem_map_of_mem node.property)⟩

/-! ## Single blocks -/

theorem follows_expression (h : g.Resembles exact f g') (b : Block) (s : Statement) :
    Follows exact f Eq (g.expression b s) (g'.expression (b.rename f) s) :=
  (h.agrees.follows_lower s).mapError fun _ => rfl

theorem follows_requiredExpression (h : g.Resembles exact f g') (b : Block) :
    Follows exact f Eq (g.requiredExpression b) (g'.requiredExpression (b.rename f)) := by
  rw [requiredExpression, requiredExpression, Block.statement?_rename]
  cases b.statement? with
  | some s => exact h.follows_expression b s
  | none => exact .error _

theorem follows_assigned (h : g.Resembles exact f g') (b : Block) :
    Follows exact f Symbol.SameInterface (g.assigned b) (g'.assigned (b.rename f)) := by
  rw [assigned, assigned, Block.target?_rename]
  cases b.target? with
  | none => exact .error _
  | some name =>
    refine (h.agrees.follows_resolve name).bind fun s s' hsame => ?_
    rw [hsame.kind_eq]
    split
    · exact .ok hsame
    · exact .error _

theorem isHidden_eq (h : g.Resembles exact f g') {target target' : Symbol}
    (hsame : target.SameInterface target') : g'.isHidden target' = g.isHidden target := by
  have hany : ∀ (items : List Item) (name : String),
      items.any (·.name == name) = (items.map (·.name)).any (· == name) := by
    intro items name
    rw [List.any_map]
    rfl
  rw [isHidden, isHidden, hany, hany, h.function.childNames_eq, hsame.name_eq]

theorem assignmentTarget_eq (h : g.Resembles exact f g') {target target' : Symbol}
    (hsame : target.SameInterface target') (value : JavaExpr) :
    g'.assignmentTarget target' value = g.assignmentTarget target value := by
  have hown : g'.isOwnField target' = g.isOwnField target := by
    rw [isOwnField, isOwnField, hsame.parentKind_eq, hsame.fullName_eq, h.function.parentKind_eq,
      h.function.fullName_eq]
  rw [assignmentTarget, assignmentTarget, hown, h.isHidden_eq hsame, hsame.reference_eq]

theorem follows_readStatement (h : g.Resembles exact f g') (b : Block) :
    Follows exact f Eq (g.readStatement b) (g'.readStatement (b.rename f)) := by
  refine (h.follows_assigned b).bind fun target target' hsame => ?_
  refine (h.agrees.follows_resolveTypeOf hsame).bind_eq fun type => ?_
  rw [hsame.typeName_eq, hsame.reference_eq]
  split
  · exact .error _
  · exact type.follows_defaultValue.bind_eq fun _ => .ok rfl

theorem follows_head (h : g.Resembles exact f g') (b : Block) :
    Follows exact f Eq (g.head b) (g'.head (b.rename f)) := by
  rw [head, head, Block.kind_rename]
  split
  · exact (h.follows_requiredExpression b).bind_eq fun _ => .ok rfl
  · refine (h.follows_assigned b).bind fun target target' hsame => ?_
    refine (h.follows_requiredExpression b).bind_eq fun value => ?_
    rw [h.assignmentTarget_eq hsame]
    exact .ok rfl
  · exact (h.follows_readStatement b).bind_eq fun _ => .ok rfl
  · exact (h.follows_requiredExpression b).bind_eq fun _ => .ok rfl
  · exact .ok rfl
  · exact .ok rfl
  · exact .ok rfl

theorem follows_returnStatement (h : g.Resembles exact f g') (b : Block) :
    Follows exact f Eq (g.returnStatement b) (g'.returnStatement (b.rename f)) := by
  rw [returnStatement, returnStatement, Block.statement?_rename, h.returnType_eq,
    h.function.fullName_eq]
  cases b.statement? with
  | some s =>
    show Follows exact f Eq (if _ then _ else _) (if _ then _ else _)
    split
    · exact .error _
    · exact (h.follows_expression b s).bind_eq fun _ => .ok rfl
  | none =>
    show Follows exact f Eq (if _ then _ else _) (if _ then _ else _)
    split
    · exact .ok rfl
    · exact .error _

/-! ## Ways between blocks -/

/-- An identifier that no block has is renamed to one that no block has. -/
theorem node?_image (h : g.Resembles exact f g') (id : Uuid) :
    g'.node? (f id) = (g.node? id).map h.image := by
  cases hfound : g.node? id with
  | some node =>
    have hid := h.distinct.node?_eq_some_iff.1 hfound
    exact h.distinct_right.node?_eq_some_iff.2 (congrArg f hid)
  | none =>
    cases hfound' : g'.node? (f id) with
    | none => rfl
    | some node' =>
      have hid' := h.distinct_right.node?_eq_some_iff.1 hfound'
      obtain ⟨b, hb, heq⟩ := List.mem_map.1 (h.function.blocks_perm.mem_iff.2 node'.property)
      have hid : f b.id = f id := by rw [← hid', ← heq, Block.id_rename]
      have hnode : g.node? id = some ⟨b, hb⟩ :=
        h.distinct.node?_eq_some_iff.2 (h.injective hid)
      rw [hfound] at hnode
      cases hnode

theorem follows_follow (h : g.Resembles exact f g') (b : Block) (c : Connection) :
    Follows exact f (fun node node' => node' = h.image node) (g.follow b c)
      (g'.follow (b.rename f) (c.rename f)) := by
  rw [follow, follow, show (c.rename f).target = f c.target from rfl, h.node?_image]
  cases g.node? c.target with
  | some node => exact .ok rfl
  | none => exact .error _

theorem follows_next (h : g.Resembles exact f g') (b : Block) :
    Follows exact f (fun node node' => node' = h.image node) (g.next b)
      (g'.next (b.rename f)) := by
  rw [next, next, Block.successors_rename]
  cases b.successors with
  | nil => exact .error _
  | cons c others =>
    cases others with
    | nil => exact h.follows_follow b c
    | cons c' rest =>
      simp only [List.map_cons, List.length_cons, List.length_map]
      exact .error _

theorem follows_branch (h : g.Resembles exact f g') (b : Block) (side : Side) :
    Follows exact f (fun node? node?' => node?' = node?.map h.image) (g.branch b side)
      (g'.branch (b.rename f) side) := by
  rw [branch, branch, Block.branch_rename]
  cases b.branch side with
  | nil => exact .ok rfl
  | cons c others =>
    cases others with
    | nil => exact (h.follows_follow b c).bind fun node node' heq => .ok (heq ▸ rfl)
    | cons c' rest =>
      simp only [List.map_cons, List.length_cons, List.length_map]
      exact .error _

theorem follows_branches (h : g.Resembles exact f g') (b : Block) :
    Follows exact f (fun ways ways' => ways' = (ways.1.map h.image, ways.2.map h.image))
      (g.branches b) (g'.branches (b.rename f)) := by
  refine (h.follows_branch b .right).bind fun whenTrue _ heq => ?_
  subst heq
  refine (h.follows_branch b .left).bind fun whenFalse _ heq => ?_
  subst heq
  rw [h.returnType_eq, h.function.fullName_eq]
  simp only [Option.isNone_map]
  split
  · exact .error _
  · split
    · exact .error _
    · exact .ok rfl

theorem perm_starts (h : g.Resembles exact f g') :
    ((g.blocks.attach.filter (·.val.kind = .start)).map h.image).Perm
      (g'.blocks.attach.filter (·.val.kind = .start)) := by
  -- compared as plain blocks, without their membership
  refine (List.map_perm_map_iff Subtype.val_injective).1 ?_
  have hval : ∀ g : FlowGraph, (g.blocks.attach.filter (·.val.kind = .start)).map (·.val)
      = g.blocks.filter (·.kind = .start) := by
    intro g
    conv_rhs => rw [← List.attach_map_subtype_val g.blocks]
    rw [List.filter_map]
    rfl
  have himage : ((g.blocks.attach.filter (·.val.kind = .start)).map h.image).map (·.val)
      = (g.blocks.map (Block.rename f)).filter (·.kind = .start) := by
    have hkind : (g.blocks.map (Block.rename f)).filter (·.kind = .start)
        = (g.blocks.filter (·.kind = .start)).map (Block.rename f) := List.filter_map
    rw [hkind, ← hval, List.map_map, List.map_map]
    rfl
  rw [himage, hval]
  exact h.function.blocks_perm.filter _

theorem follows_start (h : g.Resembles exact f g') :
    Follows exact f (fun node node' => node' = h.image node) g.start g'.start := by
  have hperm := h.perm_starts
  rw [start, start, h.function.fullName_eq]
  revert hperm
  generalize g.blocks.attach.filter (·.val.kind = .start) = starts
  generalize g'.blocks.attach.filter (·.val.kind = .start) = starts'
  intro hperm
  cases starts with
  | nil =>
    rw [List.nil_perm.1 hperm]
    exact .error _
  | cons first others =>
    cases others with
    | nil =>
      rw [← List.singleton_perm.1 hperm]
      exact .ok rfl
    | cons second rest =>
      have hlength := hperm.length_eq
      -- several starts on the one side are as many on the other
      cases starts' with
      | nil => simp at hlength
      | cons first' others' =>
        cases others' with
        | nil => simp at hlength
        | cons second' rest' =>
          have hrest : rest.length = rest'.length := by simpa using hlength
          simp only [List.length_cons, hrest]
          exact .error _

/-! ## The walk -/

/-- A walk from the counterpart of a block, with the renamed path behind it. -/
theorem follows_walk (h : g.Resembles exact f g') (path : List Uuid) (node : g.Node) :
    Follows exact f Eq (g.walk path node) (g'.walk (path.map f) (h.image node)) := by
  have himage : ∀ node : g.Node, (h.image node).val = node.val.rename f := fun _ => rfl
  have hvisited : ∀ (path : List Uuid) (node : g.Node),
      (h.image node).val.id ∈ path.map f ↔ node.val.id ∈ path := by
    intro path node
    rw [himage, Block.id_rename, List.mem_map_of_injective h.injective]
  -- on the walk through the first graph; the second one meets a block again if the first does
  induction path, node using walk.induct g with
  | case1 path node hmem =>
    rw [walk_of_mem hmem, walk_of_mem ((hvisited path node).2 hmem)]
    exact .error _
  | case2 path node hfresh _ hkind =>
    rw [walk_stop hfresh hkind, walk_stop (mt (hvisited path node).1 hfresh) hkind]
    exact (h.follows_returnStatement _).bind_eq fun _ => .ok rfl
  | case3 path node hfresh _ path' hkind =>
    rename_i ih
    rw [walk_decision hfresh hkind, walk_decision (mt (hvisited path node).1 hfresh) hkind]
    refine (h.follows_requiredExpression _).bind_eq fun condition => ?_
    refine (h.follows_branches _).bind ?_
    rintro ⟨whenTrue, whenFalse⟩ _ rfl
    have hside : Follows exact f Eq (g.walkSide path' whenTrue)
        (g'.walkSide (path'.map f) (whenTrue.map h.image)) := by
      cases whenTrue with
      | some next => exact ih next
      | none => exact .ok rfl
    refine hside.bind_eq fun thenBody => ?_
    cases whenFalse with
    | some next => exact (ih next).bind_eq fun elseBody => .ok rfl
    | none => exact .ok rfl
  | case4 path node hfresh _ path' hstop hdecision =>
    rename_i ih
    rw [walk_step hfresh hstop hdecision,
      walk_step (mt (hvisited path node).1 hfresh) hstop hdecision]
    refine (h.follows_head _).bind_eq fun head => ?_
    refine (h.follows_next _).bind fun next _ heq => ?_
    subst heq
    exact (ih next).bind_eq fun rest => .ok rfl

end Resembles

/-! ## Bodies -/

variable {exact : Prop} {f : Uuid → Uuid} {t t' : SymbolTable} {name : String} {s s' : Symbol}

theorem follows_ofFunction (hinjective : Function.Injective f) (hagrees : t.Agrees exact t')
    (hs : t.find? name = some s) (hs' : t'.find? name = some s') (hsame : s.SameFunction f s')
    (hdistinct : (s.item.blocks.map (·.id)).Nodup) :
    Follows exact f (Resembles exact f) (ofFunction t name) (ofFunction t' name) := by
  rw [ofFunction, ofFunction, (t.resolve_eq_ok_iff).2 hs, (t'.resolve_eq_ok_iff).2 hs', ok_bind,
    ok_bind, hsame.kind_eq]
  split
  · refine (hagrees.follows_resolveReturnTypeOf hsame.toSameInterface).bind_eq fun returnType => ?_
    exact .ok ⟨hinjective, hagrees, hsame, rfl, hdistinct⟩
  · exact .error _

/-- Functions that look alike have the same body. -/
theorem follows_functionBody (hinjective : Function.Injective f) (hagrees : t.Agrees exact t')
    (hs : t.find? name = some s) (hs' : t'.find? name = some s') (hsame : s.SameFunction f s')
    (hdistinct : (s.item.blocks.map (·.id)).Nodup) :
    Follows exact f Eq (t.functionBody name) (t'.functionBody name) := by
  refine (follows_ofFunction hinjective hagrees hs hs' hsame hdistinct).bind fun g g' h => ?_
  refine h.follows_start.bind fun start _ heq => ?_
  subst heq
  exact h.follows_walk [] start

end FlowGraph

end Flowchart
