import Flowchart.Proofs.Defects
import Flowchart.Proofs.Policies

set_option autoImplicit false

/-! # What a pass reports

The errors of a whole pass, whether it ends with them or leaves units out. Only function bodies know
of blocks: an error is about no block and has no context, or it has the name of its unit around it
and comes from the body of a function, where it is about a block with that defect. -/

namespace Flowchart

open Relation (ReflTransGen)

open CompileError (Plain Unplaced)

/-! ## Declarations -/

theorem Item.plain_checkName (item : Item) (project : String) :
    FailsWith Plain (item.checkName project) := by
  unfold checkName
  split
  · exact .error ⟨rfl, trivial, not_false⟩
  split
  · exact .error ⟨rfl, trivial, not_false⟩
  split
  · exact .error ⟨rfl, trivial, not_false⟩
  · exact .ok

theorem JavaType.plain_defaultValue (type : JavaType) : FailsWith Plain type.defaultValue := by
  cases type with
  | double | boolean | string | «class» => exact .ok
  | void | array => exact .error ⟨rfl, trivial, not_false⟩

namespace EntryPoint

theorem unplaced_argument (parameter : Item) (value : String) :
    FailsWith Unplaced (argument parameter value) := by
  unfold argument
  split
  · exact .error ⟨rfl, trivial⟩
  split
  · split
    · exact .ok
    · exact .error ⟨rfl, trivial⟩
  split
  · split
    · exact .ok
    · exact .error ⟨rfl, trivial⟩
  split
  · exact .ok
  · exact .error ⟨rfl, trivial⟩

theorem unplaced_arguments (supplied : Bindings) (items : List Item) :
    FailsWith Unplaced (arguments supplied items) := by
  induction items with
  | nil => exact .ok
  | cons item rest ih =>
    rw [arguments]
    exact (unplaced_argument item _).bind fun _ _ => ih.bind fun _ _ => .ok

theorem unplaced_mainMethod (function : Item) (fullName : String) (supplied : Bindings) :
    FailsWith Unplaced (mainMethod function fullName supplied) := by
  have hnames : FailsWith Unplaced (checkNames function fullName supplied) := by
    simp only [checkNames]
    split
    · exact .ok
    · exact .error ⟨rfl, trivial⟩
  unfold mainMethod
  exact hnames.bind fun _ _ => (unplaced_arguments supplied _).bind fun _ _ => .ok

end EntryPoint

/-- An error that is about no block, or comes from the body of a function with one of the names. -/
def SymbolTable.Traces (t : SymbolTable) (names : List String) (e : CompileError) : Prop :=
  e.Unplaced ∨ ∃ name ∈ names, t.functionBody name = .error e

/-- The names under which a unit may have functions: its own, and those of its children. -/
def DeclarationUnit.names (unit : DeclarationUnit) : List String :=
  unit.fullName :: unit.item.children.map fun child => FullName.join unit.fullName child.name

namespace Emitter

variable (e : Emitter)

theorem plain_typeOf (fullName : String) : FailsWith Plain (e.typeOf fullName) :=
  (e.table.plain_resolve fullName).bind fun s _ => e.table.plain_resolveTypeOf s

theorem plain_field (item : Item) (fullName : String) (modifiers : List JavaModifier) :
    FailsWith Plain (e.field item fullName modifiers) := by
  unfold field
  refine (e.plain_typeOf fullName).bind fun type _ => ?_
  exact type.plain_defaultValue.bind fun _ _ => .ok

theorem plain_signature (fullName : String) (items : List Item) :
    FailsWith Plain (e.signature fullName items) := by
  induction items with
  | nil => exact .ok
  | cons child rest ih =>
    rw [signature]
    refine (child.plain_checkName _).bind fun _ _ => ?_
    split
    · exact (e.plain_typeOf _).bind fun _ _ => ih.bind fun _ _ => .ok
    · refine (e.plain_typeOf _).bind fun type _ => ?_
      exact type.plain_defaultValue.bind fun _ _ => ih.bind fun _ _ => .ok
    · exact .error ⟨rfl, trivial, not_false⟩

section

-- a property of plain errors and of those of all bodies that are compiled
variable {P : CompileError → Prop} (hplain : ∀ error, error.Plain → P error) {names : List String}
  (hbodies : ∀ name ∈ names, FailsWith P (e.table.functionBody name))

include hplain hbodies

theorem method_fails (function : Item) {fullName : String} (isStatic : Bool)
    (hname : fullName ∈ names) : FailsWith P (e.method function fullName isStatic) := by
  unfold method
  split
  · exact .error (hplain _ ⟨rfl, trivial, not_false⟩)
  · refine ((e.table.plain_resolveReturnType _).mono hplain).bind fun _ _ => ?_
    refine ((e.plain_signature _ _).mono hplain).bind fun _ _ => ?_
    exact (hbodies fullName hname).bind fun _ _ => .ok

theorem members_fails {fullName : String} {items : List Item}
    (hnames : ∀ child ∈ items, FullName.join fullName child.name ∈ names) :
    FailsWith P (e.members fullName items) := by
  induction items with
  | nil => exact .ok
  | cons child rest ih =>
    rw [List.forall_mem_cons] at hnames
    have hrest := ih hnames.2
    rw [members]
    refine ((child.plain_checkName _).mono hplain).bind fun _ _ => ?_
    split
    · exact ((e.plain_field _ _ _).mono hplain).bind fun _ _ => hrest.bind fun _ _ => .ok
    · exact (e.method_fails hplain hbodies _ _ hnames.1).bind fun _ _ =>
        hrest.bind fun _ _ => .ok
    · exact .error (hplain _ ⟨rfl, trivial, not_false⟩)

end

/-- Besides plain errors, those of a unit come from the bodies of its functions and from the method
    that is added to the entry function. -/
theorem emit_fails_of {P : CompileError → Prop} (hplain : ∀ error, error.Plain → P error)
    (unit : DeclarationUnit)
    (hbodies : ∀ name ∈ unit.names, FailsWith P (e.table.functionBody name))
    (hentry : unit.item.kind = .function → FailsWith P (e.entryMethods unit)) :
    FailsWith P (e.emit unit) := by
  unfold emit publicClass
  refine FailsWith.bind ?_ fun _ _ => .ok
  split
  · refine (e.members_fails hplain hbodies fun child hchild => ?_).bind fun _ _ => .ok
    exact List.mem_cons_of_mem _ (List.mem_map_of_mem hchild)
  · next hkind =>
      refine (e.method_fails hplain hbodies _ _ List.mem_cons_self).bind fun _ _ => ?_
      exact (hentry hkind).bind fun _ _ => .ok
  · exact ((e.plain_field _ _ _).mono hplain).bind fun _ _ => .ok
  · exact .error (hplain _ ⟨rfl, trivial, not_false⟩)

/-- The errors of a unit come from the bodies of its functions, or are about no block. -/
theorem emit_fails (unit : DeclarationUnit) :
    FailsWith (e.table.Traces unit.names) (e.emit unit) := by
  refine e.emit_fails_of (fun _ he => Or.inl he.unplaced) unit ?_ fun _ => ?_
  · exact fun name hname error herror => Or.inr ⟨name, hname, herror⟩
  · unfold entryMethods
    split
    · refine ((EntryPoint.unplaced_mainMethod _ _ _).mono fun _ => Or.inl).bind fun _ _ => .ok
    · exact .ok

end Emitter

/-! ## Before the units -/

theorem unplaced_firstRepetition {names : List String} {used : List Uuid} {symbols : List Symbol}
    {e : CompileError} (h : firstRepetition names used symbols = some e) : e.Unplaced := by
  induction symbols generalizing names used with
  | nil => cases h
  | cons s rest ih =>
    rw [firstRepetition] at h
    split at h
    · cases h
      exact ⟨rfl, trivial⟩
    · split at h
      · cases h
        exact ⟨rfl, trivial⟩
      · exact ih h

theorem SymbolTable.unplaced_checkEntry (t : SymbolTable) (options : Options) :
    FailsWith Unplaced (t.checkEntry options) := by
  unfold checkEntry
  split
  · exact .ok
  split
  · exact .error ⟨rfl, trivial⟩
  split
  · exact .error ⟨rfl, trivial⟩
  split
  · exact .error ⟨rfl, trivial⟩
  · exact (EntryPoint.unplaced_mainMethod _ _ _).bind fun _ _ => .ok

namespace Layout

theorem unplaced_ofItems {parent : String} {directory : Path} {includeComments : Bool}
    {items : List Item}
    (h : ∀ item ∈ items, FailsWith Unplaced (ofItem parent directory includeComments item)) :
    FailsWith Unplaced (ofItems parent directory includeComments items) := by
  induction items with
  | nil => exact .ok
  | cons item rest ih =>
    rw [ofItems]
    refine (h item List.mem_cons_self).bind fun _ _ => ?_
    exact (ih fun other hother => h other (List.mem_cons_of_mem _ hother)).bind fun _ _ => .ok

theorem unplaced_ofItem (parent : String) (directory : Path) (includeComments : Bool)
    (item : Item) : FailsWith Unplaced (ofItem parent directory includeComments item) := by
  induction item using Item.induction generalizing parent directory with
  | h item ih =>
    obtain ⟨name, kind, id, comments, children, typeName, returnType, blocks⟩ := item
    rw [ofItem]
    refine ((Item.plain_checkName _ _).mono fun _ he => he.unplaced).bind fun _ _ => ?_
    split
    · refine (unplaced_ofItems fun child hchild => ih child hchild _ _).bind fun _ _ => .ok
    · exact .ok
    · exact .ok
    · exact .ok
    · exact .error ⟨rfl, trivial⟩
    · exact .error ⟨rfl, trivial⟩

theorem unplaced_ofProject (root : Item) (includeComments : Bool) :
    FailsWith Unplaced (ofProject root includeComments) := by
  unfold ofProject
  split
  · exact .error ⟨rfl, trivial⟩
  split
  · exact .error ⟨rfl, trivial⟩
  · refine ((root.plain_checkName _).mono fun _ he => he.unplaced).bind fun _ _ => ?_
    exact (unplaced_ofItems fun item _ => unplaced_ofItem _ _ _ item).bind fun _ _ => .ok

end Layout

/-- Whatever fails before the units is about no block. -/
theorem unplaced_plannedUnits (root : Item) (options : Options) :
    FailsWith Unplaced (plannedUnits root options) := by
  have hbuild : FailsWith Unplaced (SymbolTable.build root) := by
    simp only [SymbolTable.build]
    split
    · next e he => exact .error (unplaced_firstRepetition he)
    · exact .ok
  unfold plannedUnits
  refine hbuild.bind fun t _ => ?_
  refine (t.unplaced_checkEntry options).bind fun _ _ => ?_
  exact (Layout.unplaced_ofProject root _).bind fun _ _ => .ok

/-! ## The units -/

theorem failure?_eq_some_iff {ε α : Type} {x : Except ε α} {e : ε} :
    failure? x = some e ↔ x = .error e := by
  cases x with
  | ok a => simp [failure?]
  | error e' => simp [failure?]

/-- The errors of units carry the names of their units. -/
theorem exists_of_failure {root : Item} {options : Options} {layout : Layout}
    {results : List (Except CompileError GeneratedFile)}
    (h : plannedUnits root options = .ok (layout, results)) {e : CompileError}
    (he : e ∈ results.filterMap failure?) :
    ∃ t, SymbolTable.build root = .ok t ∧ ∃ s ∈ root.units, ∃ cause,
      t.Traces s.unit.names cause ∧ e = .declaration s.fullName cause := by
  simp only [plannedUnits, bind_eq_ok] at h
  obtain ⟨t, ht, ⟨⟩, -, l, hlayout, hresult⟩ := h
  cases pure_eq_ok.1 hresult
  have hunits := units_of_ofProject hlayout
  obtain ⟨result, hresult, hfailed⟩ := List.mem_filterMap.1 he
  rw [hunits, List.map_map] at hresult
  obtain ⟨s, hs, rfl⟩ := List.mem_map.1 hresult
  have hemit := Emitter.emit_fails ⟨t, options⟩ s.unit
  simp only [Function.comp_apply, Emitter.emitUnit, mapError_failure?, Option.map_eq_some_iff]
    at hfailed
  obtain ⟨cause, hcause, rfl⟩ := hfailed
  exact ⟨t, ht, s, hs, cause, hemit cause (failure?_eq_some_iff.1 hcause), rfl⟩

namespace CompileError

/-- An error with no context around its root cause but the block it happened in. -/
def InBlock (e : CompileError) : Prop :=
  e.rootCause.IsBare ∧ (e = e.rootCause ∨ ∃ block, e = .statement block e.rootCause)

theorem IsBare.inBlock {e : CompileError} (h : e.IsBare) : e.InBlock := by
  rw [InBlock, h.rootCause_eq]
  exact ⟨h, Or.inl rfl⟩

theorem IsBare.inBlock_statement {e : CompileError} (h : e.IsBare) (block : Uuid) :
    (CompileError.statement block e).InBlock := by
  rw [InBlock, rootCause, h.rootCause_eq]
  exact ⟨h, Or.inr ⟨block, rfl⟩⟩

/-- The error of a unit of a tree: its name around an error that is about no block, or that the body
    of one of its functions fails with. -/
def IsOfUnit (root : Item) (e : CompileError) : Prop :=
  ∃ s ∈ root.units, ∃ cause, e = .declaration s.fullName cause ∧ cause.InBlock
    ∧ ∃ t, SymbolTable.build root = .ok t ∧ t.Traces s.unit.names cause

end CompileError

theorem FlowGraph.Explains.inBlock {t : SymbolTable} {name : String} {e : CompileError}
    (h : Explains t name e) : e.InBlock := by
  rcases h with ⟨-, hbare⟩ | ⟨g, -, start, -, b, -, hdefect⟩
  · exact hbare.inBlock
  · rcases hdefect.bare_or_statement with hbare | ⟨source, rfl, hbare⟩
    · exact hbare.inBlock
    · exact hbare.inBlock_statement b.val.id

theorem isOfUnit_of_failure {root : Item} {options : Options} {layout : Layout}
    {results : List (Except CompileError GeneratedFile)}
    (h : plannedUnits root options = .ok (layout, results)) {e : CompileError}
    (he : e ∈ results.filterMap failure?) : e.IsOfUnit root := by
  obtain ⟨t, ht, s, hs, cause, hcause, rfl⟩ := exists_of_failure h he
  refine ⟨s, hs, cause, rfl, ?_, t, ht, hcause⟩
  rcases hcause with hunplaced | ⟨name, -, hbody⟩
  · exact hunplaced.2.inBlock
  · have hlists := SymbolTable.build_eq_ok_iff.1 ht
    exact (FlowGraph.functionBody_fails hlists name cause hbody).inBlock

/-- A pass fails for a reason that is about no block, or with the error of a unit, and what it
    leaves out are units with their errors. -/
theorem isOfUnit_of_compile (root : Item) (options : Options) :
    match compile root options with
    | .error e => e.Unplaced ∨ e.IsOfUnit root
    | .ok p => ∀ e ∈ p.skipped, e.IsOfUnit root := by
  have hpass : compile root options = plannedUnits root options >>= fun planned =>
      (collectUnits options.failurePolicy planned.2).map (generated root planned.1) :=
    compile_withPolicy options.failurePolicy
  rw [hpass]
  cases hplanned : plannedUnits root options with
  | error e => exact Or.inl (unplaced_plannedUnits root options e hplanned)
  | ok planned =>
    obtain ⟨layout, results⟩ := planned
    have hunit := @isOfUnit_of_failure root options layout results hplanned
    rw [ok_bind]
    cases policy : options.failurePolicy with
    | skipDeclaration =>
      rw [collectUnits_skip]
      exact fun e he => hunit he
    | abort =>
      rw [collectUnits_abort]
      cases hfailures : results.filterMap failure? with
      | nil => exact fun e he => nomatch he
      | cons e others =>
        refine Or.inr (hunit ?_)
        rw [hfailures]
        exact List.mem_cons_self

/-- An error about a block points at one that can be reached from the start of its function and has
    the defect. A pass fails for a reason that is about no block, or with the error of a unit, and
    what it leaves out are units with their errors. -/
theorem compile_reports (root : Item) (options : Options) :
    (∀ t name e, SymbolTable.build root = .ok t → t.functionBody name = .error e →
      e.InBlock ∧ ∀ id, e.block? = some id →
        ∃ g, FlowGraph.ofFunction t name = .ok g
          ∧ ∃ start : g.Node, g.blocks.filter (·.kind = .start) = [start.val]
          ∧ ∃ b : g.Node, b.val.id = id ∧ ReflTransGen FlowGraph.LeadsTo start b ∧ g.Defect b e)
    ∧ match compile root options with
      | .error e => e.Unplaced ∨ e.IsOfUnit root
      | .ok p => ∀ e ∈ p.skipped, e.IsOfUnit root := by
  refine ⟨fun t name e ht hbody => ?_, isOfUnit_of_compile root options⟩
  have hlists := SymbolTable.build_eq_ok_iff.1 ht
  have hexplains := FlowGraph.functionBody_fails hlists name e hbody
  refine ⟨hexplains.inBlock, fun id hid => ?_⟩
  rcases hexplains with ⟨hnone, -⟩ | ⟨g, hg, start, hstart, b, hreach, hdefect⟩
  · rw [hnone] at hid
    cases hid
  · exact ⟨g, hg, start, hstart, b, hdefect.id_eq hid, hreach, hdefect⟩

/-! ## A loop behind a decision -/

/-- A project with a function that goes round in circles unless its condition holds. -/
def winding : Item where
  name := "Demo"
  kind := .project
  id := some (.ofNat 7)
  children := [{
    name := "run"
    kind := .function
    returnType := some "VOID"
    blocks := [
      { id := .ofNat 1, kind := .start, content := none
        connections := { bottom := some [⟨.ofNat 2, .top⟩] } },
      { id := .ofNat 2, kind := .decision, content := some ⟨some (.boolean true), none⟩
        connections := { right := some [⟨.ofNat 3, .top⟩], left := some [⟨.ofNat 4, .top⟩] } },
      { id := .ofNat 3, kind := .stop, content := none, connections := {} },
      { id := .ofNat 4, kind := .output, content := some ⟨some (.text "again"), none⟩
        connections := { bottom := some [⟨.ofNat 2, .top⟩] } }] }]

/-- The table of the project with the loop. -/
def windingTable : SymbolTable where
  symbols := winding.symbols "" none
  blocks := (winding.symbols "" none).flatMap Symbol.ownedBlocks

theorem winding_build : SymbolTable.build winding = .ok windingTable := rfl

theorem winding_body :
    windingTable.functionBody "Demo.run" = .error (.cycleDetected (.ofNat 2)) := by
  with_unfolding_all rfl

/-- The error is about the decision, which leads back to itself. -/
theorem winding_reports :
    ∃ g, FlowGraph.ofFunction windingTable "Demo.run" = .ok g
      ∧ ∃ start : g.Node, g.blocks.filter (·.kind = .start) = [start.val]
      ∧ ∃ b : g.Node, b.val.id = .ofNat 2 ∧ ReflTransGen FlowGraph.LeadsTo start b
      ∧ g.Defect b (.cycleDetected (.ofNat 2)) :=
  (((compile_reports winding {}).1 _ _ _ winding_build winding_body).2 (.ofNat 2) rfl)

end Flowchart
