import Flowchart.Generation.Emission
import Flowchart.Proofs.Correspondence

set_option autoImplicit false

/-! # Emission of items that correspond

A unit is emitted from its own tree, from the answers of the table about the names in it, from the
options, and from its comments as far as they are shown. So units that correspond become the same
file, whatever else the two projects hold. -/

namespace Flowchart

/-! ## Comments that are shown -/

/-- The comments of an item, or none if comments are left out. -/
def shownComments (includeComments : Bool) (comments : String) : String :=
  if includeComments then comments else ""

theorem lines_shownComments (includeComments : Bool) (comments : String) :
    Comments.lines (shownComments includeComments comments)
      = if includeComments then Comments.lines comments else [] := by
  rw [shownComments]
  split
  · rfl
  · rfl

theorem isAllBlank_shownComments (includeComments : Bool) (comments : String) :
    (!Text.isAllBlank (shownComments includeComments comments))
      = (includeComments && !Text.isAllBlank comments) := by
  cases includeComments with
  | true => rfl
  | false => rfl

/-! ## Checks of single items -/

section

variable {exact shuffled : Prop} {f : Uuid → Uuid} {C : String → String → Prop}
  {item other : Item}

theorem Item.SameHead.follows_checkName (h : item.SameHead shuffled f C other) (project : String) :
    Follows exact f Eq (item.checkName project) (other.checkName project) := by
  rw [checkName, checkName, h.name_eq, h.kind_eq]
  split
  · exact .error _
  · split
    · exact .error _
    · split
      · exact .error _
      · exact .ok rfl

namespace EntryPoint

theorem follows_argument (h : item.SameHead shuffled f C other) (value : String) :
    Follows exact f Eq (argument item value) (argument other value) := by
  rw [argument, argument, h.typeName_eq, h.name_eq]
  cases item.typeName with
  | none => exact .error _
  | some typeName =>
    show Follows exact f Eq (if _ then _ else _) (if _ then _ else _)
    split
    · cases Double.read? (Text.trim value) with
      | some d => exact .ok rfl
      | none => exact .error _
    · split
      · cases readTruth? (Text.trim value) with
        | some b => exact .ok rfl
        | none => exact .error _
      · split
        · exact .ok rfl
        · exact .error _

theorem follows_arguments {items others : List Item}
    (h : List.Forall₂ (Item.Corresponds shuffled f C) items others) (supplied : Bindings) :
    Follows exact f Eq (arguments supplied items) (arguments supplied others) := by
  induction h with
  | nil => exact .ok rfl
  | cons hitem _ ih =>
    rw [arguments, arguments, hitem.head.name_eq]
    refine (follows_argument hitem.head _).bind_eq fun e => ?_
    exact ih.bind_eq fun rest => .ok rfl

/-- The method `main` only depends on the name and the parameters of its function. -/
theorem follows_mainMethod (h : item.Corresponds shuffled f C other)
    (hleaf : item.kind.isNamespace = false) (fullName : String) (supplied : Bindings) :
    Follows exact f Eq (mainMethod item fullName supplied)
      (mainMethod other fullName supplied) := by
  have hparameters : List.Forall₂ (Item.Corresponds shuffled f C) item.parameters
      other.parameters :=
    List.rel_filter (fun a b hab => by simp only [hab.head.kind_eq]) (h.children_forall₂ hleaf)
  have hnames : other.parameters.map (·.name) = item.parameters.map (·.name) := by
    have hnames := List.rel_map (fun _ _ hchild => hchild.head.name_eq.symm) hparameters
    exact (List.forall₂_eq_eq_eq ▸ hnames).symm
  have hcheck : Follows exact f Eq (checkNames item fullName supplied)
      (checkNames other fullName supplied) := by
    simp only [checkNames, hnames]
    split
    · exact .ok rfl
    · exact .error _
  rw [mainMethod, mainMethod, h.head.name_eq]
  refine hcheck.bind_eq fun _ => ?_
  exact (follows_arguments hparameters supplied).bind_eq fun _ => .ok rfl

end EntryPoint

end

/-! ## Emitters -/

/-- The symbol of a unit that is declared in an item of some kind. -/
def DeclarationUnit.symbol (unit : DeclarationUnit) (parentKind : Option ItemKind) : Symbol :=
  ⟨unit.item, unit.fullName, parentKind⟩

namespace Emitter

/-- A second emitter that has the same answers about names, shows the same comments and calls the
    same entry function. -/
structure Mirrors (exact : Prop) (f : Uuid → Uuid) (C : String → String → Prop) (e e' : Emitter) :
    Prop where
  injective : Function.Injective f
  agrees : e.table.Agrees exact e'.table
  lists : ∃ root, e.table.Lists root
  lists_right : ∃ root, e'.table.Lists root
  entryFunction_eq : e'.options.entryFunction = e.options.entryFunction
  parameters_eq : e'.options.parameters = e.options.parameters
  comments_eq : ∀ {comments comments'}, C comments comments' →
    shownComments e'.options.includeComments comments'
      = shownComments e.options.includeComments comments

/-- A symbol of one table and its counterpart in the other one. -/
structure Counterparts (shuffled : Prop) (f : Uuid → Uuid) (C : String → String → Prop)
    (e e' : Emitter) (s s' : Symbol) : Prop where
  mem : s ∈ e.table.symbols
  mem_right : s' ∈ e'.table.symbols
  corresponds : s.Corresponds shuffled f C s'

namespace Mirrors

variable {exact shuffled : Prop} {f : Uuid → Uuid} {C : String → String → Prop} {e e' : Emitter}
  {item other : Item} {s s' : Symbol}

/-! ### Fields and parameters -/

theorem doc_eq (h : e.Mirrors exact f C e') (hitem : item.SameHead shuffled f C other) :
    e'.doc other = e.doc item := by
  rw [doc, doc, ← lines_shownComments, ← lines_shownComments, h.comments_eq hitem.comments]

theorem parameterDoc_eq (h : e.Mirrors exact f C e') (hitem : item.SameHead shuffled f C other) :
    e'.parameterDoc other = e.parameterDoc item := by
  have hlines : ∀ (e : Emitter) (item : Item), e.parameterDoc item
      = if (!Text.isAllBlank (shownComments e.options.includeComments item.comments)) = true then
          ["@param " ++ item.name ++ " " ++ String.intercalate " "
            (Comments.lines (shownComments e.options.includeComments item.comments))]
        else [] := by
    intro e item
    rw [parameterDoc, isAllBlank_shownComments]
    cases e.options.includeComments with
    | true => rfl
    | false => rfl
  rw [hlines, hlines, h.comments_eq hitem.comments, hitem.name_eq]

theorem follows_typeOf (h : e.Mirrors exact f C e') (fullName : String) :
    Follows exact f Eq (e.typeOf fullName) (e'.typeOf fullName) :=
  (h.agrees.follows_resolve fullName).bind fun _ _ hsame => h.agrees.follows_resolveTypeOf hsame

theorem follows_field (h : e.Mirrors exact f C e') (hitem : item.SameHead shuffled f C other)
    (fullName : String) (modifiers : List JavaModifier) :
    Follows exact f Eq (e.field item fullName modifiers) (e'.field other fullName modifiers) := by
  rw [field, field, h.doc_eq hitem, hitem.name_eq]
  refine (h.follows_typeOf fullName).bind_eq fun type => ?_
  exact type.follows_defaultValue.bind_eq fun _ => .ok rfl

theorem follows_signature (h : e.Mirrors exact f C e') {items others : List Item}
    (hitems : List.Forall₂ (Item.Corresponds shuffled f C) items others) (fullName : String) :
    Follows exact f Eq (e.signature fullName items) (e'.signature fullName others) := by
  induction hitems with
  | nil => exact .ok rfl
  | cons hchild _ ih =>
    rw [signature, signature, hchild.head.name_eq, hchild.head.kind_eq,
      h.parameterDoc_eq hchild.head]
    refine (hchild.head.follows_checkName _).bind_eq fun _ => ?_
    split
    · refine (h.follows_typeOf _).bind_eq fun type => ?_
      exact ih.bind_eq fun _ => .ok rfl
    · refine (h.follows_typeOf _).bind_eq fun type => ?_
      refine type.follows_defaultValue.bind_eq fun _ => ?_
      exact ih.bind_eq fun _ => .ok rfl
    · exact .error _

/-! ### Methods and classes -/

theorem follows_functionBody (h : e.Mirrors exact f C e') (hs : Counterparts shuffled f C e e' s s')
    (hleaf : s.item.kind.isNamespace = false) :
    Follows exact f Eq (e.table.functionBody s.fullName) (e'.table.functionBody s.fullName) := by
  obtain ⟨root, hlists⟩ := h.lists
  obtain ⟨root', hlists'⟩ := h.lists_right
  have hfound := hlists.find?_eq_some_iff.2 ⟨hs.mem, rfl⟩
  have hfound' := hlists'.find?_eq_some_iff.2 ⟨hs.mem_right, hs.corresponds.fullName_eq⟩
  exact FlowGraph.follows_functionBody h.injective h.agrees hfound hfound'
    (hs.corresponds.sameFunction hleaf) (hlists.blockIds_nodup hs.mem)

theorem follows_method (h : e.Mirrors exact f C e') (hs : Counterparts shuffled f C e e' s s')
    (hleaf : s.item.kind.isNamespace = false) (isStatic : Bool) :
    Follows exact f Eq (e.method s.item s.fullName isStatic)
      (e'.method s'.item s.fullName isStatic) := by
  have hhead := hs.corresponds.item.head
  rw [method, method, hhead.returnType_eq, hhead.name_eq, h.doc_eq hhead]
  cases s.item.returnType with
  | none => exact .error _
  | some typeName =>
    refine (h.agrees.follows_resolveReturnType typeName).bind_eq fun returnType => ?_
    have hchildren := hs.corresponds.item.children_forall₂ hleaf
    refine (h.follows_signature hchildren s.fullName).bind_eq fun signature => ?_
    exact (h.follows_functionBody hs hleaf).bind_eq fun body => .ok rfl

/-- Children at the same places of counterparts are counterparts. -/
theorem counterparts_of_child (h : e.Mirrors exact f C e')
    (hs : Counterparts shuffled f C e e' s s') {child child' : Item}
    (hchild : child ∈ s.item.children) (hchild' : child' ∈ s'.item.children)
    (hcorresponds : child.Corresponds shuffled f C child') :
    Counterparts shuffled f C e e'
      ⟨child, FullName.join s.fullName child.name, some s.item.kind⟩
      ⟨child', FullName.join s'.fullName child'.name, some s'.item.kind⟩ := by
  obtain ⟨root, hlists⟩ := h.lists
  obtain ⟨root', hlists'⟩ := h.lists_right
  refine ⟨hlists.exists_child hs.mem hchild, hlists'.exists_child hs.mem_right hchild', ?_, ?_,
    hcorresponds⟩
  · simp only [hs.corresponds.fullName_eq, hcorresponds.head.name_eq]
  · simp only [hs.corresponds.item.head.kind_eq]

theorem follows_members (h : e.Mirrors exact f C e') (hs : Counterparts shuffled f C e e' s s')
    {items others : List Item} (hitems : List.Forall₂ (Item.Corresponds shuffled f C) items others)
    (hmem : ∀ child ∈ items, child ∈ s.item.children)
    (hmem' : ∀ child ∈ others, child ∈ s'.item.children) :
    Follows exact f Eq (e.members s.fullName items) (e'.members s.fullName others) := by
  induction hitems with
  | nil => exact .ok rfl
  | @cons child child' rest rest' hchild _ ih =>
    have hrest := ih (fun other hother => hmem other (List.mem_cons_of_mem _ hother))
      (fun other hother => hmem' other (List.mem_cons_of_mem _ hother))
    have hcounterparts := h.counterparts_of_child hs (hmem _ List.mem_cons_self)
      (hmem' _ List.mem_cons_self) hchild
    rw [members, members, hchild.head.name_eq, hchild.head.kind_eq]
    refine (hchild.head.follows_checkName _).bind_eq fun _ => ?_
    split
    · refine (h.follows_field hchild.head _ _).bind_eq fun field => ?_
      exact hrest.bind_eq fun _ => .ok rfl
    · next hkind =>
        have hleaf : child.kind.isNamespace = false := by rw [hkind]; rfl
        refine (h.follows_method hcounterparts hleaf false).bind_eq fun ⟨method, readsInput⟩ => ?_
        exact hrest.bind_eq fun _ => .ok rfl
    · exact .error _

/-! ### Units -/

variable {unit unit' : DeclarationUnit} {parentKind : Option ItemKind}

theorem follows_classOf (h : e.Mirrors exact f C e')
    (hs : Counterparts shuffled f C e e' (unit.symbol parentKind) (unit'.symbol parentKind))
    (hleaf : unit.item.kind.isNamespace = false) :
    Follows exact f Eq (e.classOf unit) (e'.classOf unit') := by
  have hitem : unit.item.Corresponds shuffled f C unit'.item := hs.corresponds.item
  have hname : unit'.fullName = unit.fullName := hs.corresponds.fullName_eq
  rw [classOf, classOf, h.doc_eq hitem.head, hitem.head.name_eq, hname]
  exact (h.follows_members hs (hitem.children_forall₂ hleaf) (fun _ h => h) (fun _ h => h)).bind_eq
    fun _ => .ok rfl

theorem follows_variableClass (h : e.Mirrors exact f C e')
    (hs : Counterparts shuffled f C e e' (unit.symbol parentKind) (unit'.symbol parentKind)) :
    Follows exact f Eq (e.variableClass unit) (e'.variableClass unit') := by
  have hhead : unit.item.SameHead shuffled f C unit'.item := hs.corresponds.item.head
  have hname : unit'.fullName = unit.fullName := hs.corresponds.fullName_eq
  rw [variableClass, variableClass, hhead.name_eq, hname]
  exact (h.follows_field hhead _ _).bind_eq fun _ => .ok rfl

theorem follows_entryMethods (h : e.Mirrors exact f C e')
    (hs : Counterparts shuffled f C e e' (unit.symbol parentKind) (unit'.symbol parentKind))
    (hleaf : unit.item.kind.isNamespace = false) :
    Follows exact f Eq (e.entryMethods unit) (e'.entryMethods unit') := by
  have hname : unit'.fullName = unit.fullName := hs.corresponds.fullName_eq
  rw [entryMethods, entryMethods, h.entryFunction_eq, h.parameters_eq, hname]
  split
  · exact (EntryPoint.follows_mainMethod hs.corresponds.item hleaf _ _).bind_eq fun _ => .ok rfl
  · exact .ok rfl

theorem follows_functionClass (h : e.Mirrors exact f C e')
    (hs : Counterparts shuffled f C e e' (unit.symbol parentKind) (unit'.symbol parentKind))
    (hleaf : unit.item.kind.isNamespace = false) :
    Follows exact f Eq (e.functionClass unit) (e'.functionClass unit') := by
  have hname : unit'.fullName = unit.fullName := hs.corresponds.fullName_eq
  have hown : unit'.item.name = unit.item.name := hs.corresponds.item.head.name_eq
  rw [functionClass, functionClass, hname, hown]
  refine (h.follows_method hs hleaf true).bind_eq fun ⟨method, readsInput⟩ => ?_
  exact (h.follows_entryMethods hs hleaf).bind_eq fun _ => .ok rfl

/-- Units that correspond have the same public class. -/
theorem follows_publicClass (h : e.Mirrors exact f C e')
    (hs : Counterparts shuffled f C e e' (unit.symbol parentKind) (unit'.symbol parentKind)) :
    Follows exact f Eq (e.publicClass unit) (e'.publicClass unit') := by
  have hkind : unit'.item.kind = unit.item.kind := hs.corresponds.item.head.kind_eq
  have hname : unit'.fullName = unit.fullName := hs.corresponds.fullName_eq
  rw [publicClass, publicClass, hkind, hname]
  split
  · next hkind => exact h.follows_classOf hs (by rw [hkind]; rfl)
  · next hkind => exact h.follows_functionClass hs (by rw [hkind]; rfl)
  · exact h.follows_variableClass hs
  · exact .error _

/-- Units that correspond become the same file, if they have the same place. -/
theorem follows_emit (h : e.Mirrors exact f C e')
    (hs : Counterparts shuffled f C e e' (unit.symbol parentKind) (unit'.symbol parentKind))
    (hpackage : unit'.package = unit.package) (hdirectory : unit'.directory = unit.directory) :
    Follows exact f Eq (e.emit unit) (e'.emit unit') := by
  have hname : unit'.item.name = unit.item.name := hs.corresponds.item.head.name_eq
  rw [emit, emit, hname, hpackage, hdirectory]
  exact (h.follows_publicClass hs).bind_eq fun _ => .ok rfl

end Mirrors

end Emitter

end Flowchart
