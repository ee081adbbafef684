import Flowchart.Generation.Emission
import Flowchart.Proofs.Table

set_option autoImplicit false

/-! # Members of emitted classes

What a class is made of if it could be emitted. Whatever a unit is, its fields come from variables
and its methods from functions, the scanner stands before the fields if one of the methods reads
input, and the method `main` behind the methods if the unit is the entry function. -/

namespace Flowchart

/-- The items of one kind for which a unit has members, with their full names: of a class those
    inside it, and otherwise the item of the unit itself. -/
def DeclarationUnit.membersOfKind (unit : DeclarationUnit) (kind : ItemKind) :
    List (Item × String) :=
  if unit.item.kind = .classItem then
    (unit.item.childrenOfKind kind).map fun child =>
      (child, FullName.join unit.fullName child.name)
  else if unit.item.kind = kind then [(unit.item, unit.fullName)] else []

/-- Whether the members of a unit are static. -/
def DeclarationUnit.isStatic (unit : DeclarationUnit) : Bool := unit.item.kind ≠ .classItem

namespace DeclarationUnit

variable {unit : DeclarationUnit} {kind : ItemKind}

theorem membersOfKind_class (h : unit.item.kind = .classItem) :
    unit.membersOfKind kind = (unit.item.childrenOfKind kind).map fun child =>
      (child, FullName.join unit.fullName child.name) := by
  rw [membersOfKind, if_pos h]

theorem membersOfKind_self (hclass : unit.item.kind ≠ .classItem) (h : unit.item.kind = kind) :
    unit.membersOfKind kind = [(unit.item, unit.fullName)] := by
  rw [membersOfKind, if_neg hclass, if_pos h]

theorem mem_self_membersOfKind (hclass : unit.item.kind ≠ .classItem)
    (h : unit.item.kind = kind) : (unit.item, unit.fullName) ∈ unit.membersOfKind kind := by
  rw [membersOfKind_self hclass h]
  exact List.mem_singleton_self _

theorem membersOfKind_other (hclass : unit.item.kind ≠ .classItem) (h : unit.item.kind ≠ kind) :
    unit.membersOfKind kind = [] := by
  rw [membersOfKind, if_neg hclass, if_neg h]

/-- A member is of its kind, and inside a class or the item of the unit itself. -/
theorem mem_membersOfKind_iff {member : Item × String} :
    member ∈ unit.membersOfKind kind
      ↔ member.1.kind = kind
        ∧ (unit.item.kind = .classItem ∧ member.1 ∈ unit.item.children
            ∧ member.2 = FullName.join unit.fullName member.1.name
          ∨ unit.item.kind ≠ .classItem ∧ member = (unit.item, unit.fullName)) := by
  obtain ⟨item, name⟩ := member
  rw [membersOfKind, Item.childrenOfKind]
  split
  · next hclass =>
    simp only [List.mem_map, List.mem_filter, decide_eq_true_eq, Prod.mk.injEq, hclass, true_and,
      ne_eq, not_true, false_and, or_false]
    constructor
    · rintro ⟨child, ⟨hchild, hkind⟩, rfl, rfl⟩
      exact ⟨hkind, hchild, rfl⟩
    · rintro ⟨hkind, hchild, rfl⟩
      exact ⟨item, ⟨hchild, hkind⟩, rfl, rfl⟩
  · next hclass =>
    split
    · next hkind => grind
    · next hkind => grind

end DeclarationUnit

namespace Emitter

variable {e : Emitter} {item child : Item} {fullName : String} {items : List Item}

/-! ## Single members -/

theorem typeOf_eq_ok_iff {type : JavaType} :
    e.typeOf fullName = .ok type
      ↔ ∃ s, e.table.find? fullName = some s ∧ e.table.resolveTypeOf s = .ok type := by
  simp only [typeOf, bind_eq_ok, SymbolTable.resolve_eq_ok_iff]

/-- A field or local has the declared type and starts with the default value of that type. -/
inductive Starts (e : Emitter) (fullName : String) : JavaType → JavaExpr → Prop
  | of_type {type : JavaType} {initializer : JavaExpr} (type_eq : e.typeOf fullName = .ok type)
      (default_eq : type.defaultValue = .ok initializer) : Starts e fullName type initializer

theorem field_eq_ok_iff {modifiers : List JavaModifier} {f : JavaField} :
    e.field item fullName modifiers = .ok f
      ↔ ∃ type initializer, e.Starts fullName type initializer
        ∧ f = { doc := e.doc item, modifiers, type, name := item.name, initializer } := by
  simp only [field, bind_eq_ok, pure_eq_ok]
  constructor
  · rintro ⟨type, htype, initializer, hdefault, rfl⟩
    exact ⟨type, initializer, ⟨htype, hdefault⟩, rfl⟩
  · rintro ⟨type, initializer, ⟨htype, hdefault⟩, rfl⟩
    exact ⟨type, htype, initializer, hdefault, rfl⟩

/-- What the children of a function become: all of them can be declared, parameters are parameters
    and variables are locals, each in order. -/
structure Signature.IsOf (e : Emitter) (fullName : String) (items : List Item)
    (signature : Signature) : Prop where
  checked : ∀ child ∈ items, child.checkName (FullName.project fullName) = .ok ()
  assignable : ∀ child ∈ items, child.kind.isAssignable = true
  parameters_forall₂ : List.Forall₂
    (fun child (p : JavaParameter) => e.typeOf (FullName.join fullName child.name) = .ok p.type
      ∧ p.name = child.name)
    (items.filter (·.kind = .parameter)) signature.parameters
  locals_forall₂ : List.Forall₂
    (fun child statement => ∃ type initializer,
      e.Starts (FullName.join fullName child.name) type initializer
      ∧ statement = .localVariable type child.name initializer)
    (items.filter (·.kind = .variable)) signature.locals

theorem signature_eq_ok {signature : Signature} (h : e.signature fullName items = .ok signature) :
    signature.IsOf e fullName items := by
  induction items generalizing signature with
  | nil =>
    cases h
    exact ⟨nofun, nofun, .nil, .nil⟩
  | cons first rest ih =>
    obtain ⟨⟨⟩, hname, h⟩ := bind_eq_ok.1 h
    split at h
    · next hkind =>
        obtain ⟨type, htype, h⟩ := bind_eq_ok.1 h
        obtain ⟨others, hothers, h⟩ := bind_eq_ok.1 h
        cases pure_eq_ok.1 h
        obtain ⟨hchecked, hassignable, hparameters, hlocals⟩ := ih hothers
        exact {
          checked := List.forall_mem_cons.2 ⟨hname, hchecked⟩
          assignable := List.forall_mem_cons.2 ⟨by rw [hkind]; rfl, hassignable⟩
          parameters_forall₂ := by
            rw [List.filter_cons_of_pos (by simp [hkind])]
            exact .cons ⟨htype, rfl⟩ hparameters
          locals_forall₂ := by rwa [List.filter_cons_of_neg (by simp [hkind])] }
    · next hkind =>
        obtain ⟨type, htype, h⟩ := bind_eq_ok.1 h
        obtain ⟨initializer, hdefault, h⟩ := bind_eq_ok.1 h
        obtain ⟨others, hothers, h⟩ := bind_eq_ok.1 h
        cases pure_eq_ok.1 h
        obtain ⟨hchecked, hassignable, hparameters, hlocals⟩ := ih hothers
        exact {
          checked := List.forall_mem_cons.2 ⟨hname, hchecked⟩
          assignable := List.forall_mem_cons.2 ⟨by rw [hkind]; rfl, hassignable⟩
          parameters_forall₂ := by rwa [List.filter_cons_of_neg (by simp [hkind])]
          locals_forall₂ := by
            rw [List.filter_cons_of_pos (by simp [hkind])]
            exact .cons ⟨type, initializer, ⟨htype, hdefault⟩, rfl⟩ hlocals }
    · cases h

/-- A method declares the locals of its function, and does then what the blocks do. -/
structure IsMethodOf (e : Emitter) (function : Item) (fullName : String) (isStatic : Bool)
    (signature : Signature) (body : Body) (m : JavaMethod) : Prop where
  returnType_eq : ∃ typeName, function.returnType = some typeName
    ∧ e.table.resolveReturnType typeName = .ok m.returnType
  signature_isOf : signature.IsOf e fullName function.children
  functionBody_eq : e.table.functionBody fullName = .ok body
  modifiers_eq : m.modifiers = methodModifiers isStatic
  name_eq : m.name = function.name
  parameters_eq : m.parameters = signature.parameters
  body_eq : m.body = signature.locals ++ body.statements

theorem method_eq_ok {function : Item} {isStatic : Bool} {result : JavaMethod × Bool}
    (h : e.method function fullName isStatic = .ok result) :
    ∃ signature body, e.IsMethodOf function fullName isStatic signature body result.1
      ∧ result.2 = body.readsInput := by
  unfold method at h
  split at h
  · cases h
  · next typeName hname =>
      obtain ⟨returnType, htype, h⟩ := bind_eq_ok.1 h
      obtain ⟨signature, hsignature, h⟩ := bind_eq_ok.1 h
      obtain ⟨body, hbody, h⟩ := bind_eq_ok.1 h
      cases pure_eq_ok.1 h
      exact ⟨signature, body,
        ⟨⟨typeName, hname, htype⟩, signature_eq_ok hsignature, hbody, rfl, rfl, rfl, rfl⟩, rfl⟩

/-! ## Members of a class -/

/-- What the items inside a class become: all of them can be declared, variables are fields and
    functions are methods, each in order. -/
structure Members.IsOf (e : Emitter) (fullName : String) (items : List Item) (members : Members)
    (results : List (JavaMethod × Bool)) : Prop where
  checked : ∀ child ∈ items, child.checkName (FullName.project fullName) = .ok ()
  kinds : ∀ child ∈ items, child.kind = .variable ∨ child.kind = .function
  fields_forall₂ : List.Forall₂
    (fun child f => e.field child (FullName.join fullName child.name) [.publicMember] = .ok f)
    (items.filter (·.kind = .variable)) members.fields
  results_forall₂ : List.Forall₂
    (fun child result => e.method child (FullName.join fullName child.name) false = .ok result)
    (items.filter (·.kind = .function)) results
  methods_eq : members.methods = results.map Prod.fst
  readsInput_eq : members.readsInput = results.any Prod.snd

theorem members_eq_ok {members : Members} (h : e.members fullName items = .ok members) :
    ∃ results, members.IsOf e fullName items results := by
  induction items generalizing members with
  | nil =>
    cases h
    exact ⟨[], nofun, nofun, .nil, .nil, rfl, rfl⟩
  | cons first rest ih =>
    obtain ⟨⟨⟩, hname, h⟩ := bind_eq_ok.1 h
    split at h
    · next hkind =>
        obtain ⟨field, hfield, h⟩ := bind_eq_ok.1 h
        obtain ⟨others, hothers, h⟩ := bind_eq_ok.1 h
        cases pure_eq_ok.1 h
        obtain ⟨results, hchecked, hkinds, hfields, hresults, hmethods, hreads⟩ := ih hothers
        exact ⟨results, {
          checked := List.forall_mem_cons.2 ⟨hname, hchecked⟩
          kinds := List.forall_mem_cons.2 ⟨Or.inl hkind, hkinds⟩
          fields_forall₂ := by
            rw [List.filter_cons_of_pos (by simp [hkind])]
            exact .cons hfield hfields
          results_forall₂ := by rwa [List.filter_cons_of_neg (by simp [hkind])]
          methods_eq := hmethods
          readsInput_eq := hreads }⟩
    · next hkind =>
        obtain ⟨result, hresult, h⟩ := bind_eq_ok.1 h
        obtain ⟨others, hothers, h⟩ := bind_eq_ok.1 h
        cases pure_eq_ok.1 h
        obtain ⟨results, hchecked, hkinds, hfields, hresults, hmethods, hreads⟩ := ih hothers
        exact ⟨result :: results, {
          checked := List.forall_mem_cons.2 ⟨hname, hchecked⟩
          kinds := List.forall_mem_cons.2 ⟨Or.inr hkind, hkinds⟩
          fields_forall₂ := by rwa [List.filter_cons_of_neg (by simp [hkind])]
          results_forall₂ := by
            rw [List.filter_cons_of_pos (by simp [hkind])]
            exact .cons hresult hresults
          methods_eq := congrArg (result.1 :: ·) hmethods
          readsInput_eq := congrArg (result.2 || ·) hreads }⟩
    · cases h

/-! ## Classes of units -/

/-- What the class of a unit is made of: fields for its variables, the results for its functions,
    and the methods that are added to the entry function. -/
structure IsClassOf (e : Emitter) (unit : DeclarationUnit) (fields : List JavaField)
    (results : List (JavaMethod × Bool)) (entry : List JavaMethod) (c : JavaClass) : Prop where
  name_eq : c.name = unit.item.name
  fields_eq : c.fields = scannerFields (results.any Prod.snd) ++ fields
  methods_eq : c.methods = results.map Prod.fst ++ entry
  fields_forall₂ : List.Forall₂
    (fun member f => e.field member.1 member.2 (methodModifiers unit.isStatic) = .ok f)
    (unit.membersOfKind .variable) fields
  results_forall₂ : List.Forall₂
    (fun member result => e.method member.1 member.2 unit.isStatic = .ok result)
    (unit.membersOfKind .function) results
  entry_eq : unit.item.kind = .function → e.entryMethods unit = .ok entry
  no_entry : unit.item.kind ≠ .function → entry = []
  checked : unit.item.kind = .classItem →
    ∀ child ∈ unit.item.children, child.checkName (FullName.project unit.fullName) = .ok ()

/-- The class of a unit is made of its members, whichever kind of unit it is. -/
theorem publicClass_eq_ok {unit : DeclarationUnit} {c : JavaClass}
    (h : e.publicClass unit = .ok c) :
    ∃ fields results entry, e.IsClassOf unit fields results entry c := by
  unfold publicClass at h
  split at h
  · next hkind =>
      obtain ⟨members, hmembers, h⟩ := bind_eq_ok.1 h
      cases pure_eq_ok.1 h
      obtain ⟨results, hof⟩ := members_eq_ok hmembers
      have hstatic : unit.isStatic = false := by simp [DeclarationUnit.isStatic, hkind]
      exact ⟨members.fields, results, [], {
        name_eq := rfl
        fields_eq := by rw [← hof.readsInput_eq]
        methods_eq := by rw [List.append_nil, ← hof.methods_eq]
        fields_forall₂ := by
          rw [DeclarationUnit.membersOfKind_class hkind, List.forall₂_map_left_iff, hstatic]
          exact hof.fields_forall₂
        results_forall₂ := by
          rw [DeclarationUnit.membersOfKind_class hkind, List.forall₂_map_left_iff, hstatic]
          exact hof.results_forall₂
        entry_eq := fun hfunction => by simp [hkind] at hfunction
        no_entry := fun _ => rfl
        checked := fun _ => hof.checked }⟩
  · next hkind =>
      obtain ⟨result, hresult, h⟩ := bind_eq_ok.1 h
      obtain ⟨entry, hentry, h⟩ := bind_eq_ok.1 h
      cases pure_eq_ok.1 h
      have hclass : unit.item.kind ≠ .classItem := by simp [hkind]
      have hstatic : unit.isStatic = true := by simp [DeclarationUnit.isStatic, hkind]
      exact ⟨[], [result], entry, {
        name_eq := rfl
        fields_eq := by simp
        methods_eq := rfl
        fields_forall₂ := by
          rw [DeclarationUnit.membersOfKind_other hclass (by simp [hkind])]
          exact .nil
        results_forall₂ := by
          rw [DeclarationUnit.membersOfKind_self hclass hkind, hstatic]
          exact .cons hresult .nil
        entry_eq := fun _ => hentry
        no_entry := fun hfunction => absurd hkind hfunction
        checked := fun hother => absurd hother hclass }⟩
  · next hkind =>
      obtain ⟨field, hfield, h⟩ := bind_eq_ok.1 h
      cases pure_eq_ok.1 h
      have hclass : unit.item.kind ≠ .classItem := by simp [hkind]
      have hstatic : unit.isStatic = true := by simp [DeclarationUnit.isStatic, hkind]
      exact ⟨[field], [], [], {
        name_eq := rfl
        fields_eq := rfl
        methods_eq := rfl
        fields_forall₂ := by
          rw [DeclarationUnit.membersOfKind_self hclass hkind, hstatic]
          exact .cons hfield .nil
        results_forall₂ := by
          rw [DeclarationUnit.membersOfKind_other hclass (by simp [hkind])]
          exact .nil
        entry_eq := fun hfunction => by simp [hkind] at hfunction
        no_entry := fun _ => rfl
        checked := fun hother => absurd hother hclass }⟩
  · cases h

end Emitter

end Flowchart
