import Flowchart.Proofs.Creations
import Flowchart.Proofs.EntryPoints
import Flowchart.Proofs.Scanners

set_option autoImplicit false

/-! # Objects that classes create

The types that emitted classes create objects of. Fields and locals start with objects of classes,
the method `main` creates nothing, and methods create what the statements of their functions do. So
a class creates objects of classes only exactly if no literal that is compiled for it names a basic
type. -/

namespace Flowchart

open JavaExpr (creates_iff_parts)

/-! ## What classes create -/

/-- Somewhere in a class an object of a type is created: in a method, or as the first value of a
    field that is not the scanner. -/
def JavaClass.Creates (c : JavaClass) (type : JavaType) : Prop :=
  (∃ field ∈ c.fields, ¬ field.IsScanner ∧ field.initializer.Creates type)
    ∨ ∃ m ∈ c.methods, JavaStmt.Creates type m.body

namespace EntryPoint

/-- Supplied values are no objects. -/
theorem not_creates_of_arguments {supplied : Bindings} {parameters : List Item}
    {es : List JavaExpr} (h : arguments supplied parameters = .ok es) {a : JavaExpr} (ha : a ∈ es)
    {type : JavaType} : ¬ a.Creates type := by
  induction parameters generalizing es with
  | nil =>
    cases h
    cases ha
  | cons parameter rest ih =>
    obtain ⟨first, hfirst, h⟩ := bind_eq_ok.1 h
    obtain ⟨others, hothers, h⟩ := bind_eq_ok.1 h
    cases pure_eq_ok.1 h
    rcases List.mem_cons.1 ha with rfl | ha
    · cases argument_eq_ok_iff.1 hfirst <;> exact JavaExpr.not_creates_of_parts rfl nofun
    · exact ih hothers ha

end EntryPoint

namespace Emitter

variable {e : Emitter} {unit : DeclarationUnit} {type : JavaType}

/-- The method `main` creates nothing. -/
theorem not_creates_entry {entry : List JavaMethod} (h : e.entryMethods unit = .ok entry)
    {m : JavaMethod} (hm : m ∈ entry) : ¬ JavaStmt.Creates type m.body := by
  rw [entryMethods] at h
  split at h
  · obtain ⟨main, hmain, h⟩ := bind_eq_ok.1 h
    cases pure_eq_ok.1 h
    obtain ⟨-, -, es, hes, hbody⟩ := EntryPoint.mainMethod_eq_ok hmain
    rw [List.mem_singleton.1 hm, hbody, JavaStmt.creates_cons_iff rfl]
    have harguments : ∀ a ∈ es, ¬ a.Creates type :=
      fun a ha => EntryPoint.not_creates_of_arguments hes ha
    simpa [JavaStmt.exprs, JavaStmt.not_creates_nil, creates_iff_parts, JavaExpr.parts]
      using harguments
  · cases h
    cases hm

/-- What a variable starts with creates objects of classes only. -/
theorem Starts.isClass {fullName : String} {initializer : JavaExpr}
    (h : e.Starts fullName type initializer) {created : JavaType}
    (hcreates : initializer.Creates created) : e.table.IsClass created := by
  obtain ⟨htype, hdefault⟩ := h
  obtain ⟨v, -, hresolved⟩ := typeOf_eq_ok_iff.1 htype
  unfold SymbolTable.resolveTypeOf at hresolved
  split at hresolved
  · obtain ⟨_, hsame, hclass⟩ :=
      (SymbolTable.resolveType_eq_ok_iff.1 hresolved).default_creates
    cases hdefault.symm.trans hsame
    exact hclass created hcreates
  · cases hresolved

/-- A method creates what the statements of its function do, and objects of classes. -/
theorem IsMethodOf.creates_isClass_iff {root : Item} (ht : e.table.Lists root) {function : Item}
    {fullName : String} {isStatic : Bool} {signature : Signature} {body : Body} {m : JavaMethod}
    (h : e.IsMethodOf function fullName isStatic signature body m) :
    (∀ type, JavaStmt.Creates type m.body → e.table.IsClass type)
      ↔ ∀ s, e.table.Compiles fullName s → e.table.AvoidsBasicObjects s := by
  have hlocals : ∀ s ∈ signature.locals, ∃ child type initializer,
      e.Starts (FullName.join fullName child.name) type initializer
        ∧ s = .localVariable type (child : Item).name initializer := by
    intro s hs
    obtain ⟨child, -, type, initializer, hstarts, rfl⟩ :=
      exists_left_of_forall₂ h.signature_isOf.locals_forall₂ hs
    exact ⟨child, type, initializer, hstarts, rfl⟩
  have hplain : ∀ s ∈ signature.locals, s.isPlain = true := by
    intro s hs
    obtain ⟨child, type, initializer, -, rfl⟩ := hlocals s hs
    rfl
  simp only [h.body_eq, JavaStmt.creates_append_iff hplain,
    SymbolTable.functionBody_creates_iff ht h.functionBody_eq,
    ← SymbolTable.forall_instantiates_isClass_iff]
  constructor
  · exact fun hall s hcompiles type hobject => hall type (Or.inr ⟨s, hcompiles, hobject⟩)
  · rintro hall type (⟨s, hs, a, ha, hcreates⟩ | ⟨s, hcompiles, hobject⟩)
    · obtain ⟨child, type, initializer, hstarts, rfl⟩ := hlocals s hs
      cases List.mem_singleton.1 ha
      exact hstarts.isClass hcreates
    · exact hall s hcompiles type hobject

/-- A class creates objects of classes only exactly if no literal that is compiled for one of its
    methods names a basic type. -/
theorem publicClass_creates_isClass_iff {root : Item} (ht : e.table.Lists root) {c : JavaClass}
    (h : e.publicClass unit = .ok c) :
    (∀ type, c.Creates type → e.table.IsClass type)
      ↔ ∀ function ∈ unit.membersOfKind .function, ∀ s, e.table.Compiles function.2 s →
        e.table.AvoidsBasicObjects s := by
  obtain ⟨fields, results, entry, hclass⟩ := publicClass_eq_ok h
  constructor
  · intro hall function hfunction
    obtain ⟨result, hresult, hmethod⟩ := exists_right_of_forall₂ hclass.results_forall₂ hfunction
    obtain ⟨signature, body, hof, -⟩ := method_eq_ok hmethod
    refine (hof.creates_isClass_iff ht).1 fun type hcreates => hall type (Or.inr ⟨result.1, ?_⟩)
    rw [hclass.methods_eq]
    exact ⟨List.mem_append_left _ (List.mem_map_of_mem hresult), hcreates⟩
  · rintro hall type (⟨field, hfield, hscanner, hcreates⟩ | ⟨m, hm, hcreates⟩)
    · rw [hclass.fields_eq, List.mem_append] at hfield
      rcases hfield with hfield | hfield
      · exact absurd (isScanner_of_mem hfield) hscanner
      · obtain ⟨member, -, hmade⟩ := exists_left_of_forall₂ hclass.fields_forall₂ hfield
        obtain ⟨_, initializer, hstarts, rfl⟩ := field_eq_ok_iff.1 hmade
        exact hstarts.isClass hcreates
    · rw [hclass.methods_eq, List.mem_append] at hm
      rcases hm with hm | hm
      · obtain ⟨result, hresult, rfl⟩ := List.mem_map.1 hm
        obtain ⟨function, hfunction, hmethod⟩ :=
          exists_left_of_forall₂ hclass.results_forall₂ hresult
        obtain ⟨signature, body, hof, -⟩ := method_eq_ok hmethod
        exact (hof.creates_isClass_iff ht).2 (hall function hfunction) type hcreates
      · by_cases hkind : unit.item.kind = .function
        · exact absurd hcreates (not_creates_entry (hclass.entry_eq hkind) hm)
        · rw [hclass.no_entry hkind] at hm
          cases hm

/-- Compiled statements create objects of classes only exactly if no literal in them names a basic
    type, first values always do, and the class of a unit does if the statements of its methods
    do. -/
theorem emit_creates (t : SymbolTable) :
    (∀ (s : Statement) (expr : JavaExpr), t.lower s = .ok expr →
      ((∀ type, expr.Creates type → t.IsClass type) ↔ t.AvoidsBasicObjects s))
    ∧ (∀ (typeName : String) (type : JavaType), t.resolveType typeName = .ok type →
      ∃ initializer, type.defaultValue = .ok initializer
        ∧ ∀ created, initializer.Creates created → t.IsClass created)
    ∧ ∀ (root : Item) (options : Options), SymbolTable.build root = .ok t →
      ∀ (unit : DeclarationUnit) (file : GeneratedFile), emit ⟨t, options⟩ unit = .ok file →
        ∃ c, publicClass ⟨t, options⟩ unit = .ok c ∧ file = unit.file c
          ∧ ((∀ type, c.Creates type → t.IsClass type)
            ↔ ∀ function ∈ unit.membersOfKind .function, ∀ s, t.Compiles function.2 s →
              t.AvoidsBasicObjects s) := by
  refine ⟨?_, ?_, ?_⟩
  · intro s expr hlower
    simp only [SymbolTable.creates_lower_iff hlower]
    exact SymbolTable.forall_instantiates_isClass_iff
  · intro typeName type htype
    exact (SymbolTable.resolveType_eq_ok_iff.1 htype).default_creates
  · intro root options ht unit file hfile
    obtain ⟨c, hc, rfl⟩ := emit_eq_ok_iff.1 hfile
    exact ⟨c, hc, rfl, publicClass_creates_isClass_iff (SymbolTable.build_eq_ok_iff.1 ht) hc⟩

end Emitter

/-! ## Objects of basic types -/

/-- A literal may name a basic type, and an object of no class is created. -/
theorem lower_number_object :
    ∃ t, SymbolTable.build { name := "Demo", kind := .project } = .ok t
      ∧ ∃ e, t.lower (.object "NUMBER") = .ok e ∧ e.Creates .double ∧ ¬ t.IsClass .double := by
  refine ⟨_, rfl, .new .double [], rfl, .here, ?_⟩
  rintro ⟨s, -, -, htype⟩
  cases htype

/-! ## An object that is returned -/

/-- A function that returns a new point. -/
def originFunction : Item where
  name := "origin"
  kind := .function
  returnType := some "Demo.Point"
  blocks := [
    { id := .ofNat 1, kind := .start, content := none
      connections := { bottom := some [⟨.ofNat 2, .top⟩] } },
    { id := .ofNat 2, kind := .stop, content := some ⟨some (.object "Demo.Point"), none⟩
      connections := {} }]

/-- A project with the function and the class of points. -/
def origin : Item where
  name := "Demo"
  kind := .project
  children := [
    { name := "Point", kind := .classItem
      children := [{ name := "x", kind := .«variable», typeName := some "NUMBER" }] },
    originFunction]

/-- The table of the project. -/
def originTable : SymbolTable where
  symbols := origin.symbols "" none
  blocks := (origin.symbols "" none).flatMap Symbol.ownedBlocks

/-- The unit of the function. -/
def originUnit : DeclarationUnit where
  item := originFunction
  fullName := "Demo.origin"
  package := "Demo"
  directory := ⟨"Demo"⟩

/-- The class that the unit becomes. -/
def originClass : JavaClass where
  doc := []
  name := "origin"
  fields := []
  methods := [⟨[], [.publicMember, .staticMember], .class "Demo.Point", "origin", [],
    [.return (some (.new (.class "Demo.Point") []))]⟩]

theorem origin_build : SymbolTable.build origin = .ok originTable := rfl

theorem origin_publicClass :
    Emitter.publicClass ⟨originTable, {}⟩ originUnit = .ok originClass := by
  with_unfolding_all rfl

theorem origin_creates_point : originClass.Creates (.class "Demo.Point") :=
  Or.inr ⟨_, List.mem_singleton_self _, JavaStmt.creates_return_iff.2
    ⟨_, List.mem_singleton_self _, .here⟩⟩

theorem origin_avoids : originTable.AvoidsBasicObjects (.object "Demo.Point") := by
  intro object hvisits kind typeName hvalue
  cases hvisits with
  | self =>
    cases hvalue
    decide
  | operand kind => cases kind
  | argument kind => cases kind

theorem origin_compiles {s : Statement} (h : originTable.Compiles "Demo.origin" s) :
    s = .object "Demo.Point" := by
  obtain ⟨g, hg, start, ⟨b, hb⟩, -, -, -, -, hs⟩ := h
  obtain ⟨-, hfound, -, -⟩ := FlowGraph.ofFunction_eq_ok_iff.1 hg
  have hfunction : g.function = ⟨originFunction, "Demo.origin", some .project⟩ :=
    Option.some.inj (hfound.symm.trans (by with_unfolding_all rfl))
  rw [FlowGraph.blocks, hfunction] at hb
  rcases List.mem_cons.1 hb with rfl | hb
  · cases hs
  · cases List.mem_singleton.1 hb
    cases hs
    rfl

/-- The class creates a point, and nothing but objects of classes. -/
theorem origin_creates :
    originClass.Creates (.class "Demo.Point")
      ∧ (∀ type, originClass.Creates type → originTable.IsClass type)
      ∧ (∀ type, (JavaExpr.new (.class "Demo.Point") []).Creates type → originTable.IsClass type)
      ∧ ∃ initializer, JavaType.defaultValue (.class "Demo.Point") = .ok initializer
        ∧ ∀ created, initializer.Creates created → originTable.IsClass created := by
  have hemits : ∃ file, Emitter.emit ⟨originTable, {}⟩ originUnit = .ok file :=
    exists_eq_ok (by decide +kernel)
  obtain ⟨file, hfile⟩ := hemits
  obtain ⟨hlower, hdefault, hemit⟩ := Emitter.emit_creates originTable
  obtain ⟨c, hclass, -, hcreates⟩ := hemit origin {} origin_build originUnit file hfile
  cases origin_publicClass.symm.trans hclass
  refine ⟨origin_creates_point, hcreates.2 ?_, ?_, hdefault "Demo.Point" _ rfl⟩
  · intro function hfunction s hcompiles
    cases List.mem_singleton.1 hfunction
    rw [origin_compiles hcompiles]
    exact origin_avoids
  · exact (hlower (.object "Demo.Point") _ rfl).2 origin_avoids

end Flowchart
