import Flowchart.Proofs.EntryFunctions
import Flowchart.Proofs.Objects
import Mathlib.Data.Fintype.Card
import Mathlib.Data.Set.Finite.Basic

set_option autoImplicit false

/-! # Initial values of objects

What happens when an object of a generated class is created: each of its fields gets the first value
of its type, which for a class is a new object of that class, whose fields get theirs before. So
classes are linked by the types of their fields, and nothing keeps these links from coming back to
where they started. Creating an object comes to an end exactly if no class that its links lead to
lies on such a cycle. -/

namespace Flowchart

open Relation (ReflTransGen TransGen)

/-! ## Running initializers -/

/-- The initial values of the fields of each class, in the order of the fields. -/
abbrev Initializers := String → List JavaExpr

namespace Initializers

variable {f : Initializers}

/-- Creating an object of the first class creates one of the second class. -/
def Links (f : Initializers) (C D : String) : Prop := .new (.class D) [] ∈ f C

/-- How initial values are computed one after the other, with the number of initializers that are
    run: before a new object is a value, the initializers of its class are run. -/
inductive Runs (f : Initializers) : List JavaExpr → Nat → Prop
  | nil : Runs f [] 0
  | value {e : JavaExpr} {rest : List JavaExpr} {behind : Nat}
      (no_object : ∀ type, ¬ e.Creates type) (rest_runs : Runs f rest behind) :
      Runs f (e :: rest) (behind + 1)
  | object {C : String} {rest : List JavaExpr} {inside behind : Nat}
      (object_runs : Runs f (f C) inside) (rest_runs : Runs f rest behind) :
      Runs f (.new (.class C) [] :: rest) (inside + behind + 1)

/-- Creating an object of a class comes to an end. -/
def Finishes (f : Initializers) (C : String) : Prop := ∃ count, Runs f (f C) count

/-- Initial values are simple if they are no objects, or new objects of classes. -/
def Simple (es : List JavaExpr) : Prop :=
  ∀ e ∈ es, (∀ type, ¬ e.Creates type) ∨ ∃ C, e = .new (.class C) []

/-- The initializers of an object are among those that are run. -/
theorem Runs.exists_lt {es : List JavaExpr} {count : Nat} (h : Runs f es count) {C : String}
    (hmem : .new (.class C) [] ∈ es) : ∃ inside < count, Runs f (f C) inside := by
  induction h with
  | nil => cases hmem
  | value no_object _ ih =>
    rcases List.mem_cons.1 hmem with rfl | hmem
    · exact absurd .here (no_object _)
    · obtain ⟨inside, hlt, hruns⟩ := ih hmem
      exact ⟨inside, by omega, hruns⟩
  | object object_runs _ _ ih =>
    rcases List.mem_cons.1 hmem with heq | hmem
    · cases heq
      exact ⟨_, by omega, object_runs⟩
    · obtain ⟨inside, hlt, hruns⟩ := ih hmem
      exact ⟨inside, by omega, hruns⟩

/-- Simple initial values are computed if all their objects can be created. -/
theorem exists_runs {es : List JavaExpr} (hsimple : Simple es)
    (h : ∀ C, .new (.class C) [] ∈ es → f.Finishes C) : ∃ count, Runs f es count := by
  induction es with
  | nil => exact ⟨0, .nil⟩
  | cons e rest ih =>
    obtain ⟨hfirst, hothers⟩ := List.forall_mem_cons.1 hsimple
    obtain ⟨behind, hrest⟩ := ih hothers fun C hmem => h C (List.mem_cons_of_mem _ hmem)
    rcases hfirst with hvalue | ⟨C, rfl⟩
    · exact ⟨_, .value hvalue hrest⟩
    · obtain ⟨inside, hinside⟩ := h C List.mem_cons_self
      exact ⟨_, .object hinside hrest⟩

/-! ## Cycles -/

/-- Along links fewer and fewer initializers are run. -/
theorem Runs.exists_lt_of_transGen {C D : String} (h : TransGen f.Links C D) {count : Nat}
    (hruns : Runs f (f C) count) : ∃ inside < count, Runs f (f D) inside := by
  induction h with
  | single hlink => exact hruns.exists_lt hlink
  | tail _ hlink ih =>
    obtain ⟨middle, hmiddle, hruns⟩ := ih
    obtain ⟨inside, hinside, hruns⟩ := hruns.exists_lt hlink
    exact ⟨inside, hinside.trans hmiddle, hruns⟩

/-- Creating an object of a class on a cycle never comes to an end. -/
theorem Finishes.not_transGen {C : String} (h : f.Finishes C) : ¬ TransGen f.Links C C := by
  intro hcycle
  obtain ⟨count, hruns⟩ := h
  -- every run has a shorter run of the same initializers inside it
  induction count using Nat.strong_induction_on with
  | h count ih =>
    obtain ⟨inside, hlt, hinside⟩ := hruns.exists_lt_of_transGen hcycle
    exact ih inside hlt hinside

theorem Finishes.of_link {C D : String} (h : f.Finishes C) (hlink : f.Links C D) :
    f.Finishes D := by
  obtain ⟨count, hruns⟩ := h
  obtain ⟨inside, -, hinside⟩ := hruns.exists_lt hlink
  exact ⟨inside, hinside⟩

/-- The classes of which objects are created with an object of a class. -/
abbrev Reached (f : Initializers) (C : String) := {D : String // ReflTransGen f.Links C D}

theorem finite_reached {names : List String} (hnames : ∀ C D, f.Links C D → D ∈ names)
    (C : String) : Finite (f.Reached C) := by
  refine Set.Finite.to_subtype ((List.finite_toSet (C :: names)).subset ?_)
  intro D hreach
  rcases ReflTransGen.cases_tail hreach with rfl | ⟨outer, -, hlink⟩
  · exact List.mem_cons_self
  · exact List.mem_cons_of_mem _ (hnames outer D hlink)

/-- If links lead to finitely many classes and to no cycle, they come to an end. -/
theorem wellFounded_reached {C : String} [Finite (f.Reached C)]
    (hacyclic : ∀ D, ReflTransGen f.Links C D → ¬ TransGen f.Links D D) :
    WellFounded fun inner outer : f.Reached C => TransGen f.Links outer.val inner.val := by
  have htrans : IsTrans (f.Reached C) fun inner outer => TransGen f.Links outer.val inner.val :=
    ⟨fun _ _ _ hab hbc => hbc.trans hab⟩
  have hirrefl : Std.Irrefl fun inner outer : f.Reached C =>
      TransGen f.Links outer.val inner.val :=
    ⟨fun D => hacyclic D.val D.property⟩
  exact Finite.wellFounded_of_trans_of_irrefl _

/-- Creating an object comes to an end exactly if its links lead to no cycle. -/
theorem finishes_iff {names : List String} (hsimple : ∀ C, Simple (f C))
    (hnames : ∀ C D, f.Links C D → D ∈ names) {C : String} :
    f.Finishes C ↔ ∀ D, ReflTransGen f.Links C D → ¬ TransGen f.Links D D := by
  constructor
  · intro h D hreach
    refine Finishes.not_transGen ?_
    induction hreach with
    | refl => exact h
    | tail _ hlink ih => exact ih.of_link hlink
  · intro hacyclic
    have hfinite := finite_reached hnames C
    have hall : ∀ D : f.Reached C, f.Finishes D.val := by
      intro D
      induction D using (wellFounded_reached hacyclic).induction with
      | h D ih =>
        refine exists_runs (hsimple D.val) fun inner hlink => ?_
        exact ih ⟨inner, D.property.tail hlink⟩ (.single hlink)
    exact hall ⟨C, .refl⟩

end Initializers

/-! ## Initializers of emitted classes -/

/-- The fields that every object of a class has for itself. -/
def JavaClass.instanceFields (c : JavaClass) : List JavaField :=
  c.fields.filter (.staticMember ∉ ·.modifiers)

theorem JavaType.defaultValue_eq_new_iff {type : JavaType} {C : String} :
    type.defaultValue = .ok (.new (.class C) []) ↔ type = .class C := by
  cases type <;> simp [defaultValue]

namespace Emitter

/-- The class of the unit with a full name, if it can be emitted. -/
def class? (e : Emitter) (root : Item) (fullName : String) : Option JavaClass :=
  (root.units.find? (·.fullName == fullName)).bind fun s => (e.publicClass s.unit).toOption

/-- The initial values of the fields of all emitted classes; other classes have none. -/
def initializers (e : Emitter) (root : Item) : Initializers := fun fullName =>
  ((e.class? root fullName).elim [] JavaClass.instanceFields).map (·.initializer)

variable {e : Emitter} {root : Item} {unit : DeclarationUnit} {c : JavaClass}

theorem class?_eq_some_iff (ht : SymbolTable.build root = .ok e.table) {fullName : String} :
    e.class? root fullName = some c
      ↔ ∃ s ∈ root.units, s.fullName = fullName ∧ e.publicClass s.unit = .ok c := by
  simp only [class?, Option.bind_eq_some_iff, toOption_eq_some,
    find?_key_eq_some_iff (nodup_units ht), and_assoc]

theorem mem_initializers_iff {fullName : String} {initializer : JavaExpr} :
    initializer ∈ e.initializers root fullName
      ↔ ∃ c, e.class? root fullName = some c
        ∧ ∃ field ∈ c.instanceFields, field.initializer = initializer := by
  rw [initializers]
  cases e.class? root fullName with
  | none => simp
  | some c => simp

/-- Objects have fields for the variables of their class item, and those of other units have
    none. -/
theorem mem_instanceFields_iff (h : e.publicClass unit = .ok c) {field : JavaField} :
    field ∈ c.instanceFields ↔ unit.item.kind = .classItem
      ∧ ∃ child ∈ unit.item.children, child.kind = .variable
        ∧ e.field child (FullName.join unit.fullName child.name) [.publicMember] = .ok field := by
  obtain ⟨fields, results, entry, hclass⟩ := publicClass_eq_ok h
  simp only [JavaClass.instanceFields, List.mem_filter, decide_eq_true_eq, hclass.fields_eq,
    List.mem_append]
  constructor
  · rintro ⟨hfield | hfield, hinstance⟩
    · rw [(isScanner_of_mem hfield).modifiers_eq] at hinstance
      simp at hinstance
    · obtain ⟨⟨child, fullName⟩, hmember, hmade⟩ :=
        exists_left_of_forall₂ hclass.fields_forall₂ hfield
      obtain ⟨hkind, ⟨hitem, hchild, hname⟩ | ⟨hitem, -⟩⟩ :=
        DeclarationUnit.mem_membersOfKind_iff.1 hmember
      · have hstatic : unit.isStatic = false := by simp [DeclarationUnit.isStatic, hitem]
        rw [hstatic, hname] at hmade
        exact ⟨hitem, child, hchild, hkind, hmade⟩
      · have hstatic : unit.isStatic = true := by simp [DeclarationUnit.isStatic, hitem]
        obtain ⟨type, initializer, -, rfl⟩ := field_eq_ok_iff.1 hmade
        simp [hstatic, methodModifiers] at hinstance
  · rintro ⟨hitem, child, hchild, hkind, hmade⟩
    have hmember : (child, FullName.join unit.fullName child.name)
        ∈ unit.membersOfKind .variable :=
      DeclarationUnit.mem_membersOfKind_iff.2 ⟨hkind, Or.inl ⟨hitem, hchild, rfl⟩⟩
    have hstatic : unit.isStatic = false := by simp [DeclarationUnit.isStatic, hitem]
    obtain ⟨found, hfound, hsame⟩ := exists_right_of_forall₂ hclass.fields_forall₂ hmember
    rw [hstatic] at hsame
    cases hmade.symm.trans hsame
    obtain ⟨type, initializer, -, rfl⟩ := field_eq_ok_iff.1 hmade
    exact ⟨Or.inr hfound, by simp⟩

/-- A variable of a class item starts with the default value of its declared type. -/
theorem starts_child_iff (ht : e.table.Lists root) {s : Symbol} (hs : s ∈ e.table.symbols)
    {child : Item} (hchild : child ∈ s.item.children) {type : JavaType} {initializer : JavaExpr} :
    e.Starts (FullName.join s.fullName child.name) type initializer
      ↔ (∃ typeName, child.typeName = some typeName ∧ e.table.NamesType typeName type)
        ∧ type.defaultValue = .ok initializer := by
  have hfound := ht.find?_eq_some_iff.2 ⟨ht.exists_child hs hchild, rfl⟩
  have htype : e.typeOf (FullName.join s.fullName child.name) = .ok type
      ↔ ∃ typeName, child.typeName = some typeName ∧ e.table.NamesType typeName type := by
    rw [typeOf_eq_ok_iff]
    simp only [hfound, Option.some_inj, exists_eq_left', SymbolTable.resolveTypeOf,
      ← SymbolTable.resolveType_eq_ok_iff]
    cases child.typeName with
    | none => simp
    | some typeName => simp
  constructor
  · rintro ⟨htypeOf, hdefault⟩
    exact ⟨htype.1 htypeOf, hdefault⟩
  · rintro ⟨hnames, hdefault⟩
    exact ⟨htype.2 hnames, hdefault⟩

/-- What the fields of an object start with: the default values of the declared types of the
    variables of its class item. -/
theorem mem_initializers_iff_variable (ht : SymbolTable.build root = .ok e.table)
    (hemits : ∀ s ∈ root.units, ∃ c, e.publicClass s.unit = .ok c) {fullName : String}
    {initializer : JavaExpr} :
    initializer ∈ e.initializers root fullName
      ↔ ∃ s ∈ root.units, s.fullName = fullName ∧ s.item.kind = .classItem
        ∧ ∃ child ∈ s.item.children, child.kind = .variable
          ∧ ∃ typeName type, child.typeName = some typeName ∧ e.table.NamesType typeName type
            ∧ type.defaultValue = .ok initializer := by
  have hlists := SymbolTable.build_eq_ok_iff.1 ht
  simp only [mem_initializers_iff, class?_eq_some_iff ht]
  constructor
  · rintro ⟨c, ⟨s, hs, hname, hclass⟩, field, hfield, rfl⟩
    obtain ⟨hitem, child, hchild, hkind, hmade⟩ := (mem_instanceFields_iff hclass).1 hfield
    obtain ⟨type, initializer, hstarts, rfl⟩ := field_eq_ok_iff.1 hmade
    obtain ⟨⟨typeName, htypeName, hnames⟩, hdefault⟩ :=
      (starts_child_iff hlists (mem_symbols_of_units hlists hs) hchild).1 hstarts
    exact ⟨s, hs, hname, hitem, child, hchild, hkind, typeName, type, htypeName, hnames, hdefault⟩
  · rintro ⟨s, hs, hname, hitem, child, hchild, hkind, typeName, type, htypeName, hnames, hdefault⟩
    obtain ⟨c, hclass⟩ := hemits s hs
    have hstarts := (starts_child_iff hlists (mem_symbols_of_units hlists hs) hchild).2
      ⟨⟨typeName, htypeName, hnames⟩, hdefault⟩
    exact ⟨c, ⟨s, hs, hname, hclass⟩, _, (mem_instanceFields_iff hclass).2
      ⟨hitem, child, hchild, hkind, field_eq_ok_iff.2 ⟨type, initializer, hstarts, rfl⟩⟩, rfl⟩

section

variable (ht : SymbolTable.build root = .ok e.table)
  (hemits : ∀ s ∈ root.units, ∃ c, e.publicClass s.unit = .ok c)

include ht hemits

/-- Classes are linked by the declared types of the variables of their class items. -/
theorem links_iff {C D : String} :
    (e.initializers root).Links C D
      ↔ ∃ s ∈ root.units, s.fullName = C ∧ s.item.kind = .classItem
        ∧ ∃ child ∈ s.item.children, child.kind = .variable
          ∧ ∃ typeName, child.typeName = some typeName
            ∧ e.table.NamesType typeName (.class D) := by
  rw [Initializers.Links, mem_initializers_iff_variable ht hemits]
  simp only [JavaType.defaultValue_eq_new_iff]
  constructor
  · rintro ⟨s, hs, hname, hitem, child, hchild, hkind, typeName, _, htypeName, hnames, rfl⟩
    exact ⟨s, hs, hname, hitem, child, hchild, hkind, typeName, htypeName, hnames⟩
  · rintro ⟨s, hs, hname, hitem, child, hchild, hkind, typeName, htypeName, hnames⟩
    exact ⟨s, hs, hname, hitem, child, hchild, hkind, typeName, _, htypeName, hnames, rfl⟩

theorem simple_initializers (C : String) : Initializers.Simple (e.initializers root C) := by
  intro initializer hmem
  obtain ⟨s, -, -, -, child, -, -, typeName, type, -, hnames, hdefault⟩ :=
    (mem_initializers_iff_variable ht hemits).1 hmem
  by_cases hclass : ∃ C, type = .class C
  · obtain ⟨C, rfl⟩ := hclass
    cases hdefault
    exact Or.inr ⟨C, rfl⟩
  · exact Or.inl fun created hcreates =>
      hclass ((JavaType.creates_defaultValue_iff hdefault).1 hcreates).2

theorem finishes_iff {C : String} :
    (e.initializers root).Finishes C
      ↔ ∀ D, ReflTransGen (e.initializers root).Links C D
        → ¬ TransGen (e.initializers root).Links D D := by
  have hnames : ∀ C D, (e.initializers root).Links C D →
      D ∈ e.table.symbols.map Symbol.fullName := by
    intro C D hlink
    obtain ⟨s, -, -, -, child, -, -, typeName, -, hnames⟩ := (links_iff ht hemits).1 hlink
    obtain ⟨v, hmem, -, heq⟩ := hnames.isClass
    cases heq
    exact List.mem_map_of_mem hmem
  exact Initializers.finishes_iff (simple_initializers ht hemits) hnames

end

end Emitter

section

variable {root : Item} {options : Options} {p : GeneratedProject} {t : SymbolTable}

/-- Under the first policy all units have been emitted, classes are linked by the types of their
    variables, and creating an object comes to an end exactly if the links of its class lead to no
    cycle. -/
theorem compile_initialization (habort : options.failurePolicy = .abort)
    (h : compile root options = .ok p) (ht : SymbolTable.build root = .ok t) :
    (∀ s ∈ root.units, ∃ c, Emitter.class? ⟨t, options⟩ root s.fullName = some c
      ∧ s.unit.file c ∈ p.files)
    ∧ (∀ C D, (Emitter.initializers ⟨t, options⟩ root).Links C D
      ↔ ∃ s ∈ root.units, s.fullName = C ∧ s.item.kind = .classItem
        ∧ ∃ child ∈ s.item.children, child.kind = .variable
          ∧ ∃ typeName, child.typeName = some typeName ∧ t.NamesType typeName (.class D))
    ∧ ∀ C, (Emitter.initializers ⟨t, options⟩ root).Finishes C
      ↔ ∀ D, ReflTransGen (Emitter.initializers ⟨t, options⟩ root).Links C D
        → ¬ TransGen (Emitter.initializers ⟨t, options⟩ root).Links D D := by
  have hfiles : ∀ s ∈ root.units, ∃ c, Emitter.publicClass ⟨t, options⟩ s.unit = .ok c
      ∧ s.unit.file c ∈ p.files := by
    intro s hs
    obtain ⟨hmem, hleaf⟩ := List.mem_filter.1 hs
    obtain ⟨file, hfile, hemit⟩ :=
      exists_emit habort h ht (Item.mem_exposed_iff.1 hmem) (by simpa using hleaf)
    obtain ⟨c, hclass, rfl⟩ := Emitter.emit_eq_ok_iff.1 hemit
    exact ⟨c, hclass, hfile⟩
  have hemits : ∀ s ∈ root.units, ∃ c, Emitter.publicClass ⟨t, options⟩ s.unit = .ok c :=
    fun s hs => (hfiles s hs).imp fun _ => And.left
  refine ⟨fun s hs => ?_, fun C D => Emitter.links_iff ht hemits,
    fun C => Emitter.finishes_iff ht hemits⟩
  obtain ⟨c, hclass, hfile⟩ := hfiles s hs
  exact ⟨c, (Emitter.class?_eq_some_iff ht).2 ⟨s, hs, rfl, hclass⟩, hfile⟩

end

/-! ## Points of a line -/

/-- A variable of a type. -/
def lineVariable (name typeName : String) : Item where
  name
  kind := .«variable»
  typeName := some typeName

/-- A project with a class for points, and one for lines between two of them. -/
def line : Item where
  name := "Demo"
  kind := .project
  id := some (.ofNat 7)
  children := [
    { name := "Point", kind := .classItem, children := [lineVariable "x" "NUMBER"] },
    { name := "Line", kind := .classItem
      children := [lineVariable "source" "Demo.Point", lineVariable "target" "Demo.Point"] }]

/-- The table of the project. -/
def lineTable : SymbolTable where
  symbols := line.symbols "" none
  blocks := (line.symbols "" none).flatMap Symbol.ownedBlocks

theorem line_build : SymbolTable.build line = .ok lineTable := rfl

/-- The units of the classes. -/
def lineUnits : List Symbol :=
  [⟨line.children[0], "Demo.Point", some .project⟩, ⟨line.children[1], "Demo.Line", some .project⟩]

theorem line_units : line.units = lineUnits := by with_unfolding_all rfl

/-- The variables of lines are points, and those of points are no objects. -/
theorem line_links {s : Symbol} (hs : s ∈ line.units) {child : Item}
    (hchild : child ∈ s.item.children) {typeName D : String}
    (htypeName : child.typeName = some typeName)
    (hnames : lineTable.NamesType typeName (.class D)) :
    s.fullName = "Demo.Line" ∧ D = "Demo.Point" := by
  have hresolved := SymbolTable.resolveType_eq_ok_iff.2 hnames
  rw [line_units] at hs
  rcases List.mem_cons.1 hs with rfl | hs
  · cases List.mem_singleton.1 hchild
    cases htypeName
    cases hresolved
  · cases List.mem_singleton.1 hs
    have hpoint : lineTable.resolveType "Demo.Point" = .ok (.class "Demo.Point") := rfl
    have htype : typeName = "Demo.Point" := by
      rcases List.mem_cons.1 hchild with rfl | hchild
      · exact (Option.some.inj htypeName).symm
      · cases List.mem_singleton.1 hchild
        exact (Option.some.inj htypeName).symm
    rw [htype, hpoint] at hresolved
    cases hresolved
    exact ⟨rfl, rfl⟩

/-- Creating a line creates its points, which create nothing. -/
theorem line_finishes :
    ∃ p, compile line {} = .ok p
      ∧ (Emitter.initializers ⟨lineTable, {}⟩ line).Links "Demo.Line" "Demo.Point"
      ∧ (Emitter.initializers ⟨lineTable, {}⟩ line).Finishes "Demo.Line" := by
  have hcompiles : ∃ p, compile line {} = .ok p := exists_eq_ok (by decide +kernel)
  obtain ⟨p, hp⟩ := hcompiles
  obtain ⟨-, hlinks, hfinishes⟩ := compile_initialization rfl hp line_build
  have hends : ∀ {C D}, (Emitter.initializers ⟨lineTable, {}⟩ line).Links C D →
      C = "Demo.Line" ∧ D = "Demo.Point" := by
    intro C D hlink
    obtain ⟨s, hs, rfl, -, child, hchild, -, typeName, htypeName, hnames⟩ := (hlinks C D).1 hlink
    exact line_links hs hchild htypeName hnames
  refine ⟨p, hp, (hlinks _ _).2 ?_, (hfinishes _).2 fun D _ hcycle => ?_⟩
  · rw [line_units]
    exact ⟨_, List.mem_cons_of_mem _ List.mem_cons_self, rfl, rfl, _, List.mem_cons_self, rfl,
      "Demo.Point", rfl, SymbolTable.resolveType_eq_ok_iff.1 rfl⟩
  · -- a cycle would have to leave a line and come back to a point
    obtain ⟨next, hfirst, -⟩ := TransGen.head'_iff.1 hcycle
    obtain ⟨before, -, hlast⟩ := TransGen.tail'_iff.1 hcycle
    have hsame := (hends hfirst).1.symm.trans (hends hlast).2
    revert hsame
    decide

/-! ## A class inside itself -/

/-- A project with a class that has a variable of its own type. -/
def loop : Item where
  name := "Demo"
  kind := .project
  id := some (.ofNat 7)
  children := [
    { name := "Node", kind := .classItem, children := [lineVariable "next" "Demo.Node"] }]

/-- The table of the project. -/
def loopTable : SymbolTable where
  symbols := loop.symbols "" none
  blocks := (loop.symbols "" none).flatMap Symbol.ownedBlocks

/-- The project is compiled, and creating an object of its class never comes to an end. -/
theorem loop_not_finishes :
    ∃ p, compile loop {} = .ok p ∧ ({} : Options).failurePolicy = .abort
      ∧ SymbolTable.build loop = .ok loopTable
      ∧ TransGen (Emitter.initializers ⟨loopTable, {}⟩ loop).Links "Demo.Node" "Demo.Node"
      ∧ ¬ (Emitter.initializers ⟨loopTable, {}⟩ loop).Finishes "Demo.Node" := by
  have hcompiles : ∃ p, compile loop {} = .ok p := exists_eq_ok (by decide +kernel)
  obtain ⟨p, hp⟩ := hcompiles
  have hinitializers : Emitter.initializers ⟨loopTable, {}⟩ loop "Demo.Node"
      = [.new (.class "Demo.Node") []] := by with_unfolding_all rfl
  have hcycle : TransGen (Emitter.initializers ⟨loopTable, {}⟩ loop).Links "Demo.Node"
      "Demo.Node" := by
    refine .single ?_
    rw [Initializers.Links, hinitializers]
    exact List.mem_singleton_self _
  exact ⟨p, hp, rfl, rfl, hcycle, fun hfinishes => hfinishes.not_transGen hcycle⟩

end Flowchart
