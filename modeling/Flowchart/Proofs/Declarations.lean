import Flowchart.Proofs.Policies
import Flowchart.Proofs.Positions

set_option autoImplicit false

/-! # Which declarations have source files

The symbol table holds every item of a project, and generated code may name classes and static
members by their full names. Looking such a name up in the output of a pass that ends with the first
failure finds the source file, unless the symbol lies in a variable or parameter: there it has an
entry in the table, but neither a file nor an error. -/

namespace Flowchart

/-! ## Looking up in the output -/

namespace GeneratedProject.IsLaid

variable {p : GeneratedProject} {root : Item} {includeComments : Bool} {id : Uuid}
  {file : GeneratedFile} {s outer : Symbol}

/-- Looking an exposed symbol up finds the file in the place of its source file. -/
theorem declaration?_eq_some_iff (h : p.IsLaid root includeComments id)
    (hs : root.Exposes s) :
    p.declaration? s.fullName = some file
      ↔ file ∈ p.files ∧ file.path.components = s.sourcePath.components := by
  rw [declaration?, h.places.lookup_eq hs, file?]
  exact find?_key_eq_some_iff h.nodup_files

/-- No file is in the place that what lies in a declaration would have: there would have to be a
    directory with the name of the declaration. -/
theorem path_ne_sourcePath (h : p.IsLaid root includeComments id)
    (houter : root.Exposes outer) (hleaf : outer.item.kind.isNamespace = false)
    (hs : s.LiesIn outer) (hfile : file ∈ p.files) : file.path ≠ s.sourcePath := by
  intro hpath
  have houterspells := (h.places.placed houter).spells
  obtain ⟨directory, name, hlays⟩ := h.exists_lays hfile
  obtain ⟨hdirectory, hinside, hname, hplace⟩ := hlays.place h.places h.kind
  obtain ⟨rest, hrest⟩ := hs.exists_fullName_eq houterspells.ne_empty
  have htext : (directory.fileIn name).text = (Path.ofNames (FullName.segments outer.fullName)).text
      ++ "/" ++ (String.intercalate "/" (FullName.segments rest) ++ ".java") := by
    rw [← hplace, hpath, Symbol.sourcePath, hrest, FullName.segments_append,
      String.intercalate_append_of_ne_nil houterspells.ne_nil (by simp [FullName.segments])]
    simp only [Path.ofNames, String.append_assoc]
  obtain ⟨below, hbelow, hnames⟩ := Path.exists_append_of_text_eq houterspells.ne_nil
    (h.places.forall_isStep houter) (by simp)
    (Path.forall_isStep_append (h.places.forall_isStep hdirectory) hname.isStep) htext
  -- so the declaration would be a namespace around the file
  have hprefix : FullName.segments outer.fullName <+: FullName.segments directory.fullName := by
    have hconcat : FullName.segments outer.fullName
        <+: FullName.segments directory.fullName ++ [name] := ⟨below, hnames.symm⟩
    rcases List.prefix_concat_iff.1 hconcat with heq | hprefix
    · rw [heq, List.self_eq_append_right] at hnames
      exact absurd hnames hbelow
    · exact hprefix
  obtain ⟨namespaceAround, hexposed, hkind, hsegments⟩ :=
    h.places.exists_namespace_of_prefix hdirectory hinside houterspells.ne_nil hprefix
  rw [h.places.segments_injective hexposed houter hsegments, hleaf] at hkind
  cases hkind

end GeneratedProject.IsLaid

/-! ## What a source file declares -/

/-- A source file declares a symbol if it is found by the full name, in the place of the symbol, and
    has a class of its name, with the static member of that name if the symbol is one. -/
structure GeneratedProject.Declares (p : GeneratedProject) (s : Symbol) (java : JavaFile) :
    Prop where
  exists_file : ∃ file, p.declaration? s.fullName = some file ∧ file.path = s.sourcePath
    ∧ file.contents = java.render
  package_eq : java.package = FullName.parent s.fullName
  name_eq : java.publicClass.name = s.item.name
  exists_field : s.item.kind = .«variable» → ∃ field ∈ java.publicClass.fields,
    field.name = s.item.name ∧ .staticMember ∈ field.modifiers
  exists_method : s.item.kind = .function → ∃ method ∈ java.publicClass.methods,
    method.name = s.item.name ∧ .staticMember ∈ method.modifiers

namespace Emitter

variable {e : Emitter} {unit : DeclarationUnit} {c : JavaClass}

/-- The class of a variable has a static field of its name. -/
theorem exists_field_of_publicClass (h : e.publicClass unit = .ok c)
    (hkind : unit.item.kind = .«variable») :
    ∃ field ∈ c.fields, field.name = unit.item.name ∧ .staticMember ∈ field.modifiers := by
  obtain ⟨fields, results, entry, hclass⟩ := publicClass_eq_ok h
  have hmember := DeclarationUnit.mem_self_membersOfKind (by simp [hkind]) hkind
  obtain ⟨field, hfield, hmade⟩ := exists_right_of_forall₂ hclass.fields_forall₂ hmember
  obtain ⟨type, initializer, -, rfl⟩ := field_eq_ok_iff.1 hmade
  rw [hclass.fields_eq]
  exact ⟨_, List.mem_append_right _ hfield, rfl,
    by simp [methodModifiers, DeclarationUnit.isStatic, hkind]⟩

/-- The class of a function has a static method of its name, and the method that calls it if it is
    the entry function. -/
theorem exists_method_of_publicClass (h : e.publicClass unit = .ok c)
    (hkind : unit.item.kind = .function) :
    (∃ method ∈ c.methods, method.name = unit.item.name ∧ .staticMember ∈ method.modifiers)
      ∧ ∀ main, e.options.entryFunction = some unit.fullName →
        EntryPoint.mainMethod unit.item unit.fullName e.options.parameters = .ok main →
        main ∈ c.methods := by
  obtain ⟨fields, results, entry, hclass⟩ := publicClass_eq_ok h
  have hmember := DeclarationUnit.mem_self_membersOfKind (by simp [hkind]) hkind
  rw [hclass.methods_eq]
  constructor
  · obtain ⟨result, hresult, hmethod⟩ := exists_right_of_forall₂ hclass.results_forall₂ hmember
    obtain ⟨signature, body, hof, -⟩ := method_eq_ok hmethod
    refine ⟨result.1, List.mem_append_left _ (List.mem_map_of_mem hresult), hof.name_eq, ?_⟩
    rw [hof.modifiers_eq]
    simp [methodModifiers, DeclarationUnit.isStatic, hkind]
  · intro main hname hmain
    have hentry := hclass.entry_eq hkind
    rw [entryMethods, if_pos hname, hmain] at hentry
    cases pure_eq_ok.1 hentry
    exact List.mem_append_right _ List.mem_cons_self

end Emitter

/-- What a pass has found out about its entry function. -/
theorem SymbolTable.exists_entry {t : SymbolTable} {options : Options} {name : String}
    (h : t.checkEntry options = .ok ()) (hname : options.entryFunction = some name) :
    ∃ s main, t.find? name = some s ∧ s.item.kind = .function ∧ s.isStatic = true
      ∧ EntryPoint.mainMethod s.item name options.parameters = .ok main := by
  simp only [checkEntry, hname] at h
  cases hfind : t.find? name with
  | none => simp [hfind] at h
  | some s =>
    simp only [hfind] at h
    split at h
    · cases h
    · next hkind =>
        split at h
        · cases h
        · next hstatic =>
            obtain ⟨main, hmain, -⟩ := bind_eq_ok.1 h
            exact ⟨s, main, rfl, not_not.1 hkind, by simpa using hstatic, hmain⟩

/-! ## The output of a pass -/

section

variable {root : Item} {options : Options} {p : GeneratedProject} {t : SymbolTable} {s : Symbol}

/-- Every declaration outside of classes and functions has been emitted. -/
theorem GeneratedProject.Accounts.exists_emit {e : Emitter} (h : p.Accounts root e)
    (hskipped : p.skipped = []) (hs : root.Exposes s) (hleaf : s.item.kind.isNamespace = false) :
    ∃ file ∈ p.files, e.emit s.unit = .ok file := by
  have hunit : s ∈ root.units := by
    simpa [Item.units, hleaf] using Item.mem_exposed_iff.2 hs
  have hfailures := h.skipped_eq
  rw [hskipped, eq_comm, List.filterMap_eq_nil_iff] at hfailures
  cases hemit : e.emit s.unit with
  | ok file => exact ⟨file, ((h.mem_sources_iff file).2 ⟨s, hunit, hemit⟩).1, rfl⟩
  | error error =>
    have hnone := hfailures s hunit
    rw [hemit] at hnone
    cases hnone

theorem exists_emit (habort : options.failurePolicy = .abort) (h : compile root options = .ok p)
    (ht : SymbolTable.build root = .ok t) (hs : root.Exposes s)
    (hleaf : s.item.kind.isNamespace = false) :
    ∃ file ∈ p.files, Emitter.emit ⟨t, options⟩ s.unit = .ok file := by
  obtain ⟨hskipped, t', ht', haccounts⟩ := accounts_of_abort habort h
  rw [ht] at ht'
  cases ht'
  exact haccounts.exists_emit hskipped hs hleaf

/-- What is exposed has its source file, made from its public class. -/
theorem exists_declares (habort : options.failurePolicy = .abort) (h : compile root options = .ok p)
    (ht : SymbolTable.build root = .ok t) (hs : root.Exposes s)
    (hleaf : s.item.kind.isNamespace = false) :
    ∃ java, p.Declares s java
      ∧ Emitter.publicClass ⟨t, options⟩ s.unit = .ok java.publicClass := by
  obtain ⟨id, sources, hwritten⟩ := exists_isWritten h (accounts_of_abort habort h).1
  obtain ⟨file, hfile, hemit⟩ := exists_emit habort h ht hs hleaf
  have hsource : IsSource root s file :=
    .of_emit hwritten.places hwritten.kind hs hleaf (mapError_eq_ok.2 hemit)
  have hfound := (hwritten.isLaid.declaration?_eq_some_iff hs).2 ⟨hfile, by rw [hsource.path_eq]⟩
  obtain ⟨publicClass, hclass, hemit⟩ := bind_eq_ok.1 hemit
  have hcontents : file.contents = JavaFile.render { package := s.unit.package, publicClass } := by
    rw [← pure_eq_ok.1 hemit]
  refine ⟨{ package := s.unit.package, publicClass }, ?_, hclass⟩
  exact {
    exists_file := ⟨file, hfound, hsource.path_eq, hcontents⟩
    package_eq := rfl
    name_eq := Emitter.publicClass_name hclass
    exists_field := Emitter.exists_field_of_publicClass hclass
    exists_method := fun hkind => (Emitter.exists_method_of_publicClass hclass hkind).1 }

/-- What lies in a declaration has no source file. -/
theorem exposes_of_declares (h : compile root options = .ok p) (hskipped : p.skipped = [])
    (ht : SymbolTable.build root = .ok t) (hs : s ∈ t.symbols) {java : JavaFile}
    (hdeclares : p.Declares s java) : root.Exposes s := by
  obtain ⟨id, sources, hwritten⟩ := exists_isWritten h hskipped
  rcases (SymbolTable.build_eq_ok_iff.1 ht).exposes_or_liesIn hs with hexposed | hinside
  · exact hexposed
  · obtain ⟨outer, houter, hleaf, hlies⟩ := hinside
    obtain ⟨file, hfound, hpath, -⟩ := hdeclares.exists_file
    have hfile : file ∈ p.files := List.mem_of_find?_eq_some hfound
    exact absurd hpath (hwritten.isLaid.path_ne_sourcePath houter hleaf hlies hfile)

/-- Classes and static members are exposed unless they lie in a variable or parameter. -/
theorem exposes_iff (habort : options.failurePolicy = .abort) (h : compile root options = .ok p)
    (ht : SymbolTable.build root = .ok t) (hs : s ∈ t.symbols)
    (hkind : s.isStatic = true ∨ s.item.kind = .classItem) :
    root.Exposes s ↔ ¬ t.InVariable s := by
  have hlists := SymbolTable.build_eq_ok_iff.1 ht
  constructor
  · rintro hexposed ⟨v, hv, hassignable, hlies⟩
    obtain ⟨-, hnamespace⟩ := hlists.isNamespace_of_liesIn hexposed hv hlies
    rw [ItemKind.isNamespace_of_isAssignable hassignable] at hnamespace
    cases hnamespace
  · intro hvariable
    have hemit : ∀ s, root.Exposes s → s.item.kind.isNamespace = false →
        ∃ file, Emitter.emit ⟨t, options⟩ s.unit = .ok file := by
      intro s hs hleaf
      obtain ⟨file, -, hfile⟩ := exists_emit habort h ht hs hleaf
      exact ⟨file, hfile⟩
    rcases Emitter.exposes_or_looks hlists hemit hs with hexposed | hlooks | hinside
    · exact hexposed
    · obtain ⟨hstatic, hclass⟩ := hlooks.not_static
      rcases hkind with hkind | hkind
      · rw [hstatic] at hkind
        cases hkind
      · exact absurd hkind hclass
    · exact absurd hinside hvariable

theorem isNamespace_of_static (hkind : s.isStatic = true ∨ s.item.kind = .classItem) :
    s.item.kind.isNamespace = false := by
  rcases hkind with hkind | hkind
  · simp only [Symbol.isStatic, Bool.and_eq_true, Bool.or_eq_true, beq_iff_eq] at hkind
    rcases hkind.2 with hvariable | hfunction
    · rw [hvariable]
      rfl
    · rw [hfunction]
      rfl
  · rw [hkind]
    rfl

/-- The entry function of a pass is a static function of its table. -/
theorem exists_entry (h : compile root options = .ok p) (ht : SymbolTable.build root = .ok t)
    {name : String} (hname : options.entryFunction = some name) :
    ∃ s main, t.find? name = some s ∧ s.item.kind = .function ∧ s.isStatic = true
      ∧ EntryPoint.mainMethod s.item name options.parameters = .ok main := by
  simp only [compile, bind_eq_ok] at h
  obtain ⟨t', ht', ⟨⟩, hentry, -⟩ := h
  rw [ht] at ht'
  cases ht'
  exact t.exists_entry hentry hname

/-- After a pass that ends with the first failure, exactly those classes and static members have
    source files that do not lie in a variable or parameter, and so the entry function gets its
    method `main`. -/
theorem compile_declares_iff (habort : options.failurePolicy = .abort)
    (h : compile root options = .ok p) (ht : SymbolTable.build root = .ok t) :
    (∀ s ∈ t.symbols, s.isStatic = true ∨ s.item.kind = .classItem →
      ((∃ java, p.Declares s java) ↔ ¬ t.InVariable s))
    ∧ ∀ name, options.entryFunction = some name →
      ∃ s main, t.find? name = some s ∧ s.item.kind = .function ∧ s.isStatic = true
        ∧ EntryPoint.mainMethod s.item name options.parameters = .ok main
        ∧ ((∃ java, p.Declares s java ∧ main ∈ java.publicClass.methods) ↔ ¬ t.InVariable s) := by
  have hskipped := (accounts_of_abort habort h).1
  constructor
  · intro s hs hkind
    rw [← exposes_iff habort h ht hs hkind]
    constructor
    · rintro ⟨java, hdeclares⟩
      exact exposes_of_declares h hskipped ht hs hdeclares
    · intro hexposed
      obtain ⟨java, hdeclares, -⟩ :=
        exists_declares habort h ht hexposed (isNamespace_of_static hkind)
      exact ⟨java, hdeclares⟩
  · intro name hname
    obtain ⟨s, main, hfind, hkind, hstatic, hmain⟩ := exists_entry h ht hname
    obtain ⟨hs, rfl⟩ := (SymbolTable.build_eq_ok_iff.1 ht).find?_eq_some_iff.1 hfind
    refine ⟨s, main, hfind, hkind, hstatic, hmain, ?_⟩
    rw [← exposes_iff habort h ht hs (Or.inl hstatic)]
    constructor
    · rintro ⟨java, hdeclares, -⟩
      exact exposes_of_declares h hskipped ht hs hdeclares
    · intro hexposed
      obtain ⟨java, hdeclares, hclass⟩ :=
        exists_declares habort h ht hexposed (isNamespace_of_static (Or.inl hstatic))
      exact ⟨java, hdeclares,
        (Emitter.exists_method_of_publicClass hclass hkind).2 main hname hmain⟩

end

/-! ## A function inside a variable -/

/-- A function that does nothing. -/
def nestedRun : Item where
  name := "run"
  kind := .function
  returnType := some "VOID"
  blocks := [
    { id := .ofNat 1, kind := .start, content := none
      connections := { bottom := some [⟨.ofNat 2, .top⟩] } },
    { id := .ofNat 2, kind := .stop, content := none, connections := {} }]

/-- A package with that function in it. -/
def nestedApp : Item where
  name := "app"
  kind := .package
  children := [nestedRun]

/-- A project that has the package in an item of some kind. -/
def nested (kind : ItemKind) : Item where
  name := "Demo"
  kind := .project
  id := some (.ofNat 7)
  children := [{ name := "total", kind, typeName := some "NUMBER", children := [nestedApp] }]

/-- The table of such a project. -/
def nestedTable (kind : ItemKind) : SymbolTable where
  symbols := (nested kind).symbols "" none
  blocks := ((nested kind).symbols "" none).flatMap Symbol.ownedBlocks

/-- The function as the entry function. -/
def nestedOptions : Options where
  entryFunction := some "Demo.total.app.run"

theorem nested_build (kind : ItemKind) :
    SymbolTable.build (nested kind) = .ok (nestedTable kind) := rfl

theorem nested_compiles {kind : ItemKind} (h : kind = .package ∨ kind = .«variable») :
    ∃ p, compile (nested kind) nestedOptions = .ok p := by
  refine exists_eq_ok ?_
  rcases h with rfl | rfl
  · decide +kernel
  · decide +kernel

/-- In a package the entry function gets its method `main`. -/
theorem nested_declares :
    ∃ p s main java, compile (nested .package) nestedOptions = .ok p
      ∧ (nestedTable .package).find? "Demo.total.app.run" = some s
      ∧ p.Declares s java ∧ main ∈ java.publicClass.methods
      ∧ EntryPoint.mainMethod s.item "Demo.total.app.run" nestedOptions.parameters = .ok main := by
  obtain ⟨p, hp⟩ := nested_compiles (Or.inl rfl)
  obtain ⟨-, hentry⟩ := compile_declares_iff rfl hp (nested_build .package)
  obtain ⟨s, main, hfind, -, -, hmain, hiff⟩ := hentry _ rfl
  have hnone : ∀ v ∈ (nestedTable .package).symbols, v.item.kind.isAssignable = false := by
    decide
  have hnot : ¬ (nestedTable .package).InVariable s := by
    rintro ⟨v, hv, hassignable, -⟩
    rw [hnone v hv] at hassignable
    cases hassignable
  obtain ⟨java, hdeclares, hmethod⟩ := hiff.2 hnot
  exact ⟨p, s, main, java, hp, hfind, hdeclares, hmethod, hmain⟩

/-- In a variable the entry function is accepted, but there is no source file for it. -/
theorem nested_not_declares :
    ∃ p s, compile (nested .«variable») nestedOptions = .ok p
      ∧ nestedOptions.failurePolicy = .abort
      ∧ SymbolTable.build (nested .«variable») = .ok (nestedTable .«variable»)
      ∧ (nestedTable .«variable»).find? "Demo.total.app.run" = some s
      ∧ s.isStatic = true ∧ nestedOptions.entryFunction = some s.fullName
      ∧ ¬ ∃ java, p.Declares s java := by
  obtain ⟨p, hp⟩ := nested_compiles (Or.inr rfl)
  let run : Symbol := ⟨nestedRun, "Demo.total.app.run", some .package⟩
  have hbuild := nested_build .«variable»
  have hrun : (nestedTable .«variable»).find? "Demo.total.app.run" = some run := rfl
  have hmem : run ∈ (nestedTable .«variable»).symbols := List.mem_of_find?_eq_some hrun
  have hinside : (nestedTable .«variable»).InVariable run := by
    refine ⟨_, List.mem_cons_of_mem _ List.mem_cons_self, rfl, ?_⟩
    have happ : run.IsChild ⟨nestedApp, "Demo.total.app", some .«variable»⟩ :=
      ⟨List.mem_cons_self, rfl, rfl⟩
    exact .tail (.single happ) ⟨List.mem_cons_self, rfl, rfl⟩
  refine ⟨p, run, hp, rfl, hbuild, hrun, rfl, rfl, ?_⟩
  rintro ⟨java, hdeclares⟩
  have hexposed := exposes_of_declares hp (accounts_of_abort rfl hp).1 hbuild hmem hdeclares
  exact (exposes_iff rfl hp hbuild hmem (Or.inl rfl)).1 hexposed hinside

end Flowchart
