import Flowchart.Proofs.Rewriting

set_option autoImplicit false

/-! # Comments in the output

Comments become documentation and files of their own, and nothing else. A pass that leaves them out
ends like a pass over the tree without comments, and passes over trees that differ in comments alone
end in the same way, with sources that differ in documentation alone. -/

namespace Flowchart

/-! ## Code without documentation -/

/-- A field without its documentation. -/
def JavaField.withoutDoc (field : JavaField) : JavaField := { field with doc := [] }

/-- A method without its documentation. -/
def JavaMethod.withoutDoc (method : JavaMethod) : JavaMethod := { method with doc := [] }

/-- A class without documentation of itself and of its members. -/
def JavaClass.withoutDocs (c : JavaClass) : JavaClass where
  doc := []
  name := c.name
  fields := c.fields.map JavaField.withoutDoc
  methods := c.methods.map JavaMethod.withoutDoc

namespace Emitter

variable (e : Emitter)

/-- The emitter that leaves out all comments. -/
def silent : Emitter := { e with options := { e.options with includeComments := false } }

theorem typeOf_silent (fullName : String) : e.silent.typeOf fullName = e.typeOf fullName := rfl

theorem field_silent (item : Item) (fullName : String) (modifiers : List JavaModifier) :
    e.silent.field item fullName modifiers
      = (e.field item fullName modifiers).map JavaField.withoutDoc := by
  rw [field, field, typeOf_silent, map_bind_eq]
  refine bind_congr fun type => ?_
  rw [map_bind_eq]
  exact bind_congr fun _ => rfl

theorem signature_silent (fullName : String) (items : List Item) :
    e.silent.signature fullName items
      = (e.signature fullName items).map fun signature =>
        { signature with parameterDocs := [] } := by
  induction items with
  | nil => rfl
  | cons child rest ih =>
    rw [signature, signature, ih, map_bind_eq]
    refine bind_congr fun _ => ?_
    cases child.kind with
    | parameter =>
      simp only [typeOf_silent, bind_map_eq, map_bind_eq]
      exact bind_congr fun type => bind_congr fun _ => rfl
    | «variable» =>
      simp only [typeOf_silent, bind_map_eq, map_bind_eq]
      exact bind_congr fun type => bind_congr fun initializer => bind_congr fun _ => rfl
    | project | package | classItem | function => rfl

theorem method_silent (function : Item) (fullName : String) (isStatic : Bool) :
    e.silent.method function fullName isStatic
      = (e.method function fullName isStatic).map fun found => (found.1.withoutDoc, found.2) := by
  have htable : e.silent.table = e.table := rfl
  rw [method, method, signature_silent, htable]
  cases function.returnType with
  | none => rfl
  | some typeName =>
    simp only [bind_map_eq, map_bind_eq]
    exact bind_congr fun returnType => bind_congr fun signature => bind_congr fun _ => rfl

/-- Members without their documentation. -/
def Members.withoutDocs (members : Members) : Members :=
  { members with
    fields := members.fields.map JavaField.withoutDoc
    methods := members.methods.map JavaMethod.withoutDoc }

theorem members_silent (fullName : String) (items : List Item) :
    e.silent.members fullName items = (e.members fullName items).map Members.withoutDocs := by
  induction items with
  | nil => rfl
  | cons child rest ih =>
    rw [members, members, ih, map_bind_eq]
    refine bind_congr fun _ => ?_
    cases child.kind with
    | «variable» =>
      simp only [field_silent, bind_map_eq, map_bind_eq]
      exact bind_congr fun field => bind_congr fun _ => rfl
    | function =>
      simp only [method_silent, bind_map_eq, map_bind_eq]
      exact bind_congr fun method => bind_congr fun _ => rfl
    | project | package | classItem | parameter => rfl

/-- The scanner is not documented. -/
theorem scannerFields_withoutDoc (readsInput : Bool) :
    (scannerFields readsInput).map JavaField.withoutDoc = scannerFields readsInput := by
  cases readsInput with
  | true => rfl
  | false => rfl

/-- The method `main` is not documented. -/
theorem entryMethods_silent (unit : DeclarationUnit) :
    e.silent.entryMethods unit = (e.entryMethods unit).map (List.map JavaMethod.withoutDoc) := by
  have hsame : e.silent.entryMethods unit = e.entryMethods unit := rfl
  rw [hsame, entryMethods]
  split
  · cases hmain : EntryPoint.mainMethod unit.item unit.fullName e.options.parameters with
    | error error => rfl
    | ok main =>
      obtain ⟨⟨⟩, -, hmain⟩ := bind_eq_ok.1 hmain
      obtain ⟨arguments, -, hmain⟩ := bind_eq_ok.1 hmain
      cases pure_eq_ok.1 hmain
      rfl
  · rfl

/-- Without comments the same classes are emitted, but for their documentation. -/
theorem publicClass_silent (unit : DeclarationUnit) :
    e.silent.publicClass unit = (e.publicClass unit).map JavaClass.withoutDocs := by
  rw [publicClass, publicClass]
  cases unit.item.kind with
  | classItem =>
    simp only [classOf, members_silent, bind_map_eq, map_bind_eq]
    refine bind_congr fun members => ?_
    simp only [Except.map, pure, Except.pure, JavaClass.withoutDocs, List.map_append,
      scannerFields_withoutDoc]
    rfl
  | function =>
    simp only [functionClass, method_silent, entryMethods_silent, bind_map_eq, map_bind_eq]
    refine bind_congr fun method => bind_congr fun entry => ?_
    simp only [Except.map, pure, Except.pure, JavaClass.withoutDocs, List.map_cons,
      scannerFields_withoutDoc]
  | «variable» =>
    simp only [variableClass, field_silent, bind_map_eq, map_bind_eq]
    exact bind_congr fun field => rfl
  | project | package | parameter => rfl

end Emitter

/-! ## Outputs that differ in documentation -/

/-- The source file of a unit with a public class. -/
def DeclarationUnit.file (unit : DeclarationUnit) (publicClass : JavaClass) : GeneratedFile where
  path := unit.directory.child (unit.item.name ++ ".java")
  contents := JavaFile.render { package := unit.package, publicClass }

theorem Emitter.emit_eq_map (e : Emitter) (unit : DeclarationUnit) :
    e.emit unit = (e.publicClass unit).map unit.file := by
  rw [emit]
  cases e.publicClass unit with
  | error error => rfl
  | ok c => rfl

theorem Emitter.emit_eq_ok_iff {e : Emitter} {unit : DeclarationUnit} {file : GeneratedFile} :
    e.emit unit = .ok file ↔ ∃ c, e.publicClass unit = .ok c ∧ file = unit.file c := by
  rw [emit_eq_map]
  cases e.publicClass unit with
  | error error => simp [Except.map]
  | ok c => simp [Except.map, eq_comm]

/-- Two files with the same path: the same marker, or source files of units of the same name and
    package, rendered from classes that are the same without documentation. -/
inductive SameCode (root other : Item) (e e' : Emitter) : GeneratedFile → GeneratedFile → Prop
  | marker {id : Uuid} :
      SameCode root other e e' (Layout.marker root id) (Layout.marker root id)
  | source {s s' : Symbol} {c c' : JavaClass} (mem : s ∈ root.units) (mem' : s' ∈ other.units)
      (fullName_eq : s'.fullName = s.fullName) (package_eq : s'.unit.package = s.unit.package)
      (publicClass_eq : e.publicClass s.unit = .ok c)
      (publicClass_eq' : e'.publicClass s'.unit = .ok c')
      (path_eq : (s'.unit.file c').path = (s.unit.file c).path)
      (withoutDocs_eq : c'.withoutDocs = c.withoutDocs) :
      SameCode root other e e' (s.unit.file c) (s'.unit.file c')

theorem SameCode.path_eq {root other : Item} {e e' : Emitter} {file file' : GeneratedFile}
    (h : SameCode root other e e' file file') : file'.path = file.path := by
  cases h with
  | marker => rfl
  | source mem mem' fullName_eq package_eq publicClass_eq publicClass_eq' path_eq => exact path_eq

/-- A file with the comments of a project or package. -/
def GeneratedFile.isComments (file : GeneratedFile) : Bool :=
  file.path.fileName? = some Layout.commentsFile

/-- Two outputs that are the same but for the files with comments and the documentation in source
    files. -/
structure GeneratedProject.SameButDocs (root other : Item) (e e' : Emitter)
    (p p' : GeneratedProject) : Prop where
  name_eq : p'.name = p.name
  directories_eq : p'.directories = p.directories
  skipped_eq : p'.skipped = p.skipped
  files : List.Forall₂ (SameCode root other e e') (p.files.filter (!·.isComments))
    (p'.files.filter (!·.isComments))

/-! ## Files without those of comments -/

section

variable {root : Item} {options : Options} {t : SymbolTable}
  {planned : Layout × List (Except CompileError GeneratedFile)}

/-- Besides the comments, a pass writes the marker and the source files. -/
theorem Item.Plans.filter_isComments (h : root.Plans options t planned) {id : Uuid}
    (hid : root.id = some id) :
    (planned.1.files ++ planned.2.filterMap Except.toOption).filter (!·.isComments)
      = Layout.marker root id :: planned.2.filterMap Except.toOption := by
  obtain ⟨hroot, hkind⟩ := h.places
  obtain ⟨-, id', hid', hlayout, -⟩ := Layout.ofProject_eq_ok h.layout_eq
  rw [hid'] at hid
  cases hid
  have hname : ∀ {file outer name}, root.Lays options.includeComments id file outer name →
      file.isComments = decide (name = Layout.commentsFile) := by
    intro file outer name hlays
    rw [GeneratedFile.isComments, hlays.fileName?_eq hroot hkind]
    simp
  have hmarker : (Layout.marker root id).isComments = false := by
    have hlays : root.Lays options.includeComments id (Layout.marker root id) _ _ := .marker
    rw [hname hlays]
    decide
  have hcomments : (Layout.ofSymbols options.includeComments (root.exposed "" none)).files.filter
      (!·.isComments) = [] := by
    rw [List.filter_eq_nil_iff]
    intro file hfile
    obtain ⟨hincluded, s, hs, hinside, hwritten, rfl⟩ := (mem_comments_iff hroot).1 hfile
    have hlays : root.Lays options.includeComments id _ s Layout.commentsFile :=
      .comments hs hinside hincluded hwritten
    simp [hname hlays]
  have hsources : (planned.2.filterMap Except.toOption).filter (!·.isComments)
      = planned.2.filterMap Except.toOption := by
    rw [List.filter_eq_self]
    intro file hfile
    obtain ⟨outer, name, hlays⟩ := h.exists_lays id hfile
    have hsuffix : ¬ ".java".toList <:+ Layout.commentsFile.toList := by decide
    simp [hname hlays, append_java_ne hsuffix]
  rw [hlayout, List.filter_append, List.filter_cons, hmarker, hcomments, hsources]
  rfl

/-- The files of a pass without those of comments, in their order. -/
theorem Item.Plans.filter_sortFiles (h : root.Plans options t planned) {id : Uuid}
    (hid : root.id = some id) :
    (sortFiles (planned.1.files ++ planned.2.filterMap Except.toOption)).filter (!·.isComments)
      = sortFiles (Layout.marker root id :: planned.2.filterMap Except.toOption) := by
  rw [← h.filter_isComments hid]
  exact filter_mergeSort GeneratedFile.path _ h.nodup_files

end

/-! ## Passes with and without comments -/

section

variable {root other : Item} {options : Options} {t t' : SymbolTable}

/-- Trees that differ in comments alone correspond, if no comments are compared. -/
theorem corresponds_of_withoutComments_eq (h : other.withoutComments = root.withoutComments) :
    root.Corresponds False id (fun _ _ => True) other := by
  induction root using Item.induction generalizing other with
  | h root ih =>
    rw [Item.withoutComments, Item.rewrite_eq, Item.rewrite_eq] at h
    obtain ⟨hname, hkind, hid, -, hchildren, htype, hreturn, hblocks⟩ := Item.mk.inj h
    have hpairs : List.Forall₂ (fun child child' => child'.withoutComments = child.withoutComments)
        root.children other.children := by
      have heq : List.Forall₂ Eq (other.children.map Item.withoutComments)
          (root.children.map Item.withoutComments) := List.forall₂_eq_eq_eq ▸ hchildren
      rw [List.forall₂_map_left_iff, List.forall₂_map_right_iff] at heq
      exact heq.flip
    have hinside := ((List.forall₂_and_left _ _).2 ⟨fun _ hchild => hchild, hpairs⟩).imp
      fun child child' ⟨hchild, hsame⟩ => ih child hchild hsame
    refine .mk ⟨hname, hkind, hid, htype, hreturn, trivial, Or.inl ?_⟩ hinside (Or.inl rfl)
    rw [map_rename_id, hblocks]

/-- Units of trees that differ in comments alone become source files with the same code, or fail in
    the same way. -/
theorem follows_sameCode (h : root.Corresponds False id (fun _ _ => True) other)
    (ht : t.Lists root) (ht' : t'.Lists other) {s s' : Symbol} (hs : s ∈ root.units)
    (hs' : s' ∈ other.units)
    (hcounterparts : Emitter.Counterparts False id (fun _ _ => True) ⟨t, options⟩ ⟨t', options⟩
      s s') :
    Follows True id (SameCode root other ⟨t, options⟩ ⟨t', options⟩)
      (Emitter.emitUnit ⟨t, options⟩ s.unit) (Emitter.emitUnit ⟨t', options⟩ s'.unit) := by
  -- without comments the units have the same class
  have hmirrors : Emitter.Mirrors True id (fun _ _ => True) (Emitter.silent ⟨t, options⟩)
      (Emitter.silent ⟨t', options⟩) :=
    h.mirrors Function.injective_id ht ht' ⟨⟨rfl, rfl⟩, fun _ => rfl⟩
  obtain ⟨⟨hmem, hmem', hcorresponds⟩, hpackage, hdirectory⟩ := hcounterparts.unit
  have hclasses := (hmirrors.follows_publicClass ⟨hmem, hmem', hcorresponds⟩).eq_of_id
    fun _ _ heq => heq
  rw [Emitter.publicClass_silent, Emitter.publicClass_silent] at hclasses
  have hname : s'.unit.item.name = s.unit.item.name := hcorresponds.item.head.name_eq
  have hfull : s'.unit.fullName = s.unit.fullName := hcorresponds.fullName_eq
  rw [Emitter.emitUnit, Emitter.emitUnit, hfull, Emitter.emit_eq_map, Emitter.emit_eq_map]
  refine Follows.mapError (fun _ => rfl) ((Follows.of_map_eq hclasses).remember.map ?_)
  rintro c c' ⟨hcode, hc, hc'⟩
  have hpath : (s'.unit.file c').path = (s.unit.file c).path := by
    rw [DeclarationUnit.file, DeclarationUnit.file, hname, hdirectory]
  exact .source hs hs' hfull hpackage hc hc' hpath hcode.symm

/-- Passes over trees that differ in comments alone fail with the same error, or have outputs that
    differ in documentation alone. -/
theorem follows_compile_comments (options : Options)
    (h : root.Corresponds False id (fun _ _ => True) other) :
    Follows True id
      (fun p p' => ∃ t t', SymbolTable.build root = .ok t ∧ SymbolTable.build other = .ok t'
        ∧ p.SameButDocs root other ⟨t, options⟩ ⟨t', options⟩ p')
      (compile root options) (compile other options) := by
  rw [compile_eq, compile_eq]
  refine (h.follows_plannedUnits Function.injective_id (fun _ => not_false) ⟨rfl, rfl⟩).bind ?_
  rintro planned planned' ⟨t, t', hplans, hplans'⟩
  have hresults : List.Forall₂ (Follows True id (SameCode root other ⟨t, options⟩ ⟨t', options⟩))
      planned.2 planned'.2 := by
    rw [hplans.results_eq, hplans'.results_eq]
    exact ((h.units_paired hplans.lists hplans'.lists).map fun s hs s' hs' hcounterparts =>
      follows_sameCode h hplans.lists hplans'.lists hs hs' hcounterparts).forall₂ not_false
  refine (follows_collectUnits options.failurePolicy hresults).remember.map ?_
  rintro collected collected' ⟨⟨hfiles, hskipped⟩, hcollected, hcollected'⟩
  obtain ⟨rfl, -⟩ := collectUnits_eq_ok_iff.1 hcollected
  obtain ⟨rfl, -⟩ := collectUnits_eq_ok_iff.1 hcollected'
  obtain ⟨-, id, hid, -, -⟩ := Layout.ofProject_eq_ok hplans.layout_eq
  have hid' : other.id = some id := h.head.id_eq.trans hid
  refine ⟨t, t', SymbolTable.build_eq_ok_iff.2 hplans.lists,
    SymbolTable.build_eq_ok_iff.2 hplans'.lists, h.head.name_eq, ?_, ?_, ?_⟩
  · have hdirectories := (h.directories_reordered hplans.layout_eq hplans'.layout_eq).eq not_false
    exact congrArg sortDirectories hdirectories.symm
  · exact hskipped.trans (CompileError.map_renameBlocks_id _)
  · show List.Forall₂ _ (List.filter _ (sortFiles _)) (List.filter _ (sortFiles _))
    rw [hplans.filter_sortFiles hid, hplans'.filter_sortFiles hid', h.head.marker_eq]
    exact forall₂_sortFiles (.cons .marker hfiles) fun _ _ hsame => hsame.path_eq

/-- A tree without comments corresponds to the tree, if comments are compared with none. -/
theorem corresponds_withoutComments (root : Item) :
    root.Corresponds False id (fun _ comments => comments = "") root.withoutComments :=
  Item.corresponds_rewrite (C := fun _ comments => comments = "")
    (fun blocks => (map_rename_id blocks).symm) (fun _ => rfl) root

/-- Comments that are left out are the same as none. -/
theorem compile_withoutComments (root : Item) (options : Options) :
    compile root { options with includeComments := false }
      = compile root.withoutComments { options with includeComments := true } := by
  have hoptions : Options.SameChoices (fun _ comments => comments = "")
      { options with includeComments := false } { options with includeComments := true } :=
    ⟨⟨rfl, rfl⟩, fun hempty => hempty⟩
  have hfollows := (corresponds_withoutComments root).follows_compile Function.injective_id
    hoptions rfl
  refine hfollows.eq_of_id fun p p' heq => ?_
  rw [heq, CompileError.map_renameBlocks_id]

/-- A pass that leaves comments out ends like a pass over the tree without comments. If trees differ
    in comments alone, then passes over them fail with the same error, or have outputs that differ
    in the files with comments and in documentation alone. -/
theorem compile_comments (root : Item) (options : Options) :
    compile root { options with includeComments := false }
        = compile root.withoutComments { options with includeComments := true }
      ∧ ∀ other : Item, other.withoutComments = root.withoutComments →
        (∃ error, compile root options = .error error ∧ compile other options = .error error)
        ∨ ∃ p p' t t', compile root options = .ok p ∧ compile other options = .ok p'
          ∧ SymbolTable.build root = .ok t ∧ SymbolTable.build other = .ok t'
          ∧ p.SameButDocs root other ⟨t, options⟩ ⟨t', options⟩ p' := by
  refine ⟨compile_withoutComments root options, fun other hother => ?_⟩
  have hfollows := follows_compile_comments options (corresponds_of_withoutComments_eq hother)
  cases hcompile : compile root options with
  | error error =>
    have herror := hfollows.eq_error trivial hcompile
    rw [CompileError.renameBlocks_id] at herror
    exact Or.inl ⟨error, rfl, herror⟩
  | ok p =>
    obtain ⟨p', hp', t, t', ht, ht', hsame⟩ := hfollows.exists_ok hcompile
    exact Or.inr ⟨p, p', t, t', rfl, hp', ht, ht', hsame⟩

end

/-! ## A project with more comments -/

/-- The project with something added to the comments of every item, also of those without any. -/
def checkedShelf : Item :=
  shelf.rewrite (fun blocks => blocks) fun comments => comments ++ "Checked."

theorem checkedShelf_sameButDocs :
    ∃ p p' t t', compile shelf {} = .ok p ∧ compile checkedShelf {} = .ok p'
      ∧ SymbolTable.build shelf = .ok t ∧ SymbolTable.build checkedShelf = .ok t'
      ∧ p.SameButDocs shelf checkedShelf ⟨t, {}⟩ ⟨t', {}⟩ p' := by
  have hcompiles : ∃ p, compile shelf {} = .ok p := exists_eq_ok (by decide +kernel)
  obtain ⟨p, hp⟩ := hcompiles
  rcases (compile_comments shelf {}).2 checkedShelf rfl with ⟨error, herror, -⟩ | hsame
  · rw [hp] at herror
    cases herror
  · exact hsame

end Flowchart
