import Flowchart.Proofs.Members
import Flowchart.Proofs.Places

set_option autoImplicit false

/-! # The output as an image of the tree

A pass that leaves nothing out writes exactly what the exposed symbols of the tree stand for: a
directory for the project and each package, a source file for each declaration, a marker and the
comments. -/

namespace Flowchart

/-! ## Texts of source files -/

namespace Java.Line

theorem renderAll_cons (line : Line) (rest : List Line) :
    renderAll (line :: rest) = line.render ++ renderAll rest := by
  simp [renderAll]

theorem renderAll_append (first second : List Line) :
    renderAll (first ++ second) = renderAll first ++ renderAll second := by
  simp [renderAll]

end Java.Line

/-- A class starts with its documentation and its name. -/
theorem JavaClass.exists_lines_eq (c : JavaClass) :
    ∃ members, c.lines
      = Java.docLines 0 c.doc ++ ⟨0, "public class " ++ c.name ++ " \x7b"⟩ :: members := by
  refine ⟨c.fields.flatMap (JavaField.lines 1) ++ methodLines (!c.fields.isEmpty) c.methods
    ++ [⟨0, "\x7d"⟩], ?_⟩
  simp only [lines, List.append_assoc, List.cons_append]

/-- The text of a file declares its package first and then its class, with nothing in between but
    the documentation of the class. -/
theorem JavaFile.exists_render_eq (f : JavaFile) :
    ∃ members, f.render = "package " ++ f.package ++ ";\n\n"
      ++ Java.Line.renderAll (Java.docLines 0 f.publicClass.doc)
      ++ "public class " ++ f.publicClass.name ++ " \x7b\n" ++ members := by
  obtain ⟨members, hlines⟩ := f.publicClass.exists_lines_eq
  refine ⟨Java.Line.renderAll members, ?_⟩
  rw [render, hlines]
  simp only [Java.Line.renderAll_cons, Java.Line.renderAll_append, Java.Line.render,
    String.append_assoc]
  rfl

/-! ## Units -/

namespace Emitter

variable {e : Emitter} {unit : DeclarationUnit}

/-- The public class of a unit is called like its item. -/
theorem publicClass_name {c : JavaClass} (h : e.publicClass unit = .ok c) :
    c.name = unit.item.name := by
  obtain ⟨fields, results, entry, hclass⟩ := publicClass_eq_ok h
  exact hclass.name_eq

/-- A unit becomes a file below its directory that declares its package and a class of its name. -/
theorem emit_eq_ok {file : GeneratedFile} (h : e.emit unit = .ok file) :
    file.path = unit.directory.child (unit.item.name ++ ".java")
      ∧ ∃ java : JavaFile, java.package = unit.package ∧ java.publicClass.name = unit.item.name
        ∧ file.contents = java.render := by
  obtain ⟨publicClass, hclass, h⟩ := bind_eq_ok.1 h
  rw [← pure_eq_ok.1 h]
  exact ⟨rfl, { package := unit.package, publicClass }, rfl, publicClass_name hclass, rfl⟩

end Emitter

/-- If nothing was left out, every unit became a file. -/
theorem collectUnits_eq_ok {policy : FailurePolicy}
    {results : List (Except CompileError GeneratedFile)} {files : List GeneratedFile}
    (h : collectUnits policy results = .ok (files, [])) : results = files.map .ok := by
  induction results generalizing files with
  | nil =>
    cases h
    rfl
  | cons result rest ih =>
    cases result with
    | ok file =>
      obtain ⟨⟨others, skipped⟩, hrest, h⟩ := bind_eq_ok.1 h
      cases pure_eq_ok.1 h
      rw [List.map_cons, ih hrest]
    | error error =>
      cases policy with
      | abort => cases h
      | skipDeclaration =>
        obtain ⟨⟨others, skipped⟩, -, h⟩ := bind_eq_ok.1 h
        cases pure_eq_ok.1 h

/-! ## The image -/

/-- Classes, functions and variables. -/
def ItemKind.isDeclaration : ItemKind → Bool
  | .classItem | .function | .variable => true
  | .project | .package | .parameter => false

/-- Outside of namespaces only declarations are exposed. -/
theorem Item.HasPlaces.isDeclaration_iff {root : Item} (hroot : root.HasPlaces) {s : Symbol}
    (hs : root.Exposes s) :
    s.item.kind.isDeclaration = true ↔ s.item.kind.isNamespace = false := by
  have hparameter := (hroot.placed hs).not_parameter
  cases hkind : s.item.kind with
  | parameter => exact absurd hkind hparameter
  | project | package | classItem | function | «variable» =>
    simp [ItemKind.isDeclaration, ItemKind.isNamespace]

/-- The source file of a declaration: in its place, with the package it is declared in and a public
    class of its name. -/
structure IsSource (root : Item) (s : Symbol) (file : GeneratedFile) : Prop where
  path_eq : file.path = s.sourcePath
  contents_eq : ∃ (outer : Symbol) (java : JavaFile), root.Exposes outer ∧ s.IsChild outer
    ∧ java.package = outer.fullName ∧ java.publicClass.name = s.item.name
    ∧ file.contents = java.render
  text_eq : ∃ (outer : Symbol) (doc : List String) (members : String),
    root.Exposes outer ∧ s.IsChild outer
    ∧ file.contents = "package " ++ outer.fullName ++ ";\n\n"
      ++ Java.Line.renderAll (Java.docLines 0 doc)
      ++ "public class " ++ s.item.name ++ " \x7b\n" ++ members

/-- The output of a pass is the image of a tree. -/
structure GeneratedProject.IsImage (p : GeneratedProject) (root : Item) (includeComments : Bool) :
    Prop where
  /-- Every declaration outside of classes and functions has its source file. -/
  exists_source : ∀ s, root.Exposes s → s.item.kind.isDeclaration = true →
    ∃ file ∈ p.files, IsSource root s file
  /-- Every source file is that of a declaration. -/
  exists_declaration : ∀ file ∈ p.files, ∀ name, file.path.fileName? = some (name ++ ".java") →
    ∃ s, root.Exposes s ∧ s.item.kind.isDeclaration = true ∧ IsSource root s file
  /-- No two declarations share a source file. -/
  sourcePath_injective : ∀ s s', root.Exposes s → root.Exposes s' →
    s.item.kind.isDeclaration = true → s'.item.kind.isDeclaration = true →
    s.sourcePath = s'.sourcePath → s = s'
  /-- There is one marker, in the directory of the project. -/
  marker_iff : ∃ id, root.id = some id ∧ ∀ file,
    (file ∈ p.files ∧ file.path.fileName? = some "id.txt")
      ↔ file = ⟨⟨root.name ++ "/id.txt"⟩, id.text ++ "\n"⟩
  /-- The comments of the project and its packages are written unless they are blank. -/
  comments_iff : ∀ file, (file ∈ p.files ∧ file.path.fileName? = some "comments.html")
    ↔ includeComments = true ∧ ∃ s, root.Exposes s ∧ s.item.kind.isNamespace = true
      ∧ Text.isAllBlank s.item.comments = false
      ∧ file = ⟨⟨String.intercalate "/" (FullName.segments s.fullName) ++ "/comments.html"⟩,
          s.item.comments⟩
  /-- There are no other files. -/
  fileName_cases : ∀ file ∈ p.files, file.path.fileName? = some "id.txt"
    ∨ file.path.fileName? = some "comments.html"
    ∨ ∃ name, file.path.fileName? = some (name ++ ".java")
  /-- The directories are those of the project and its packages. -/
  mem_directories_iff : ∀ directory, directory ∈ p.directories
    ↔ ∃ s, root.Exposes s ∧ s.item.kind.isNamespace = true
      ∧ directory = ⟨String.intercalate "/" (FullName.segments s.fullName)⟩
  files_increasing : p.files.Pairwise fun a b => a.path.Before b.path
  directories_increasing : p.directories.Pairwise Path.Before
  /-- No file is on the way to a directory or to another file. -/
  not_below_file : ∀ file ∈ p.files,
    (∀ other ∈ p.files, file.path.components <+: other.path.components → file = other)
      ∧ ∀ directory ∈ p.directories, ¬ file.path.components <+: directory.components
  /-- Every file lies in one of the directories. -/
  parent_mem : ∀ file ∈ p.files, ∃ directory ∈ p.directories, file.path.parent? = some directory
  /-- Everything lies in the directory of the project. -/
  below_project : ∀ path ∈ p.files.map (·.path) ++ p.directories,
    [PathComponent.normal root.name] <+: path.components

/-! ## The parts of a pass -/

section

variable {root : Item} {options : Options} {p : GeneratedProject} {includeComments : Bool}

theorem Item.HasPlaces.of_lists {t : SymbolTable} (ht : t.Lists root)
    (hplaced : ∀ s ∈ root.exposed "" none, s.IsPlaced) : root.HasPlaces where
  placed h := hplaced _ (Item.mem_exposed_iff.2 h)
  unique h h' := ht.symbol_unique (ht.mem_of_exposes h) (ht.mem_of_exposes h')

theorem nodup_exposed {t : SymbolTable} (ht : t.Lists root) : (root.exposed "" none).Nodup := by
  have hsymbols : t.symbols.Nodup := .of_map _ ht.names_nodup
  rw [ht.symbols_eq] at hsymbols
  exact Item.exposed_sublist_symbols.nodup hsymbols

/-- The units of a pass become the source files of their symbols. -/
theorem IsSource.of_emit {e : Emitter} {s : Symbol} {file : GeneratedFile} (hroot : root.HasPlaces)
    (hkind : root.kind.isNamespace = true) (hs : root.Exposes s)
    (hleaf : s.item.kind.isNamespace = false) (h : e.emitUnit s.unit = .ok file) :
    IsSource root s file := by
  obtain ⟨hpath, java, hpackage, hclass, hcontents⟩ := Emitter.emit_eq_ok (mapError_eq_ok.1 h)
  obtain ⟨outer, houter, -, hchild⟩ := Item.HasPlaces.exists_outer hkind hs hleaf
  have hparent : java.package = outer.fullName := by
    rw [hpackage, ← hroot.parent_eq houter hs hchild]
    rfl
  obtain ⟨members, htext⟩ := java.exists_render_eq
  rw [hparent, show java.publicClass.name = s.item.name from hclass] at htext
  exact {
    path_eq := by
      rw [hroot.sourcePath_eq houter hs hchild, ← hroot.unit_path_eq houter hs hchild]
      exact hpath
    contents_eq := ⟨outer, java, houter, hchild, hparent, hclass, hcontents⟩
    text_eq := ⟨outer, java.publicClass.doc, members, houter, hchild, hcontents.trans htext⟩ }

/-- What is written for a tree: the directories of the exposed namespaces, the marker, their
    comments, and one source file for each other exposed symbol, in the order of the tree before
    they are sorted. -/
structure GeneratedProject.IsWritten (p : GeneratedProject) (root : Item) (includeComments : Bool)
    (id : Uuid) (sources : List GeneratedFile) : Prop where
  kind : root.kind.isNamespace = true
  places : root.HasPlaces
  nodup : (root.exposed "" none).Nodup
  id_eq : root.id = some id
  directories_eq : p.directories
    = sortDirectories (Layout.ofSymbols includeComments (root.exposed "" none)).directories
  files_eq : p.files = sortFiles (Layout.marker root id ::
    (Layout.ofSymbols includeComments (root.exposed "" none)).files ++ sources)
  sources_eq : List.Forall₂ (fun s file => root.Exposes s ∧ s.item.kind.isNamespace = false
    ∧ IsSource root s file) ((root.exposed "" none).filter (!·.item.kind.isNamespace)) sources

/-- A pass that leaves nothing out writes all of it. -/
theorem exists_isWritten (h : compile root options = .ok p) (hskipped : p.skipped = []) :
    ∃ id sources, p.IsWritten root options.includeComments id sources := by
  simp only [compile, bind_eq_ok] at h
  obtain ⟨t, ht, ⟨⟩, -, layout, hlayout, ⟨files, skipped⟩, hfiles, h⟩ := h
  cases pure_eq_ok.1 h
  cases hskipped
  have hlists := SymbolTable.build_eq_ok_iff.1 ht
  obtain ⟨hkind, id, hid, rfl, hplaced⟩ := Layout.ofProject_eq_ok hlayout
  have hroot := Item.HasPlaces.of_lists hlists hplaced
  have hnamespace : root.kind.isNamespace = true := by rw [hkind]; rfl
  -- the units are the leaves in order, so each leaf has the file at its place in the list
  have hcollect : List.Forall₂ (· = ·) _ _ := List.forall₂_eq_eq_eq ▸ collectUnits_eq_ok hfiles
  rw [List.forall₂_map_left_iff, List.forall₂_map_right_iff, Layout.ofSymbols,
    List.forall₂_map_left_iff] at hcollect
  have hleaves : ∀ s ∈ (root.exposed "" none).filter (!·.item.kind.isNamespace),
      root.Exposes s ∧ s.item.kind.isNamespace = false := by
    intro s hs
    simpa [Item.mem_exposed_iff] using List.mem_filter.1 hs
  refine ⟨id, files, hnamespace, hroot, nodup_exposed hlists, hid, rfl, rfl, ?_⟩
  refine ((List.forall₂_and_left _ _).2 ⟨hleaves, hcollect⟩).imp fun s file h => ?_
  obtain ⟨⟨hs, hleaf⟩, hemit⟩ := h
  exact ⟨hs, hleaf, .of_emit hroot hnamespace hs hleaf hemit⟩

/-! ## Where the files lie -/

/-- A file of the output, with the symbol in whose directory it lies and its name there. -/
inductive Item.Lays (root : Item) (includeComments : Bool) (id : Uuid) :
    GeneratedFile → Symbol → String → Prop
  | marker : Lays root includeComments id (Layout.marker root id) ⟨root, root.name, none⟩
      Layout.markerFile
  | comments {s : Symbol} (exposed : root.Exposes s) (inside : s.item.kind.isNamespace = true)
      (included : includeComments = true) (written : Text.isAllBlank s.item.comments = false) :
      Lays root includeComments id ⟨s.fileIn Layout.commentsFile, s.item.comments⟩ s
        Layout.commentsFile
  | source {s outer : Symbol} {file : GeneratedFile} (exposed : root.Exposes s)
      (leaf : s.item.kind.isNamespace = false) (around : root.Exposes outer)
      (inside : outer.item.kind.isNamespace = true) (isChild : s.IsChild outer)
      (isSource : IsSource root s file) :
      Lays root includeComments id file outer (s.item.name ++ ".java")

variable {id : Uuid} {file : GeneratedFile} {outer s : Symbol} {name : String}

theorem marker_path_eq (hroot : root.HasPlaces) :
    (Layout.marker root id).path = (⟨root, root.name, none⟩ : Symbol).fileIn Layout.markerFile := by
  have hspells := FullName.Spells.singleton (hroot.placed .root).isIdentifier
  rw [Symbol.fileIn, hspells.segments_eq]
  rfl

/-- Every file lies in the directory of an exposed namespace, under a name with a dot in it. -/
theorem Item.Lays.place (hroot : root.HasPlaces) (hkind : root.kind.isNamespace = true)
    (h : root.Lays includeComments id file outer name) :
    root.Exposes outer ∧ outer.item.kind.isNamespace = true ∧ IsDotted name
      ∧ file.path = outer.fileIn name := by
  cases h with
  | marker => exact ⟨.root, hkind, isDotted_markerFile, marker_path_eq hroot⟩
  | comments exposed inside => exact ⟨exposed, inside, isDotted_commentsFile, rfl⟩
  | source exposed leaf around inside isChild isSource =>
    refine ⟨around, inside, isDotted_java (hroot.placed exposed).isIdentifier, ?_⟩
    rw [isSource.path_eq, hroot.sourcePath_eq around exposed isChild]

theorem Item.Lays.fileName?_eq (hroot : root.HasPlaces) (hkind : root.kind.isNamespace = true)
    (h : root.Lays includeComments id file outer name) : file.path.fileName? = some name := by
  obtain ⟨houter, -, hname, hpath⟩ := h.place hroot hkind
  rw [hpath, hroot.fileName?_fileIn houter hname]

theorem mem_ofComments_iff (hroot : root.HasPlaces) (hs : root.Exposes s) :
    file ∈ (Layout.ofComments s.item s.directory includeComments).files
      ↔ includeComments = true ∧ Text.isAllBlank s.item.comments = false
        ∧ file = ⟨s.fileIn Layout.commentsFile, s.item.comments⟩ := by
  rw [Layout.ofComments, ← hroot.directory_child hs isDotted_commentsFile]
  cases includeComments with
  | false => simp
  | true =>
    cases Text.isAllBlank s.item.comments with
    | true => simp
    | false => simp

/-- The comments that are laid out. -/
theorem mem_comments_iff (hroot : root.HasPlaces) :
    file ∈ (Layout.ofSymbols includeComments (root.exposed "" none)).files
      ↔ includeComments = true ∧ ∃ s, root.Exposes s ∧ s.item.kind.isNamespace = true
        ∧ Text.isAllBlank s.item.comments = false
        ∧ file = ⟨s.fileIn Layout.commentsFile, s.item.comments⟩ := by
  simp only [Layout.ofSymbols, List.mem_flatMap, List.mem_filter, Item.mem_exposed_iff]
  constructor
  · rintro ⟨s, ⟨hs, hinside⟩, hfile⟩
    obtain ⟨hincluded, hwritten, rfl⟩ := (mem_ofComments_iff hroot hs).1 hfile
    exact ⟨hincluded, s, hs, hinside, hwritten, rfl⟩
  · rintro ⟨hincluded, s, hs, hinside, hwritten, rfl⟩
    exact ⟨s, ⟨hs, hinside⟩, (mem_ofComments_iff hroot hs).2 ⟨hincluded, hwritten, rfl⟩⟩

/-! ## Different places -/

/-- Files of different names, or in the directories of different symbols, have different paths. -/
theorem Item.Lays.components_ne (hroot : root.HasPlaces) (hkind : root.kind.isNamespace = true)
    {other : GeneratedFile} {outer' : Symbol} {name' : String}
    (hfile : root.Lays includeComments id file outer name)
    (hother : root.Lays includeComments id other outer' name')
    (hne : outer = outer' → name ≠ name') :
    file.path.components ≠ other.path.components := by
  obtain ⟨houter, -, hname, hpath⟩ := hfile.place hroot hkind
  obtain ⟨houter', -, hname', hpath'⟩ := hother.place hroot hkind
  rw [hpath, hpath']
  intro heq
  obtain ⟨hsymbols, hnames⟩ := hroot.fileIn_injective houter houter' hname hname' heq
  exact hne hsymbols hnames

/-- The source files of two symbols have different paths. -/
theorem Item.HasPlaces.source_components_ne (hroot : root.HasPlaces)
    (hkind : root.kind.isNamespace = true) {s s' : Symbol} (hne : s ≠ s') (hs : root.Exposes s)
    (hs' : root.Exposes s') (hleaf : s.item.kind.isNamespace = false)
    (hleaf' : s'.item.kind.isNamespace = false) :
    s.sourcePath.components ≠ s'.sourcePath.components := by
  obtain ⟨outer, houter, -, hchild⟩ := exists_outer hkind hs hleaf
  obtain ⟨outer', houter', -, hchild'⟩ := exists_outer hkind hs' hleaf'
  rw [hroot.sourcePath_eq houter hs hchild, hroot.sourcePath_eq houter' hs' hchild']
  intro heq
  obtain ⟨rfl, hnames⟩ := hroot.fileIn_injective houter houter'
    (isDotted_java (hroot.placed hs).isIdentifier)
    (isDotted_java (hroot.placed hs').isIdentifier) heq
  -- the same file in the same directory is the same full name
  refine hne (hroot.segments_injective hs hs' ?_)
  rw [hroot.segments_child houter hs hchild, hroot.segments_child houter hs' hchild',
    (String.append_left_inj _).1 hnames]

/-- No two namespaces have their comments in the same file. -/
theorem pairwise_comments (hroot : root.HasPlaces) (hnodup : (root.exposed "" none).Nodup) :
    (Layout.ofSymbols includeComments (root.exposed "" none)).files.Pairwise
      fun a b => a.path.components ≠ b.path.components := by
  rw [Layout.ofSymbols, List.pairwise_flatMap]
  refine ⟨?_, (hnodup.filter _).imp_of_mem ?_⟩
  · intro s _
    rw [Layout.ofComments]
    split
    · exact List.pairwise_singleton _ _
    · exact List.Pairwise.nil
  · intro s s' hs hs' hne file hfile other hother heq
    have hexposed := Item.mem_exposed_iff.1 (List.mem_filter.1 hs).1
    have hexposed' := Item.mem_exposed_iff.1 (List.mem_filter.1 hs').1
    obtain ⟨-, -, rfl⟩ := (mem_ofComments_iff hroot hexposed).1 hfile
    obtain ⟨-, -, rfl⟩ := (mem_ofComments_iff hroot hexposed').1 hother
    exact hne (hroot.fileIn_injective hexposed hexposed' isDotted_commentsFile
      isDotted_commentsFile heq).1

/-- The marker, the comments, and source files with different paths all have different paths. -/
theorem nodup_laid (hroot : root.HasPlaces) (hkind : root.kind.isNamespace = true)
    (hnodup : (root.exposed "" none).Nodup) {sources : List GeneratedFile}
    (hsources : sources.Pairwise fun a b => a.path.components ≠ b.path.components)
    (hlays : ∀ file ∈ sources, ∃ outer name,
      root.Lays includeComments id file outer (name ++ ".java")) :
    ((Layout.marker root id :: (Layout.ofSymbols includeComments (root.exposed "" none)).files
      ++ sources).map (·.path.components)).Nodup := by
  rw [List.Nodup, List.pairwise_map, List.pairwise_append, List.pairwise_cons]
  -- files of different sorts have different names
  refine ⟨⟨?_, pairwise_comments hroot hnodup⟩, hsources, ?_⟩
  · intro file hfile
    obtain ⟨hincluded, s, hs, hinside, hwritten, rfl⟩ := (mem_comments_iff hroot).1 hfile
    have hlays : root.Lays includeComments id _ s Layout.commentsFile :=
      .comments hs hinside hincluded hwritten
    exact Item.Lays.marker.components_ne hroot hkind hlays fun _ => by decide
  · intro file hfile other hother
    obtain ⟨outer, name, hlays⟩ := hlays other hother
    rcases List.mem_cons.1 hfile with rfl | hfile
    · exact Item.Lays.marker.components_ne hroot hkind hlays fun _ =>
        (append_java_ne (by decide)).symm
    · obtain ⟨hincluded, s, hs, hinside, hwritten, rfl⟩ := (mem_comments_iff hroot).1 hfile
      exact (Item.Lays.comments hs hinside hincluded hwritten).components_ne hroot hkind hlays
        fun _ => (append_java_ne (by decide)).symm

/-- The directories that are laid out. -/
theorem Layout.mem_directories_iff {directory : Path} :
    directory ∈ (Layout.ofSymbols includeComments (root.exposed "" none)).directories
      ↔ ∃ s, root.Exposes s ∧ s.item.kind.isNamespace = true ∧ directory = s.directory := by
  simp only [Layout.ofSymbols, List.mem_map, List.mem_filter, Item.mem_exposed_iff, and_assoc,
    eq_comm]

theorem nodup_directories (hroot : root.HasPlaces) (hnodup : (root.exposed "" none).Nodup) :
    ((Layout.ofSymbols includeComments (root.exposed "" none)).directories.map
      Path.components).Nodup := by
  rw [Layout.ofSymbols, List.Nodup, List.pairwise_map, List.pairwise_map]
  refine (hnodup.filter _).imp_of_mem fun {s s'} hs hs' hne => ?_
  have hexposed := Item.mem_exposed_iff.1 (List.mem_filter.1 hs).1
  have hexposed' := Item.mem_exposed_iff.1 (List.mem_filter.1 hs').1
  rw [hroot.components_directory hexposed, hroot.components_directory hexposed']
  intro heq
  have hsegments := (List.map_injective_iff.2 Item.HasPlaces.normal_injective) heq
  exact hne (hroot.segments_injective hexposed hexposed' hsegments)

end

/-! ## Where the output lies -/

/-- Where a tree says that its output lies: every file in its place, no two of them in the same one,
    and the directories of the exposed namespaces. -/
structure GeneratedProject.IsLaid (p : GeneratedProject) (root : Item) (includeComments : Bool)
    (id : Uuid) : Prop where
  kind : root.kind.isNamespace = true
  places : root.HasPlaces
  exists_lays : ∀ {file : GeneratedFile}, file ∈ p.files →
    ∃ outer name, root.Lays includeComments id file outer name
  nodup_files : (p.files.map (·.path.components)).Nodup
  mem_directories_iff : ∀ {directory : Path}, directory ∈ p.directories
    ↔ ∃ s, root.Exposes s ∧ s.item.kind.isNamespace = true ∧ directory = s.directory

namespace GeneratedProject.IsLaid

variable {p : GeneratedProject} {root : Item} {includeComments : Bool} {id : Uuid}
  {file other : GeneratedFile}

/-- Two files with the same path are the same. -/
theorem eq_of_path_eq (h : p.IsLaid root includeComments id) (hfile : file ∈ p.files)
    (hother : other ∈ p.files) (heq : file.path = other.path) : file = other :=
  List.inj_on_of_nodup_map h.nodup_files hfile hother (heq ▸ rfl)

theorem fileName_cases (h : p.IsLaid root includeComments id) (hfile : file ∈ p.files) :
    file.path.fileName? = some "id.txt" ∨ file.path.fileName? = some "comments.html"
      ∨ ∃ name, file.path.fileName? = some (name ++ ".java") := by
  obtain ⟨outer, name, hlays⟩ := h.exists_lays hfile
  rw [hlays.fileName?_eq h.places h.kind]
  cases hlays with
  | marker => exact Or.inl rfl
  | comments => exact Or.inr (Or.inl rfl)
  | source => exact Or.inr (Or.inr ⟨_, rfl⟩)

/-- A file on the way to a file is that file. -/
theorem eq_of_below (h : p.IsLaid root includeComments id) (hfile : file ∈ p.files)
    (hother : other ∈ p.files) (hbelow : file.path.components <+: other.path.components) :
    file = other := by
  obtain ⟨outer, name, hlays⟩ := h.exists_lays hfile
  obtain ⟨outer', name', hlays'⟩ := h.exists_lays hother
  obtain ⟨houter, -, hname, hpath⟩ := hlays.place h.places h.kind
  obtain ⟨houter', -, hname', hpath'⟩ := hlays'.place h.places h.kind
  rw [hpath, hpath'] at hbelow
  obtain ⟨rfl, rfl⟩ := h.places.eq_of_prefix_fileIn houter houter' hname hname' hbelow
  exact h.eq_of_path_eq hfile hother (hpath.trans hpath'.symm)

theorem not_directory_below (h : p.IsLaid root includeComments id)
    (hfile : file ∈ p.files) {directory : Path} (hdirectory : directory ∈ p.directories) :
    ¬ file.path.components <+: directory.components := by
  obtain ⟨outer, name, hlays⟩ := h.exists_lays hfile
  obtain ⟨houter, -, hname, hpath⟩ := hlays.place h.places h.kind
  obtain ⟨s, hs, -, rfl⟩ := h.mem_directories_iff.1 hdirectory
  rw [hpath]
  exact h.places.not_prefix_directory houter hs hname

theorem parent_mem (h : p.IsLaid root includeComments id) (hfile : file ∈ p.files) :
    ∃ directory ∈ p.directories, file.path.parent? = some directory := by
  obtain ⟨outer, name, hlays⟩ := h.exists_lays hfile
  obtain ⟨houter, hinside, hname, hpath⟩ := hlays.place h.places h.kind
  have hdirectory := h.mem_directories_iff.2 ⟨outer, houter, hinside, rfl⟩
  rw [hpath]
  exact ⟨outer.directory, hdirectory, h.places.parent?_fileIn houter hname⟩

/-- Every path starts with the name of the project, as every full name does. -/
theorem below_project (h : p.IsLaid root includeComments id) {path : Path}
    (hpath : path ∈ p.files.map (·.path) ++ p.directories) :
    [PathComponent.normal root.name] <+: path.components := by
  rcases List.mem_append.1 hpath with hmem | hmem
  · obtain ⟨file, hfile, rfl⟩ := List.mem_map.1 hmem
    obtain ⟨outer, name, hlays⟩ := h.exists_lays hfile
    obtain ⟨houter, -, hname, hplace⟩ := hlays.place h.places h.kind
    obtain ⟨rest, hrest⟩ := h.places.exists_segments_eq houter
    rw [hplace, h.places.components_fileIn houter hname, hrest]
    exact ⟨_, rfl⟩
  · obtain ⟨s, hs, -, rfl⟩ := h.mem_directories_iff.1 hmem
    obtain ⟨rest, hrest⟩ := h.places.exists_segments_eq hs
    rw [h.places.components_directory hs, hrest]
    exact ⟨_, rfl⟩

end GeneratedProject.IsLaid

/-! ## What is written -/

namespace GeneratedProject.IsWritten

variable {p : GeneratedProject} {root : Item} {includeComments : Bool} {id : Uuid}
  {sources : List GeneratedFile} {file other : GeneratedFile}

theorem perm_files (h : p.IsWritten root includeComments id sources) :
    p.files.Perm (Layout.marker root id ::
      (Layout.ofSymbols includeComments (root.exposed "" none)).files ++ sources) := by
  rw [h.files_eq]
  exact List.mergeSort_perm _ _

theorem mem_files_iff (h : p.IsWritten root includeComments id sources) :
    file ∈ p.files
      ↔ file = Layout.marker root id
        ∨ file ∈ (Layout.ofSymbols includeComments (root.exposed "" none)).files
        ∨ file ∈ sources := by
  rw [h.perm_files.mem_iff, List.mem_append, List.mem_cons, or_assoc]

theorem lays_of_mem_sources (h : p.IsWritten root includeComments id sources)
    (hfile : file ∈ sources) :
    ∃ outer name, root.Lays includeComments id file outer (name ++ ".java") := by
  obtain ⟨s, -, hs, hleaf, hsource⟩ := exists_left_of_forall₂ h.sources_eq hfile
  obtain ⟨outer, houter, hinside, hchild⟩ := Item.HasPlaces.exists_outer h.kind hs hleaf
  exact ⟨outer, s.item.name, .source hs hleaf houter hinside hchild hsource⟩

/-- Every file has its place. -/
theorem exists_lays (h : p.IsWritten root includeComments id sources) (hfile : file ∈ p.files) :
    ∃ outer name, root.Lays includeComments id file outer name := by
  rcases h.mem_files_iff.1 hfile with rfl | hfile | hfile
  · exact ⟨_, _, .marker⟩
  · obtain ⟨hincluded, s, hs, hinside, hwritten, rfl⟩ := (mem_comments_iff h.places).1 hfile
    exact ⟨_, _, .comments hs hinside hincluded hwritten⟩
  · obtain ⟨outer, name, hlays⟩ := h.lays_of_mem_sources hfile
    exact ⟨outer, _, hlays⟩

/-- No two declarations have their source in the same file. -/
theorem pairwise_sources (h : p.IsWritten root includeComments id sources) :
    sources.Pairwise fun a b => a.path.components ≠ b.path.components := by
  refine pairwise_of_forall₂ h.sources_eq (h.nodup.filter _) ?_
  rintro s s' file file' hne ⟨hs, hleaf, hsource⟩ ⟨hs', hleaf', hsource'⟩
  rw [hsource.path_eq, hsource'.path_eq]
  exact h.places.source_components_ne h.kind hne hs hs' hleaf hleaf'

/-- No two files have the same path. -/
theorem nodup_files (h : p.IsWritten root includeComments id sources) :
    (p.files.map (·.path.components)).Nodup := by
  rw [(h.perm_files.map _).nodup_iff]
  exact nodup_laid h.places h.kind h.nodup h.pairwise_sources fun _ hfile =>
    h.lays_of_mem_sources hfile

theorem exists_source (h : p.IsWritten root includeComments id sources) {s : Symbol}
    (hs : root.Exposes s) (hkind : s.item.kind.isDeclaration = true) :
    ∃ file ∈ p.files, IsSource root s file := by
  have hleaf := (h.places.isDeclaration_iff hs).1 hkind
  have hmem : s ∈ (root.exposed "" none).filter (!·.item.kind.isNamespace) := by
    simpa [hleaf] using Item.mem_exposed_iff.2 hs
  obtain ⟨file, hfile, -, -, hsource⟩ := exists_right_of_forall₂ h.sources_eq hmem
  exact ⟨file, h.mem_files_iff.2 (Or.inr (Or.inr hfile)), hsource⟩

theorem exists_declaration (h : p.IsWritten root includeComments id sources)
    (hfile : file ∈ p.files) {name : String}
    (hname : file.path.fileName? = some (name ++ ".java")) :
    ∃ s, root.Exposes s ∧ s.item.kind.isDeclaration = true ∧ IsSource root s file := by
  obtain ⟨outer, written, hlays⟩ := h.exists_lays hfile
  rw [hlays.fileName?_eq h.places h.kind, Option.some_inj] at hname
  cases hlays with
  | marker => exact absurd hname.symm (append_java_ne (by decide))
  | comments => exact absurd hname.symm (append_java_ne (by decide))
  | source exposed leaf around inside isChild isSource =>
    exact ⟨_, exposed, (h.places.isDeclaration_iff exposed).2 leaf, isSource⟩

theorem marker_iff (h : p.IsWritten root includeComments id sources) :
    (file ∈ p.files ∧ file.path.fileName? = some "id.txt")
      ↔ file = ⟨⟨root.name ++ "/id.txt"⟩, id.text ++ "\n"⟩ := by
  have hmarker : Layout.marker root id = ⟨⟨root.name ++ "/id.txt"⟩, id.text ++ "\n"⟩ := by
    simp [Layout.marker, Path.ofNames, Layout.markerFile, String.append_assoc]
  rw [← hmarker]
  constructor
  · rintro ⟨hfile, hname⟩
    obtain ⟨outer, written, hlays⟩ := h.exists_lays hfile
    rw [hlays.fileName?_eq h.places h.kind, Option.some_inj] at hname
    cases hlays with
    | marker => rfl
    | comments => exact absurd hname (by decide)
    | source => exact absurd hname (append_java_ne (by decide))
  · rintro rfl
    have hlays : root.Lays includeComments id (Layout.marker root id) _ _ := .marker
    exact ⟨h.mem_files_iff.2 (Or.inl rfl), hlays.fileName?_eq h.places h.kind⟩

theorem comments_iff (h : p.IsWritten root includeComments id sources) :
    (file ∈ p.files ∧ file.path.fileName? = some "comments.html")
      ↔ includeComments = true ∧ ∃ s, root.Exposes s ∧ s.item.kind.isNamespace = true
        ∧ Text.isAllBlank s.item.comments = false
        ∧ file = ⟨⟨String.intercalate "/" (FullName.segments s.fullName) ++ "/comments.html"⟩,
            s.item.comments⟩ := by
  have hpath : ∀ {s}, root.Exposes s → s.fileIn Layout.commentsFile
      = ⟨String.intercalate "/" (FullName.segments s.fullName) ++ "/comments.html"⟩ :=
    fun hs => h.places.fileIn_eq hs
  constructor
  · rintro ⟨hfile, hname⟩
    obtain ⟨outer, written, hlays⟩ := h.exists_lays hfile
    rw [hlays.fileName?_eq h.places h.kind, Option.some_inj] at hname
    cases hlays with
    | marker => exact absurd hname (by decide)
    | comments exposed inside included hwritten =>
      exact ⟨included, outer, exposed, inside, hwritten, by rw [hpath exposed]⟩
    | source => exact absurd hname (append_java_ne (by decide))
  · rintro ⟨hincluded, s, hs, hinside, hwritten, rfl⟩
    have hlays : root.Lays includeComments id _ s Layout.commentsFile :=
      .comments hs hinside hincluded hwritten
    rw [hpath hs] at hlays
    refine ⟨h.mem_files_iff.2 (Or.inr (Or.inl ?_)), hlays.fileName?_eq h.places h.kind⟩
    exact (mem_comments_iff h.places).2 ⟨hincluded, s, hs, hinside, hwritten, by rw [hpath hs]⟩

theorem mem_directories_iff (h : p.IsWritten root includeComments id sources) {directory : Path} :
    directory ∈ p.directories
      ↔ ∃ s, root.Exposes s ∧ s.item.kind.isNamespace = true ∧ directory = s.directory := by
  rw [h.directories_eq, (sortDirectories_eq (nodup_directories h.places h.nodup)).1,
    List.mem_mergeSort, Layout.mem_directories_iff]

theorem files_increasing (h : p.IsWritten root includeComments id sources) :
    p.files.Pairwise fun a b => a.path.Before b.path := by
  have hnodup := (h.perm_files.map (·.path.components)).nodup_iff.1 h.nodup_files
  rw [h.files_eq]
  exact pairwise_before_mergeSort GeneratedFile.path hnodup

/-- What is written lies where the tree says. -/
theorem isLaid (h : p.IsWritten root includeComments id sources) :
    p.IsLaid root includeComments id :=
  ⟨h.kind, h.places, h.exists_lays, h.nodup_files, h.mem_directories_iff⟩

theorem isImage (h : p.IsWritten root includeComments id sources) :
    p.IsImage root includeComments where
  exists_source s hs hkind := h.exists_source hs hkind
  exists_declaration file hfile name hname := h.exists_declaration hfile hname
  sourcePath_injective s s' hs hs' hkind hkind' heq := by
    by_contra hne
    have hleaf := (h.places.isDeclaration_iff hs).1 hkind
    have hleaf' := (h.places.isDeclaration_iff hs').1 hkind'
    exact h.places.source_components_ne h.kind hne hs hs' hleaf hleaf' (heq ▸ rfl)
  marker_iff := ⟨id, h.id_eq, fun file => h.marker_iff⟩
  comments_iff file := h.comments_iff
  fileName_cases file hfile := h.isLaid.fileName_cases hfile
  mem_directories_iff directory := h.mem_directories_iff
  files_increasing := h.files_increasing
  directories_increasing := by
    rw [h.directories_eq]
    exact (sortDirectories_eq (nodup_directories h.places h.nodup)).2
  not_below_file file hfile :=
    ⟨fun other hother => h.isLaid.eq_of_below hfile hother,
      fun directory hdirectory => h.isLaid.not_directory_below hfile hdirectory⟩
  parent_mem file hfile := h.isLaid.parent_mem hfile
  below_project path hpath := h.isLaid.below_project hpath

end GeneratedProject.IsWritten

/-- What a pass writes that leaves nothing out is the image of its project. -/
theorem compile_isImage {root : Item} {options : Options} {p : GeneratedProject}
    (h : compile root options = .ok p) (hskipped : p.skipped = []) :
    p.IsImage root options.includeComments := by
  obtain ⟨id, sources, hwritten⟩ := exists_isWritten h hskipped
  exact hwritten.isImage

/-- A project with comments, a package, a static variable and a class with a field. -/
def shelf : Item where
  name := "Demo"
  kind := .project
  id := some (.ofNat 7)
  comments := "Everything."
  children := [{
    name := "app"
    kind := .package
    comments := "The application."
    children := [
      { name := "total", kind := .«variable», typeName := some "NUMBER" },
      { name := "Counter", kind := .classItem,
        children := [{ name := "label", kind := .«variable», typeName := some "TEXT" }] }] }]

theorem shelf_isImage :
    ∃ p, compile shelf {} = .ok p ∧ p.skipped = [] ∧ p.IsImage shelf true := by
  -- only what is skipped is evaluated: sorting the files does not reduce
  have hcompiles : (compile shelf {}).toOption.any (·.skipped.isEmpty) = true := by decide +kernel
  obtain ⟨p, hsome, hempty⟩ := (Option.any_eq_true _ _).1 hcompiles
  have hp : compile shelf {} = .ok p := by
    cases hresult : compile shelf {} with
    | error e => simp [hresult, Except.toOption] at hsome
    | ok q => simpa [hresult, Except.toOption] using hsome
  have hskipped : p.skipped = [] := List.isEmpty_iff.1 hempty
  exact ⟨p, hp, hskipped, compile_isImage hp hskipped⟩

end Flowchart
