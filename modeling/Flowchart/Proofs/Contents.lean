import Flowchart.Proofs.Ancestors
import Flowchart.Proofs.Planning
import Flowchart.Workspace.FileTree

set_option autoImplicit false

/-! # What a project has in its places

The directories and files of a pass make up a tree: every file lies in one of the directories, every
directory but that of the project in another one, and in no place there is both. -/

namespace Flowchart

/-! ## Names in paths -/

/-- A name that a file system takes for one. -/
structure Path.IsName (name : String) : Prop extends IsStep name where
  proper : Char.ofNat 0 ∉ name.toList

namespace Path

variable {names : List String} {name : String}

theorem IsName.of_isIdentifier (h : Java.isIdentifier name = true) : IsName name where
  toIsStep := .of_isIdentifier h
  proper hmem := by
    have hpart := Java.isPart_of_mem h hmem
    revert hpart
    decide

theorem isProper_ofNames (h : ∀ n ∈ names, IsName n) : (ofNames names).IsProper := by
  induction names with
  | nil => decide
  | cons first rest ih =>
    obtain ⟨hfirst, hrest⟩ := List.forall_mem_cons.1 h
    by_cases hne : rest = []
    · rw [hne, IsProper, ofNames, String.intercalate_singleton]
      exact hfirst.proper
    · have htext : ofNames (first :: rest) = ⟨first ++ "/" ++ (ofNames rest).text⟩ :=
        congrArg Path.mk (ofNames_cons first hne)
      have hslash : Char.ofNat 0 ∉ "/".toList := by decide
      rw [htext, IsProper, String.toList_append, String.toList_append, List.mem_append,
        List.mem_append, or_iff_left hslash]
      exact not_or.2 ⟨hfirst.proper, ih hrest⟩

theorem forall_isName_append (hnames : ∀ n ∈ names, IsName n) (hname : IsName name) :
    ∀ n ∈ names ++ [name], IsName n := by
  rw [List.forall_mem_append, List.forall_mem_singleton]
  exact ⟨hnames, hname⟩

end Path

/-! ## Projects as trees -/

namespace GeneratedProject

/-- What a project has where names lead. -/
def Has (p : GeneratedProject) (names : List String) : FileNode → Prop
  | .directory => ∃ directory ∈ p.directories, directory.components = names.map .normal
  | .file contents => ∃ file ∈ p.files,
    file.path.components = names.map .normal ∧ file.contents = contents
  | .device | .program _ => False

instance (p : GeneratedProject) (names : List String) : (node : FileNode) →
    Decidable (p.Has names node)
  | .directory => inferInstanceAs (Decidable (∃ directory ∈ p.directories, _))
  | .file _ => inferInstanceAs (Decidable (∃ file ∈ p.files, _))
  | .device | .program _ => inferInstanceAs (Decidable False)

/-- A project whose directories and files make up a tree. -/
structure IsTree (p : GeneratedProject) : Prop where
  /-- The tree has a top. -/
  top : p.Has [p.name] .directory
  directory_cases : ∀ {directory : Path}, directory ∈ p.directories →
    ∃ names, directory = Path.ofNames names ∧ p.Has names .directory
  /-- Every file lies in a directory. -/
  file_cases : ∀ {file : GeneratedFile}, file ∈ p.files → ∃ names name,
    file.path = Path.ofNames (names ++ [name]) ∧ Path.IsName name ∧ p.Has names .directory
      ∧ ¬ p.Has (names ++ [name]) .directory
  exists_rest : ∀ {names : List String}, p.Has names .directory → ∃ rest, names = p.name :: rest
  isName : ∀ {names : List String}, p.Has names .directory → ∀ n ∈ names, Path.IsName n
  /-- Every directory but the top lies in a directory. -/
  outer : ∀ {names inner : List String}, p.Has names .directory → inner <+: names → inner ≠ [] →
    p.Has inner .directory
  nodup_files : (p.files.map (·.path.components)).Nodup

namespace IsTree

variable {p : GeneratedProject} {file : GeneratedFile} {names : List String} {contents : String}
  {node : FileNode}

theorem mem_directories (h : p.IsTree) (hnames : p.Has names .directory) :
    Path.ofNames names ∈ p.directories := by
  obtain ⟨directory, hmem, hcomponents⟩ := hnames
  obtain ⟨names', rfl, hnames'⟩ := h.directory_cases hmem
  obtain ⟨rest, hrest⟩ := h.exists_rest hnames'
  have hsteps : ∀ n ∈ names', Path.IsStep n := fun n hn => (h.isName hnames' n hn).toIsStep
  rw [Path.components_ofNames (by simp [hrest]) hsteps] at hcomponents
  rwa [← List.map_injective_iff.2 Item.HasPlaces.normal_injective hcomponents]

theorem has_file (h : p.IsTree) (hfile : file ∈ p.files) : ∃ names name,
    file.path = Path.ofNames (names ++ [name]) ∧ Path.IsName name ∧ p.Has names .directory
      ∧ p.Has (names ++ [name]) (.file file.contents) := by
  obtain ⟨names, name, hpath, hname, hnames, -⟩ := h.file_cases hfile
  refine ⟨names, name, hpath, hname, hnames, file, hfile, ?_, rfl⟩
  have hall := Path.forall_isName_append (h.isName hnames) hname
  rw [hpath, Path.components_ofNames (by simp) fun n hn => (hall n hn).toIsStep]

theorem exists_file (h : p.IsTree) (hhas : p.Has names (.file contents)) :
    ∃ file ∈ p.files, file.path = Path.ofNames names ∧ file.contents = contents
      ∧ (∀ n ∈ names, Path.IsName n) ∧ (∃ rest, names = p.name :: rest)
      ∧ ¬ p.Has names .directory := by
  obtain ⟨file, hfile, hcomponents, hcontents⟩ := hhas
  obtain ⟨init, name, hpath, hname, hinit, hnot⟩ := h.file_cases hfile
  have hall := Path.forall_isName_append (h.isName hinit) hname
  rw [hpath, Path.components_ofNames (by simp) fun n hn => (hall n hn).toIsStep] at hcomponents
  obtain rfl := List.map_injective_iff.2 Item.HasPlaces.normal_injective hcomponents
  obtain ⟨rest, rfl⟩ := h.exists_rest hinit
  exact ⟨file, hfile, hpath, hcontents, hall, ⟨_, rfl⟩, hnot⟩

/-- Where there is a file there is nothing else. -/
theorem eq_file (h : p.IsTree) (hfile : p.Has names (.file contents)) (hnode : p.Has names node) :
    node = .file contents := by
  obtain ⟨-, -, -, -, -, -, hnot⟩ := h.exists_file hfile
  cases node with
  | directory => exact absurd hnode hnot
  | file other =>
    obtain ⟨file, hmem, hcomponents, rfl⟩ := hfile
    obtain ⟨file', hmem', hcomponents', rfl⟩ := hnode
    have heq : file = file' := List.inj_on_of_nodup_map h.nodup_files hmem hmem'
      (hcomponents.trans hcomponents'.symm)
    rw [heq]
  | device | program => exact hnode.elim

theorem has_rest (h : p.IsTree) (hnode : p.Has names node) : ∃ rest, names = p.name :: rest := by
  cases node with
  | directory => exact h.exists_rest hnode
  | file contents =>
    obtain ⟨-, -, -, -, -, hrest, -⟩ := h.exists_file hnode
    exact hrest
  | device | program => exact hnode.elim

end IsTree

end GeneratedProject

/-! ## The tree of a pass -/

namespace GeneratedProject.IsLaid

variable {p : GeneratedProject} {root : Item} {includeComments : Bool} {id : Uuid}
  {file : GeneratedFile} {names : List String}

theorem has_directory_iff (h : p.IsLaid root includeComments id) :
    p.Has names .directory ↔ ∃ s, root.Exposes s ∧ s.item.kind.isNamespace = true
      ∧ FullName.segments s.fullName = names := by
  constructor
  · rintro ⟨directory, hmem, hcomponents⟩
    obtain ⟨s, hs, hkind, rfl⟩ := h.mem_directories_iff.1 hmem
    rw [h.places.components_directory hs] at hcomponents
    exact ⟨s, hs, hkind, List.map_injective_iff.2 Item.HasPlaces.normal_injective hcomponents⟩
  · rintro ⟨s, hs, hkind, rfl⟩
    exact ⟨s.directory, h.mem_directories_iff.2 ⟨s, hs, hkind, rfl⟩,
      h.places.components_directory hs⟩

theorem isName_of_lays (h : p.IsLaid root includeComments id) {outer : Symbol} {name : String}
    (hlays : root.Lays includeComments id file outer name) : Path.IsName name := by
  obtain ⟨-, -, hname, -⟩ := hlays.place h.places h.kind
  refine ⟨hname.isStep, ?_⟩
  cases hlays with
  | marker => decide
  | comments => decide
  | @source s _ _ exposed =>
    have hitem := Path.IsName.of_isIdentifier (h.places.placed exposed).isIdentifier
    rw [String.toList_append, List.mem_append, or_iff_left (by decide)]
    exact hitem.proper

/-- What is laid where the tree says makes up a tree. -/
theorem isTree (h : p.IsLaid root includeComments id) (hname : p.name = root.name) : p.IsTree where
  top := by
    have hspells := FullName.Spells.singleton (h.places.placed .root).isIdentifier
    rw [h.has_directory_iff, hname, ← hspells.segments_eq]
    exact ⟨_, .root, h.kind, rfl⟩
  directory_cases hdirectory := by
    obtain ⟨s, hs, hkind, rfl⟩ := h.mem_directories_iff.1 hdirectory
    exact ⟨_, rfl, h.has_directory_iff.2 ⟨s, hs, hkind, rfl⟩⟩
  file_cases hfile := by
    obtain ⟨outer, name, hlays⟩ := h.exists_lays hfile
    obtain ⟨houter, hkind, hdotted, hpath⟩ := hlays.place h.places h.kind
    refine ⟨_, name, hpath, h.isName_of_lays hlays,
      h.has_directory_iff.2 ⟨outer, houter, hkind, rfl⟩, fun hdirectory => ?_⟩
    -- a name with a dot in it is not that of a directory
    obtain ⟨s, hs, -, hsegments⟩ := h.has_directory_iff.1 hdirectory
    exact h.places.not_mem_segments hs hdotted (by rw [hsegments]; simp)
  exists_rest hnames := by
    obtain ⟨s, hs, -, rfl⟩ := h.has_directory_iff.1 hnames
    rw [hname]
    exact h.places.exists_segments_eq hs
  isName hnames := by
    obtain ⟨s, hs, -, rfl⟩ := h.has_directory_iff.1 hnames
    exact fun n hn => .of_isIdentifier ((h.places.placed hs).spells.isIdentifier n hn)
  outer hnames hinner hne := by
    obtain ⟨s, hs, hkind, rfl⟩ := h.has_directory_iff.1 hnames
    exact h.has_directory_iff.2 (h.places.exists_namespace_of_prefix hs hkind hne hinner)
  nodup_files := h.nodup_files

end GeneratedProject.IsLaid

theorem compile_isTree {root : Item} {options : Options} {p : GeneratedProject}
    (h : compile root options = .ok p) : p.IsTree := by
  obtain ⟨t, planned, -, hplans, rfl⟩ := exists_plans h
  obtain ⟨id, hlaid⟩ := hplans.isLaid
  exact hlaid.isTree rfl

end Flowchart
