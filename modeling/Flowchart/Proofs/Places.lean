import Flowchart.Proofs.Exposed

set_option autoImplicit false

/-! # Places of files

Every file lies directly in the directory of a project or package, under a name with a dot in it,
and every directory goes through names without dots. So a file is never in the way of another file
or of a directory, and its place tells the symbol it belongs to. -/

namespace Flowchart

/-! ## Names for files -/

/-- A name for files: a single step that is no identifier, since there is a dot in it. -/
structure IsDotted (name : String) : Prop where
  isStep : Path.IsStep name
  dot_mem : '.' ∈ name.toList

theorem isDotted_markerFile : IsDotted Layout.markerFile := by
  refine ⟨?_, by decide⟩
  constructor <;> decide

theorem isDotted_commentsFile : IsDotted Layout.commentsFile := by
  refine ⟨?_, by decide⟩
  constructor <;> decide

theorem isDotted_java {name : String} (h : Java.isIdentifier name = true) :
    IsDotted (name ++ ".java") := by
  have hlength : (name ++ ".java").length = name.length + 5 := by
    rw [String.length_append]
    rfl
  refine ⟨⟨?_, ?_, ?_, ?_⟩, ?_⟩
  · have hslash := Java.slash_not_mem h
    simp [hslash]
  · intro heq
    simp [heq] at hlength
  · intro heq
    rw [heq] at hlength
    have hone : ".".length = 1 := rfl
    omega
  · intro heq
    rw [heq] at hlength
    have htwo : "..".length = 2 := rfl
    omega
  · simp

/-- The name of a source file is not any other name that is used for files. -/
theorem append_java_ne {name other : String} (h : ¬ ".java".toList <:+ other.toList) :
    name ++ ".java" ≠ other := by
  rintro rfl
  exact h (by simp)

/-! ## Places of full names -/

/-- A full name made of identifiers is looked up where its names lead, with an ending. -/
theorem FullName.Spells.lookup_eq {fullName : String} {names : List String}
    (h : Spells fullName names) :
    (Path.ofSegments (segments fullName)).withExtension "java"
      = ⟨String.intercalate "/" names ++ ".java"⟩ := by
  have hsteps : ∀ n ∈ names, Path.IsStep n :=
    fun n hn => .of_isIdentifier (h.isIdentifier n hn)
  obtain ⟨init, last, rfl⟩ := (List.eq_nil_or_concat names).resolve_left h.ne_nil
  rw [List.concat_eq_append] at h hsteps ⊢
  have hdot := Java.dot_not_mem (h.isIdentifier last (by simp))
  rw [h.segments_eq, Path.ofSegments_eq_ofNames h.ne_nil hsteps,
    Path.withExtension_ofNames (fun n hn => hsteps n (List.mem_append_left _ hn))
      (hsteps last (by simp)) hdot, String.append_assoc]
  rfl

/-! ## Places of symbols -/

/-- The exposed symbols of a tree all have places, and no two of them the same. -/
structure Item.HasPlaces (root : Item) : Prop where
  placed : ∀ {s : Symbol}, root.Exposes s → s.IsPlaced
  unique : ∀ {s s' : Symbol}, root.Exposes s → root.Exposes s' → s.fullName = s'.fullName → s = s'

/-- Where the source file of a declaration is: the names of its full name, with an ending. -/
def Symbol.sourcePath (s : Symbol) : Path :=
  ⟨String.intercalate "/" (FullName.segments s.fullName) ++ ".java"⟩

/-- A file that lies directly in the directory of a symbol. -/
def Symbol.fileIn (s : Symbol) (name : String) : Path :=
  Path.ofNames (FullName.segments s.fullName ++ [name])

namespace Item.HasPlaces

variable {root : Item} {s s' outer : Symbol} {name name' : String}

/-- The full name of a child has one name more. -/
theorem segments_child (hroot : root.HasPlaces) (houter : root.Exposes outer) (hs : root.Exposes s)
    (hchild : s.IsChild outer) :
    FullName.segments s.fullName = FullName.segments outer.fullName ++ [s.item.name] := by
  rw [hchild.fullName_eq]
  exact ((hroot.placed houter).spells.join (hroot.placed hs).isIdentifier).segments_eq

theorem segments_injective (hroot : root.HasPlaces) (hs : root.Exposes s) (hs' : root.Exposes s')
    (h : FullName.segments s.fullName = FullName.segments s'.fullName) : s = s' := by
  refine hroot.unique hs hs' ?_
  rw [(hroot.placed hs).spells.eq_intercalate, h, ← (hroot.placed hs').spells.eq_intercalate]

/-- Every full name starts with the name of the project. -/
theorem exists_segments_eq (hroot : root.HasPlaces) (hs : root.Exposes s) :
    ∃ rest, FullName.segments s.fullName = root.name :: rest := by
  induction hs with
  | root =>
    have hname := (hroot.placed .root).isIdentifier
    exact ⟨[], (FullName.Spells.singleton hname).segments_eq⟩
  | @child outer s exposed inside isChild ih =>
    obtain ⟨rest, hrest⟩ := ih
    rw [hroot.segments_child exposed (.child exposed inside isChild) isChild, hrest]
    exact ⟨rest ++ [s.item.name], rfl⟩

theorem forall_isStep (hroot : root.HasPlaces) (hs : root.Exposes s) :
    ∀ n ∈ FullName.segments s.fullName, Path.IsStep n :=
  fun n hn => .of_isIdentifier ((hroot.placed hs).spells.isIdentifier n hn)

theorem components_directory (hroot : root.HasPlaces) (hs : root.Exposes s) :
    s.directory.components = (FullName.segments s.fullName).map .normal :=
  Path.components_ofNames (hroot.placed hs).spells.ne_nil (hroot.forall_isStep hs)

theorem components_fileIn (hroot : root.HasPlaces) (hs : root.Exposes s) (hname : IsDotted name) :
    (s.fileIn name).components = (FullName.segments s.fullName ++ [name]).map .normal :=
  Path.components_ofNames (by simp)
    (Path.forall_isStep_append (hroot.forall_isStep hs) hname.isStep)

theorem directory_child (hroot : root.HasPlaces) (hs : root.Exposes s) (hname : IsDotted name) :
    s.directory.child name = s.fileIn name :=
  Path.child_ofNames (hroot.placed hs).spells.ne_nil (hroot.forall_isStep hs) hname.isStep

theorem parent?_fileIn (hroot : root.HasPlaces) (hs : root.Exposes s) (hname : IsDotted name) :
    (s.fileIn name).parent? = some s.directory :=
  Path.parent?_ofNames (hroot.forall_isStep hs) hname.isStep

theorem fileName?_fileIn (hroot : root.HasPlaces) (hs : root.Exposes s) (hname : IsDotted name) :
    (s.fileIn name).fileName? = some name :=
  Path.fileName?_ofNames (hroot.forall_isStep hs) hname.isStep

/-! ## Files that are not in the way -/

theorem normal_injective : Function.Injective PathComponent.normal := by
  intro a b h
  cases h
  rfl

/-- A dotted name is not part of a full name. -/
theorem not_mem_segments (hroot : root.HasPlaces) (hs : root.Exposes s) (hname : IsDotted name) :
    name ∉ FullName.segments s.fullName := by
  intro hmem
  exact Java.dot_not_mem ((hroot.placed hs).spells.isIdentifier name hmem) hname.dot_mem

/-- No file is on the way to a directory. -/
theorem not_prefix_directory (hroot : root.HasPlaces) (hs : root.Exposes s) (hs' : root.Exposes s')
    (hname : IsDotted name) : ¬ (s.fileIn name).components <+: s'.directory.components := by
  rw [hroot.components_fileIn hs hname, hroot.components_directory hs',
    List.prefix_map_iff_of_injective normal_injective]
  intro hstarts
  exact hroot.not_mem_segments hs' hname (hstarts.subset (by simp))

/-- No file is on the way to another one. -/
theorem eq_of_prefix_fileIn (hroot : root.HasPlaces) (hs : root.Exposes s) (hs' : root.Exposes s')
    (hname : IsDotted name) (hname' : IsDotted name')
    (h : (s.fileIn name).components <+: (s'.fileIn name').components) : s = s' ∧ name = name' := by
  rw [hroot.components_fileIn hs hname, hroot.components_fileIn hs' hname',
    List.prefix_map_iff_of_injective normal_injective, List.prefix_concat_iff] at h
  rcases h with h | h
  · obtain ⟨hsegments, hnames⟩ := List.append_inj' h rfl
    exact ⟨hroot.segments_injective hs hs' hsegments, List.singleton_inj.1 hnames⟩
  · -- a file on the way would be a directory with a dot in its name
    exact absurd (h.subset (by simp)) (hroot.not_mem_segments hs' hname)

/-- The place of a file tells its name and the symbol it lies in. -/
theorem fileIn_injective (hroot : root.HasPlaces) (hs : root.Exposes s) (hs' : root.Exposes s')
    (hname : IsDotted name) (hname' : IsDotted name')
    (h : (s.fileIn name).components = (s'.fileIn name').components) : s = s' ∧ name = name' := by
  have hstarts : (s.fileIn name).components <+: (s'.fileIn name').components := ⟨[], by simp [h]⟩
  exact hroot.eq_of_prefix_fileIn hs hs' hname hname' hstarts

/-! ## Places of source files -/

/-- Everything exposed but the root lies in a namespace. -/
theorem exists_outer (hkind : root.kind.isNamespace = true) (hs : root.Exposes s)
    (hleaf : s.item.kind.isNamespace = false) :
    ∃ outer, root.Exposes outer ∧ outer.item.kind.isNamespace = true ∧ s.IsChild outer := by
  cases hs with
  | root =>
    rw [hkind] at hleaf
    cases hleaf
  | child exposed inside isChild => exact ⟨_, exposed, inside, isChild⟩

theorem parent_eq (hroot : root.HasPlaces) (houter : root.Exposes outer) (hs : root.Exposes s)
    (hchild : s.IsChild outer) : FullName.parent s.fullName = outer.fullName := by
  rw [hchild.fullName_eq]
  exact FullName.parent_join (hroot.placed houter).spells.ne_empty
    (Java.dot_not_mem (hroot.placed hs).isIdentifier)

/-- The names of a full name, with an ending, lead to a file in the directory around. -/
theorem sourcePath_eq (hroot : root.HasPlaces) (houter : root.Exposes outer) (hs : root.Exposes s)
    (hchild : s.IsChild outer) : s.sourcePath = outer.fileIn (s.item.name ++ ".java") := by
  rw [Symbol.sourcePath, hroot.segments_child houter hs hchild, Symbol.fileIn, Path.ofNames_append]
  rfl

/-- A unit is put where its full name says. -/
theorem unit_path_eq (hroot : root.HasPlaces) (houter : root.Exposes outer) (hs : root.Exposes s)
    (hchild : s.IsChild outer) :
    s.unit.directory.child (s.item.name ++ ".java") = outer.fileIn (s.item.name ++ ".java") := by
  have hdirectory : s.unit.directory = outer.directory := by
    rw [Symbol.unit, Symbol.directory, hroot.parent_eq houter hs hchild]
  rw [hdirectory, hroot.directory_child houter (isDotted_java (hroot.placed hs).isIdentifier)]

/-- The text of a path in the directory of a symbol. -/
theorem fileIn_eq (hroot : root.HasPlaces) (hs : root.Exposes s) :
    s.fileIn name = ⟨String.intercalate "/" (FullName.segments s.fullName) ++ ("/" ++ name)⟩ := by
  rw [Symbol.fileIn, Path.ofNames,
    String.intercalate_append_of_ne_nil (hroot.placed hs).spells.ne_nil (by simp)]
  simp [String.append_assoc]

/-! ## Places and full names -/

/-- A full name is looked up where the source file is. -/
theorem lookup_eq (hroot : root.HasPlaces) (hs : root.Exposes s) :
    (Path.ofSegments (FullName.segments s.fullName)).withExtension "java" = s.sourcePath :=
  (hroot.placed hs).spells.lookup_eq

/-- The first names of a namespace are those of a namespace around it. -/
theorem exists_namespace_of_prefix {names : List String} (hroot : root.HasPlaces)
    (hs : root.Exposes s) (hkind : s.item.kind.isNamespace = true) (hne : names ≠ [])
    (h : names <+: FullName.segments s.fullName) :
    ∃ outer, root.Exposes outer ∧ outer.item.kind.isNamespace = true
      ∧ FullName.segments outer.fullName = names := by
  induction hs with
  | root =>
    have hspells := FullName.Spells.singleton (hroot.placed .root).isIdentifier
    rw [hspells.segments_eq, ← List.nil_append [root.name], List.prefix_concat_iff] at h
    rcases h with h | h
    · exact ⟨_, .root, hkind, by rw [hspells.segments_eq, h, List.nil_append]⟩
    · exact absurd (List.prefix_nil.1 h) hne
  | @child outer s exposed inside isChild ih =>
    have hs : root.Exposes s := .child exposed inside isChild
    rw [hroot.segments_child exposed hs isChild, List.prefix_concat_iff] at h
    rcases h with h | h
    · exact ⟨s, hs, hkind, by rw [hroot.segments_child exposed hs isChild, h]⟩
    · exact ih inside h

end Item.HasPlaces

end Flowchart
