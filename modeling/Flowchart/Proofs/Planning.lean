import Flowchart.Proofs.Policies

set_option autoImplicit false

/-! # What a pass plans

Before a failure policy is applied, a pass knows what it writes besides the units and what becomes
of each unit. Whatever is left out then, no two files have the same path, so the order in which they
were found does not matter for the output. -/

namespace Flowchart

variable {root : Item} {options : Options} {t : SymbolTable}
  {planned : Layout × List (Except CompileError GeneratedFile)}

/-! ## The plan -/

/-- A pass over a tree has come to the units: these have been laid out, and become what they are
    emitted as. -/
structure Item.Plans (root : Item) (options : Options) (t : SymbolTable)
    (planned : Layout × List (Except CompileError GeneratedFile)) : Prop where
  lists : t.Lists root
  layout_eq : Layout.ofProject root options.includeComments = .ok planned.1
  results_eq : planned.2 = root.units.map fun s => Emitter.emitUnit ⟨t, options⟩ s.unit

theorem Item.Plans.of_lists {l : Layout} (ht : t.Lists root)
    (hl : Layout.ofProject root options.includeComments = .ok l) :
    root.Plans options t (l, l.units.map (Emitter.emitUnit ⟨t, options⟩)) := by
  refine ⟨ht, hl, ?_⟩
  obtain ⟨-, id, -, rfl, -⟩ := Layout.ofProject_eq_ok hl
  exact List.map_map

/-- A pass is what becomes of the units it comes to. -/
theorem compile_eq (root : Item) (options : Options) :
    compile root options = plannedUnits root options >>= fun planned =>
      (collectUnits options.failurePolicy planned.2).map (generated root planned.1) :=
  compile_withPolicy options.failurePolicy

/-- A pass is done when it has come to the units and, under the first policy, none of them fails. -/
theorem compile_eq_ok_iff {p : GeneratedProject} :
    compile root options = .ok p
      ↔ ∃ planned, plannedUnits root options = .ok planned
        ∧ p = generated root planned.1
          (planned.2.filterMap Except.toOption, planned.2.filterMap failure?)
        ∧ (options.failurePolicy = .abort → planned.2.filterMap failure? = []) := by
  rw [compile_eq, bind_eq_ok]
  refine exists_congr fun planned => and_congr_right fun _ => ?_
  constructor
  · intro h
    cases hcollected : collectUnits options.failurePolicy planned.2 with
    | error e => simp [hcollected, Except.map] at h
    | ok collected =>
      rw [hcollected] at h
      cases h
      obtain ⟨rfl, habort⟩ := collectUnits_eq_ok_iff.1 hcollected
      exact ⟨rfl, habort⟩
  · rintro ⟨rfl, habort⟩
    rw [collectUnits_eq_ok_iff.2 ⟨rfl, habort⟩]
    rfl

/-! ## Different paths -/

/-- What a pass has laid out when it comes to the units. -/
theorem Item.Plans.places (h : root.Plans options t planned) :
    root.HasPlaces ∧ root.kind.isNamespace = true := by
  obtain ⟨hkind, -, -, -, hplaced⟩ := Layout.ofProject_eq_ok h.layout_eq
  refine ⟨.of_lists h.lists hplaced, ?_⟩
  rw [hkind]
  rfl

/-- The file of a unit is its source file. -/
theorem Item.Plans.isSource (h : root.Plans options t planned) {s : Symbol} (hs : s ∈ root.units)
    {file : GeneratedFile}
    (hfile : (Emitter.emitUnit ⟨t, options⟩ s.unit).toOption = some file) :
    root.Exposes s ∧ s.item.kind.isNamespace = false ∧ IsSource root s file := by
  obtain ⟨hroot, hkind⟩ := h.places
  obtain ⟨hmem, hleaf⟩ := List.mem_filter.1 hs
  have hexposed := Item.mem_exposed_iff.1 hmem
  rw [Bool.not_eq_true'] at hleaf
  exact ⟨hexposed, hleaf, .of_emit hroot hkind hexposed hleaf (toOption_eq_some.1 hfile)⟩

/-- The source files lie in the directories of exposed namespaces. -/
theorem Item.Plans.exists_lays (h : root.Plans options t planned) (id : Uuid)
    {file : GeneratedFile} (hfile : file ∈ planned.2.filterMap Except.toOption) :
    ∃ outer name, root.Lays options.includeComments id file outer (name ++ ".java") := by
  rw [h.results_eq, List.filterMap_map] at hfile
  obtain ⟨s, hs, hfile⟩ := List.mem_filterMap.1 hfile
  obtain ⟨hexposed, hleaf, hsource⟩ := h.isSource hs hfile
  obtain ⟨outer, houter, hinside, hchild⟩ := Item.HasPlaces.exists_outer h.places.2 hexposed hleaf
  exact ⟨outer, s.item.name, .source hexposed hleaf houter hinside hchild hsource⟩

/-- No two files of a pass have the same path, whatever it leaves out. -/
theorem Item.Plans.nodup_files (h : root.Plans options t planned) :
    ((planned.1.files ++ planned.2.filterMap Except.toOption).map (·.path.components)).Nodup := by
  obtain ⟨hroot, hkind⟩ := h.places
  have hnodup := nodup_exposed h.lists
  obtain ⟨-, id, -, hlayout, -⟩ := Layout.ofProject_eq_ok h.layout_eq
  rw [hlayout]
  refine nodup_laid hroot hkind hnodup ?_ ?_
  · rw [h.results_eq, List.filterMap_map, List.pairwise_filterMap]
    refine (hnodup.filter _).imp_of_mem ?_
    intro s s' hs hs' hne file hfile file' hfile'
    obtain ⟨hexposed, hleaf, hsource⟩ := h.isSource hs hfile
    obtain ⟨hexposed', hleaf', hsource'⟩ := h.isSource hs' hfile'
    rw [hsource.path_eq, hsource'.path_eq]
    exact hroot.source_components_ne hkind hne hexposed hexposed' hleaf hleaf'
  · exact fun file hfile => h.exists_lays id hfile

theorem Item.Plans.nodup_directories (h : root.Plans options t planned) :
    (planned.1.directories.map Path.components).Nodup := by
  obtain ⟨-, id, -, hlayout, -⟩ := Layout.ofProject_eq_ok h.layout_eq
  rw [hlayout]
  show ((Layout.ofSymbols options.includeComments _).directories.map _).Nodup
  exact Flowchart.nodup_directories h.places.1 (nodup_exposed h.lists)

/-! ## Where the output lies -/

/-- A pass that succeeds has come to the units, and its output is what became of them. -/
theorem exists_plans {p : GeneratedProject} (h : compile root options = .ok p) :
    ∃ t planned, SymbolTable.build root = .ok t ∧ root.Plans options t planned
      ∧ p = generated root planned.1
        (planned.2.filterMap Except.toOption, planned.2.filterMap failure?) := by
  obtain ⟨planned, hplanned, hp, -⟩ := compile_eq_ok_iff.1 h
  simp only [plannedUnits, bind_eq_ok] at hplanned
  obtain ⟨t, ht, ⟨⟩, -, l, hlayout, hresult⟩ := hplanned
  cases pure_eq_ok.1 hresult
  exact ⟨t, _, ht, .of_lists (SymbolTable.build_eq_ok_iff.1 ht) hlayout, hp⟩

/-- Whatever a pass leaves out, its output lies where the tree says. -/
theorem Item.Plans.isLaid (h : root.Plans options t planned) {skipped : List CompileError} :
    ∃ id, (generated root planned.1 (planned.2.filterMap Except.toOption, skipped)).IsLaid root
      options.includeComments id := by
  obtain ⟨hroot, hkind⟩ := h.places
  obtain ⟨-, id, -, hlayout, -⟩ := Layout.ofProject_eq_ok h.layout_eq
  have hperm := List.mergeSort_perm (planned.1.files ++ planned.2.filterMap Except.toOption)
    fun a b => a.path.le b.path
  refine ⟨id, hkind, hroot, ?_, ?_, ?_⟩
  · intro file hfile
    have hmem := hperm.mem_iff.1 hfile
    rw [hlayout, List.mem_append, List.mem_cons] at hmem
    rcases hmem with (rfl | hcomments) | hsource
    · exact ⟨_, _, .marker⟩
    · obtain ⟨hincluded, s, hs, hinside, hwritten, rfl⟩ := (mem_comments_iff hroot).1 hcomments
      exact ⟨_, _, .comments hs hinside hincluded hwritten⟩
    · obtain ⟨outer, name, hlays⟩ := h.exists_lays id hsource
      exact ⟨outer, _, hlays⟩
  · exact (hperm.map _).nodup_iff.2 h.nodup_files
  · intro directory
    show directory ∈ sortDirectories planned.1.directories ↔ _
    rw [(sortDirectories_eq h.nodup_directories).1, List.mem_mergeSort, hlayout]
    exact @Layout.mem_directories_iff root options.includeComments directory

theorem exists_isLaid {p : GeneratedProject} (h : compile root options = .ok p) :
    ∃ id, p.IsLaid root options.includeComments id := by
  obtain ⟨t, planned, -, hplans, rfl⟩ := exists_plans h
  exact hplans.isLaid

/-! ## The output -/

theorem sortFiles_eq_of_perm {files files' : List GeneratedFile} (h : files.Perm files')
    (hnodup : (files.map (·.path.components)).Nodup) : sortFiles files = sortFiles files' :=
  mergeSort_eq_of_perm GeneratedFile.path h hnodup

/-- Files that are related to files with the same paths are sorted like these. -/
theorem forall₂_sortFiles {R : GeneratedFile → GeneratedFile → Prop}
    {files files' : List GeneratedFile} (h : List.Forall₂ R files files')
    (hpath : ∀ file file', R file file' → file'.path = file.path) :
    List.Forall₂ R (sortFiles files) (sortFiles files') := by
  obtain ⟨hlength, hrelated⟩ := List.forall₂_iff_zip.1 h
  -- the pairs are sorted by the path they have in common
  let sorted := (files.zip files').mergeSort fun a b => a.1.path.le b.1.path
  have hfirst : sorted.map Prod.fst = sortFiles files := by
    have hmap := List.map_mergeSort (f := Prod.fst)
      (s := fun a b : GeneratedFile => a.path.le b.path)
      (l := files.zip files') fun a _ b _ => rfl
    rwa [List.map_fst_zip (Nat.le_of_eq hlength)] at hmap
  have hsecond : sorted.map Prod.snd = sortFiles files' := by
    have hkeys : ∀ a ∈ files.zip files', ∀ b ∈ files.zip files',
        a.1.path.le b.1.path = a.2.path.le b.2.path := by
      rintro ⟨a, a'⟩ ha ⟨b, b'⟩ hb
      rw [hpath a a' (hrelated ha), hpath b b' (hrelated hb)]
    have hmap := List.map_mergeSort (f := Prod.snd)
      (s := fun a b : GeneratedFile => a.path.le b.path) hkeys
    rwa [List.map_snd_zip (Nat.le_of_eq hlength.symm)] at hmap
  rw [← hfirst, ← hsecond, List.forall₂_map_left_iff, List.forall₂_map_right_iff]
  refine List.forall₂_same.2 fun pair hpair => ?_
  exact hrelated (List.mem_mergeSort.1 hpair)

theorem sortDirectories_eq_of_perm {directories directories' : List Path}
    (h : directories.Perm directories') (hnodup : (directories.map Path.components).Nodup) :
    sortDirectories directories = sortDirectories directories' := by
  have hsorted : directories.mergeSort Path.le = directories'.mergeSort Path.le :=
    mergeSort_eq_of_perm (fun path => path) h hnodup
  rw [sortDirectories, sortDirectories, hsorted]

end Flowchart
