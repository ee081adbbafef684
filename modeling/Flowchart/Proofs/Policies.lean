import Flowchart.Proofs.Image

set_option autoImplicit false

/-! # The two failure policies

Both policies see the same units and the same results; they differ in what they make of the failures
among them. So a pass that ends with the first failure is known from the one that leaves failures
out, and that one accounts for every unit of the tree: either by its source file or by its error. -/

namespace Flowchart

/-! ## Emission knows no policy -/

namespace Emitter

variable (e : Emitter) (policy : FailurePolicy)

/-- The emitter under another policy. -/
def withPolicy : Emitter := { e with options := { e.options with failurePolicy := policy } }

theorem signature_withPolicy (fullName : String) (items : List Item) :
    (e.withPolicy policy).signature fullName items = e.signature fullName items := by
  induction items with
  | nil => rfl
  | cons item rest ih =>
    simp only [signature, ih]
    rfl

theorem method_withPolicy (function : Item) (fullName : String) (isStatic : Bool) :
    (e.withPolicy policy).method function fullName isStatic
      = e.method function fullName isStatic := by
  simp only [method, signature_withPolicy]
  rfl

theorem members_withPolicy (fullName : String) (items : List Item) :
    (e.withPolicy policy).members fullName items = e.members fullName items := by
  induction items with
  | nil => rfl
  | cons item rest ih =>
    simp only [members, method_withPolicy, ih]
    rfl

theorem publicClass_withPolicy (unit : DeclarationUnit) :
    (e.withPolicy policy).publicClass unit = e.publicClass unit := by
  simp only [publicClass, classOf, functionClass, members_withPolicy, method_withPolicy]
  rfl

theorem emit_withPolicy (unit : DeclarationUnit) :
    (e.withPolicy policy).emit unit = e.emit unit := by
  simp only [emit, publicClass_withPolicy]

end Emitter

/-! ## Results with failures among them -/

section

variable {ε α : Type}

/-- The error of a result that failed. -/
def failure? : Except ε α → Option ε
  | .ok _ => none
  | .error e => some e

theorem mapError_failure? {ε' : Type} (wrap : ε → ε') (x : Except ε α) :
    failure? (x.mapError wrap) = (failure? x).map wrap := by
  cases x with
  | ok a => rfl
  | error e => rfl

/-- Every result is a success or a failure. -/
theorem length_successes_add_length_failures (results : List (Except ε α)) :
    (results.filterMap Except.toOption).length + (results.filterMap failure?).length
      = results.length := by
  induction results with
  | nil => rfl
  | cons result rest ih =>
    cases result with
    | ok a =>
      simp only [List.filterMap_cons, Except.toOption, failure?, List.length_cons]
      omega
    | error e =>
      simp only [List.filterMap_cons, Except.toOption, failure?, List.length_cons]
      omega

end

variable {results : List (Except CompileError GeneratedFile)}

/-- Leaving failures out never fails. -/
theorem collectUnits_skip :
    collectUnits .skipDeclaration results
      = .ok (results.filterMap Except.toOption, results.filterMap failure?) := by
  induction results with
  | nil => rfl
  | cons result rest ih =>
    cases result with
    | ok file =>
      rw [collectUnits, ih]
      rfl
    | error e =>
      rw [collectUnits, ih]
      rfl

/-- Without failures the policies agree, and otherwise the first one ends the pass. -/
theorem collectUnits_abort :
    collectUnits .abort results
      = match results.filterMap failure? with
        | [] => .ok (results.filterMap Except.toOption, [])
        | e :: _ => .error e := by
  induction results with
  | nil => rfl
  | cons result rest ih =>
    cases result with
    | ok file =>
      rw [collectUnits, ih]
      have hfailures : (Except.ok file :: rest).filterMap failure? = rest.filterMap failure? := rfl
      rw [hfailures]
      cases rest.filterMap failure? with
      | nil => rfl
      | cons e others => rfl
    | error e => rfl

/-- What a pass collects are the files and the errors; under the first policy there is no error. -/
theorem collectUnits_eq_ok_iff {policy : FailurePolicy}
    {collected : List GeneratedFile × List CompileError} :
    collectUnits policy results = .ok collected
      ↔ collected = (results.filterMap Except.toOption, results.filterMap failure?)
        ∧ (policy = .abort → results.filterMap failure? = []) := by
  cases policy with
  | skipDeclaration => simp [collectUnits_skip, eq_comm]
  | abort =>
    rw [collectUnits_abort]
    cases results.filterMap failure? with
    | nil => simp [eq_comm]
    | cons e others => simp

/-! ## What comes before the policy -/

/-- The parts of a pass that its policy is applied to: what has been laid out, and what becomes of
    each unit. -/
def plannedUnits (root : Item) (options : Options) :
    Except CompileError (Layout × List (Except CompileError GeneratedFile)) := do
  let table ← SymbolTable.build root
  table.checkEntry options
  let layout ← Layout.ofProject root options.includeComments
  return (layout, layout.units.map (Emitter.emitUnit ⟨table, options⟩))

/-- The output with the given files of units and the errors of the others. -/
def generated (root : Item) (layout : Layout) (collected : List GeneratedFile × List CompileError) :
    GeneratedProject where
  name := root.name
  directories := sortDirectories layout.directories
  files := sortFiles (layout.files ++ collected.1)
  skipped := collected.2

variable {root : Item} {options : Options}

theorem compile_withPolicy (policy : FailurePolicy) :
    compile root { options with failurePolicy := policy }
      = plannedUnits root options >>= fun planned =>
        (collectUnits policy planned.2).map (generated root planned.1) := by
  rw [compile, plannedUnits]
  cases SymbolTable.build root with
  | error e => rfl
  | ok table =>
    have hentry : table.checkEntry { options with failurePolicy := policy }
        = table.checkEntry options := rfl
    simp only [ok_bind, hentry]
    cases table.checkEntry options with
    | error e => rfl
    | ok checked =>
      cases Layout.ofProject root options.includeComments with
      | error e => rfl
      | ok layout =>
        have hunits : layout.units.map
              (Emitter.emitUnit ⟨table, { options with failurePolicy := policy }⟩)
            = layout.units.map (Emitter.emitUnit ⟨table, options⟩) := by
          apply List.map_congr_left
          intro unit _
          exact congrArg (Except.mapError _) (Emitter.emit_withPolicy ⟨table, options⟩ policy unit)
        simp only [ok_bind, hunits]
        show _ = (collectUnits policy (layout.units.map (Emitter.emitUnit ⟨table, options⟩))).map
          (generated root layout)
        cases collectUnits policy (layout.units.map (Emitter.emitUnit ⟨table, options⟩)) with
        | error e => rfl
        | ok collected => rfl

/-- A pass that leaves failures out fails only before it comes to the units. -/
theorem compile_skip :
    compile root { options with failurePolicy := .skipDeclaration }
      = (plannedUnits root options).map fun planned =>
        generated root planned.1
          (planned.2.filterMap Except.toOption, planned.2.filterMap failure?) := by
  simp only [compile_withPolicy, collectUnits_skip]
  cases plannedUnits root options with
  | error e => rfl
  | ok planned => rfl

/-- A pass that ends with the first failure fails with it. -/
theorem compile_abort :
    compile root { options with failurePolicy := .abort }
      = plannedUnits root options >>= fun planned =>
        match planned.2.filterMap failure? with
        | [] => .ok (generated root planned.1 (planned.2.filterMap Except.toOption, []))
        | e :: _ => .error e := by
  simp only [compile_withPolicy, collectUnits_abort]
  cases plannedUnits root options with
  | error e => rfl
  | ok planned =>
    simp only [ok_bind]
    cases planned.2.filterMap failure? with
    | nil => rfl
    | cons e others => rfl

/-! ## What becomes of the units -/

/-- The declarations of a tree that get a file of their own, in the order of the tree. -/
def Item.units (root : Item) : List Symbol :=
  (root.exposed "" none).filter (!·.item.kind.isNamespace)

/-- A layout has the units of the tree. -/
theorem units_of_ofProject {root : Item} {includeComments : Bool} {l : Layout}
    (h : Layout.ofProject root includeComments = .ok l) :
    l.units = root.units.map Symbol.unit := by
  obtain ⟨-, id, -, rfl, -⟩ := Layout.ofProject_eq_ok h
  rfl

/-- A source file, by its name. -/
def GeneratedFile.isSource (file : GeneratedFile) : Bool :=
  ".java".toList.isSuffixOf file.path.text.toList

/-- What a pass that leaves failures out gives back for the units of a tree: a source file for each
    that can be emitted, and the error of each other one. -/
structure GeneratedProject.Accounts (p : GeneratedProject) (root : Item) (e : Emitter) : Prop where
  /-- The units are those that the layout plans. -/
  planned_eq : (Layout.ofProject root e.options.includeComments).map Layout.units
    = .ok (root.units.map Symbol.unit)
  units_nodup : (root.units.map Symbol.fullName).Nodup
  length_eq : (p.files.filter GeneratedFile.isSource).length + p.skipped.length = root.units.length
  /-- The errors come in the order of the tree, each with the name of its unit around it. -/
  skipped_eq : p.skipped = root.units.filterMap fun s =>
    (failure? (e.emit s.unit)).map (.declaration s.fullName)
  /-- The source files are what the units become, each by itself. -/
  mem_sources_iff : ∀ file, (file ∈ p.files ∧ file.isSource = true)
    ↔ ∃ s ∈ root.units, e.emit s.unit = .ok file

theorem Path.suffix_child (base : Path) (name : String) :
    name.toList <:+ (base.child name).text.toList := by
  unfold child join
  split
  · exact List.suffix_rfl
  · split
    · simp
    · simp only [String.toList_append]
      exact List.suffix_append _ _

/-- A file is no source file if its name ends in another way. -/
theorem isSource_eq_false {path : Path} {name contents : String}
    (hends : name.toList <:+ path.text.toList) (hlength : 5 ≤ name.toList.length)
    (hname : ¬ ".java".toList <:+ name.toList) :
    (GeneratedFile.mk path contents).isSource = false := by
  rw [GeneratedFile.isSource, Bool.eq_false_iff, ne_eq, List.isSuffixOf_iff_suffix]
  intro hjava
  exact hname (List.suffix_of_suffix_length_le hjava hends hlength)

theorem Emitter.isSource_of_emit {e : Emitter} {unit : DeclarationUnit} {file : GeneratedFile}
    (h : e.emit unit = .ok file) : file.isSource = true := by
  obtain ⟨hpath, -⟩ := emit_eq_ok h
  rw [GeneratedFile.isSource, List.isSuffixOf_iff_suffix, hpath]
  refine List.IsSuffix.trans ?_ (Path.suffix_child _ _)
  simp

theorem IsSource.isSource {s : Symbol} {file : GeneratedFile} (h : IsSource root s file) :
    file.isSource = true := by
  rw [GeneratedFile.isSource, List.isSuffixOf_iff_suffix, h.path_eq]
  simp [Symbol.sourcePath]

/-- Nothing that is laid out besides the units is a source file. -/
theorem isSource_layout {l : Layout} (h : Layout.ofProject root options.includeComments = .ok l)
    {file : GeneratedFile} (hfile : file ∈ l.files) : file.isSource = false := by
  obtain ⟨-, id, -, rfl, -⟩ := Layout.ofProject_eq_ok h
  rcases List.mem_cons.1 hfile with rfl | hfile
  · refine @isSource_eq_false _ Layout.markerFile _ ?_ (by decide) (by decide)
    have htext : (Path.ofNames [root.name, Layout.markerFile]).text
        = root.name ++ "/" ++ Layout.markerFile := by simp [Path.ofNames]
    rw [htext, String.toList_append]
    exact List.suffix_append _ _
  · simp only [Layout.ofSymbols, List.mem_flatMap, Layout.ofComments] at hfile
    obtain ⟨s, -, hfile⟩ := hfile
    split at hfile
    · rw [List.mem_singleton.1 hfile]
      exact isSource_eq_false (Path.suffix_child _ _) (by decide) (by decide)
    · cases hfile

/-- The source files of an output are the files of its units. -/
theorem filter_isSource_perm {l : Layout}
    (hlayout : Layout.ofProject root options.includeComments = .ok l) {files : List GeneratedFile}
    (hfiles : ∀ file ∈ files, file.isSource = true) :
    ((sortFiles (l.files ++ files)).filter GeneratedFile.isSource).Perm files := by
  have hlaid : l.files.filter GeneratedFile.isSource = [] := by
    rw [List.filter_eq_nil_iff]
    intro file hfile
    rw [isSource_layout hlayout hfile]
    exact Bool.false_ne_true
  have hsorted := (List.mergeSort_perm (l.files ++ files) fun a b => a.path.le b.path).filter
    GeneratedFile.isSource
  rwa [List.filter_append, hlaid, List.nil_append, List.filter_eq_self.2 hfiles] at hsorted

/-- The names of the units are all different. -/
theorem nodup_units {t : SymbolTable} (ht : SymbolTable.build root = .ok t) :
    (root.units.map Symbol.fullName).Nodup := by
  have hlists := SymbolTable.build_eq_ok_iff.1 ht
  have hnames := hlists.names_nodup
  rw [hlists.symbols_eq] at hnames
  exact ((List.filter_sublist.trans Item.exposed_sublist_symbols).map Symbol.fullName).nodup hnames

/-- The output of a pass that leaves failures out accounts for all units. -/
theorem generated_accounts {t : SymbolTable} {l : Layout} (ht : SymbolTable.build root = .ok t)
    (hlayout : Layout.ofProject root options.includeComments = .ok l)
    (hresults : results = l.units.map (Emitter.emitUnit ⟨t, options⟩)) :
    (generated root l (results.filterMap Except.toOption, results.filterMap failure?)).Accounts
      root ⟨t, options⟩ := by
  have hunits := units_of_ofProject hlayout
  have hfiles : ∀ file, file ∈ results.filterMap Except.toOption
      ↔ ∃ s ∈ root.units, Emitter.emit ⟨t, options⟩ s.unit = .ok file := by
    intro file
    rw [hresults, hunits]
    simp only [List.mem_filterMap, List.mem_map, exists_exists_and_eq_and]
    refine exists_congr fun s => and_congr_right fun _ => ?_
    rw [toOption_eq_some]
    exact mapError_eq_ok
  have hsources : ∀ file ∈ results.filterMap Except.toOption, file.isSource = true := by
    intro file hfile
    obtain ⟨s, -, hemit⟩ := (hfiles file).1 hfile
    exact Emitter.isSource_of_emit hemit
  have hperm := filter_isSource_perm hlayout hsources
  exact {
    planned_eq := by
      rw [hlayout]
      exact congrArg Except.ok hunits
    units_nodup := nodup_units ht
    length_eq := by
      have hcount := length_successes_add_length_failures results
      rw [show results.length = root.units.length by simp [hresults, hunits]] at hcount
      rw [← hcount]
      exact congrArg (· + _) hperm.length_eq
    skipped_eq := by
      show results.filterMap failure? = _
      rw [hresults, hunits, List.map_map, List.filterMap_map]
      refine congrArg (List.filterMap · root.units) (funext fun s => ?_)
      exact mapError_failure? _ _
    mem_sources_iff := by
      intro file
      rw [← hfiles, ← hperm.mem_iff, List.mem_filter]
      rfl }

/-- The output of a pass that ends with the first failure accounts for all units, and nothing is
    left out of it. -/
theorem accounts_of_abort {p : GeneratedProject} (habort : options.failurePolicy = .abort)
    (h : compile root options = .ok p) :
    p.skipped = [] ∧ ∃ t, SymbolTable.build root = .ok t ∧ p.Accounts root ⟨t, options⟩ := by
  have hoptions : { options with failurePolicy := .abort } = options := by rw [← habort]
  rw [← hoptions, compile_abort] at h
  obtain ⟨⟨layout, results⟩, hplanned, h⟩ := bind_eq_ok.1 h
  simp only [plannedUnits, bind_eq_ok] at hplanned
  obtain ⟨t, ht, ⟨⟩, -, l, hlayout, hresult⟩ := hplanned
  cases pure_eq_ok.1 hresult
  split at h
  · next hfailures =>
      cases h
      have haccounts := generated_accounts ht hlayout rfl
      rw [hfailures] at haccounts
      exact ⟨rfl, t, ht, haccounts⟩
  · cases h

/-- The two policies are two views of one pass. A pass that leaves failures out accounts for all
    units, and the one that ends with the first failure gives the same output if there is none. -/
theorem compile_policies (root : Item) (options : Options) :
    match compile root { options with failurePolicy := .skipDeclaration } with
    | .error e => compile root { options with failurePolicy := .abort } = .error e
    | .ok p =>
      (compile root { options with failurePolicy := .abort }
        = match p.skipped with
          | [] => .ok p
          | e :: _ => .error e)
      ∧ ∃ t, SymbolTable.build root = .ok t ∧ p.Accounts root ⟨t, options⟩ := by
  rw [compile_skip, compile_abort]
  cases hplanned : plannedUnits root options with
  | error e => rfl
  | ok planned =>
    obtain ⟨layout, results⟩ := planned
    simp only [Except.map, ok_bind]
    constructor
    · show _ = match results.filterMap failure? with
        | [] => _
        | e :: _ => _
      cases hfailures : results.filterMap failure? with
      | nil => rfl
      | cons e others => rfl
    · simp only [plannedUnits, bind_eq_ok] at hplanned
      obtain ⟨t, ht, ⟨⟩, -, l, hlayout, hresult⟩ := hplanned
      cases pure_eq_ok.1 hresult
      exact ⟨t, ht, generated_accounts ht hlayout rfl⟩

end Flowchart
