import Flowchart.Proofs.Lookup
import Flowchart.Proofs.Readability
import Flowchart.Proofs.Scanners

set_option autoImplicit false

/-! # Names that are declared

Generated code refers to some names without qualification: the name of the project in front of
static members, a few classes of the library, the scanner, and the exception that is caught around
reading input. No declaration of the output hides one of them, and no two declarations of one scope
have the same name. -/

namespace Flowchart

/-! ## Harmless names -/

namespace Java

/-- A name that can be declared without hiding a name that all generated code relies on. -/
structure IsFree (name : String) : Prop where
  isIdentifier : isIdentifier name = true
  not_reserved : name ∉ ["System", "String", "Double", "Objects", "Exception", "java", "STDIN",
    "inputError"]

/-- A name that can be declared inside a project without hiding the project either. -/
structure IsHarmless (project name : String) : Prop extends IsFree name where
  ne_project : name ≠ project

end Java

open Java (IsFree IsHarmless)

theorem Item.isFree_of_checkName {item : Item} {project : String}
    (h : item.checkName project = .ok ()) : IsFree item.name where
  isIdentifier := Item.isIdentifier_of_checkName h
  not_reserved := (Item.declarable_of_checkName h).not_reserved

theorem Item.isHarmless_of_checkName {item : Item} {project : String}
    (h : item.checkName project = .ok ()) (hkind : item.kind ≠ .project) :
    IsHarmless project item.name where
  toIsFree := Item.isFree_of_checkName h
  ne_project := Item.name_ne_of_checkName h hkind

/-! ## Names of children -/

/-- The children of a symbol are among the symbols of its tree, in order. -/
theorem Item.children_sublist_symbols {item : Item} {parent : String}
    {parentKind : Option ItemKind} {s : Symbol} (h : s ∈ item.symbols parent parentKind) :
    (s.item.children.map s.child).Sublist (item.symbols parent parentKind) := by
  induction item using Item.induction generalizing parent parentKind with
  | h item ih =>
    rw [symbols_eq] at h ⊢
    refine List.Sublist.cons _ ?_
    rcases List.mem_cons.1 h with rfl | h
    · -- each child is the first symbol of its own tree
      rw [List.map_eq_flatMap]
      refine List.Sublist.flatMap_right _ fun child hchild => ?_
      rw [symbols_eq]
      exact List.singleton_sublist.2 List.mem_cons_self
    · obtain ⟨child, hchild, h⟩ := List.mem_flatMap.1 h
      exact (ih child hchild h).trans (List.sublist_flatten_of_mem (List.mem_map_of_mem hchild))

/-- No two children of one item have the same name. -/
theorem SymbolTable.Lists.nodup_childNames {t : SymbolTable} {root : Item} (h : t.Lists root)
    {s : Symbol} (hs : s ∈ t.symbols) : (s.item.children.map (·.name)).Nodup := by
  rw [h.symbols_eq] at hs
  have hnames := h.symbols_eq ▸ h.names_nodup
  have hchildren := hnames.sublist ((Item.children_sublist_symbols hs).map Symbol.fullName)
  rw [List.map_map] at hchildren
  refine List.Nodup.of_map (FullName.join s.fullName) ?_
  rwa [List.map_map]

/-- Of children with different names, those of one kind and those of another one have different
    names. -/
theorem Item.nodup_names_of_kinds {items : List Item} (h : (items.map (·.name)).Nodup)
    {kind other : ItemKind} (hne : kind ≠ other) :
    ((items.filter (·.kind = kind)).map (·.name)
      ++ (items.filter (·.kind = other)).map (·.name)).Nodup := by
  have hpart : ∀ k : ItemKind, ((items.filter (·.kind = k)).map (·.name)).Nodup :=
    fun k => h.sublist (List.filter_sublist.map _)
  refine List.nodup_append.2 ⟨hpart kind, hpart other, ?_⟩
  rintro _ hfirst _ hsecond rfl
  obtain ⟨first, hfirst, hname⟩ := List.mem_map.1 hfirst
  obtain ⟨second, hsecond, hname'⟩ := List.mem_map.1 hsecond
  obtain ⟨hfirst, hkind⟩ := List.mem_filter.1 hfirst
  obtain ⟨hsecond, hkind'⟩ := List.mem_filter.1 hsecond
  obtain rfl := List.inj_on_of_nodup_map h hfirst hsecond (hname.trans hname'.symm)
  exact hne ((of_decide_eq_true hkind).symm.trans (of_decide_eq_true hkind'))

/-! ## Names that statements declare -/

namespace JavaStmt

mutual

/-- The names of the locals that a statement declares, at any depth of its branches. -/
def localNames : JavaStmt → List String
  | .localVariable _ name _ => [name]
  | .ifElse _ thenBranch none => localNamesAll thenBranch
  | .ifElse _ thenBranch (some elseBranch) =>
    localNamesAll thenBranch ++ localNamesAll elseBranch
  | .expression _ | .assign _ _ | .return _ | .print _ | .readInput _ _ _ => []

/-- The names of the locals that several statements declare. -/
def localNamesAll : List JavaStmt → List String
  | [] => []
  | s :: rest => s.localNames ++ localNamesAll rest

end

theorem localNamesAll_eq_flatMap (body : List JavaStmt) :
    localNamesAll body = body.flatMap localNames := by
  induction body with
  | nil => rfl
  | cons s rest ih => rw [localNamesAll, ih, List.flatMap_cons]

@[simp]
theorem localNamesAll_append (first second : List JavaStmt) :
    localNamesAll (first ++ second) = localNamesAll first ++ localNamesAll second := by
  simp only [localNamesAll_eq_flatMap, List.flatMap_append]

@[simp]
theorem localNamesAll_singleton (s : JavaStmt) : localNamesAll [s] = s.localNames := by
  rw [localNamesAll, localNamesAll, List.append_nil]

end JavaStmt

namespace FlowGraph

variable {g : FlowGraph}

theorem Acts.localNames_eq {b : Block} {statement : JavaStmt} (h : g.Acts b statement) :
    statement.localNames = [] := by
  cases h with
  | call kind value => rfl
  | assignment kind target value => rfl
  | output kind value => rfl
  | input kind read =>
    obtain ⟨v, type, method, fallback, -, -, -, -, rfl⟩ := readStatement_eq_ok_iff.1 read
    rfl

/-- Blocks declare nothing. -/
theorem Walked.localNames_eq {path : List Uuid} {node : g.Node} {body : Body}
    (h : Walked path node body) : JavaStmt.localNamesAll body.statements = [] := by
  induction h with
  | stop fresh kind result =>
    obtain ⟨value, rfl, -⟩ := returnStatement_eq_ok_iff.1 result
    rfl
  | step fresh not_stop not_decision head_eq next_eq walked ih =>
    rcases (head_eq_ok_iff not_stop not_decision).1 head_eq with
      ⟨-, rfl⟩ | ⟨statement, rfl, acts⟩
    · exact ih
    · rw [JavaStmt.localNamesAll_append, ih, List.append_nil, Option.toList_some,
        JavaStmt.localNamesAll_singleton, acts.localNames_eq]
  | both fresh kind condition_eq branches_eq thenWalked elseWalked ihThen ihElse =>
    rw [JavaStmt.localNamesAll_singleton, JavaStmt.localNames, ihThen, ihElse]
    rfl
  | onlyRight fresh kind condition_eq branches_eq thenWalked ih =>
    rw [JavaStmt.localNamesAll_singleton, JavaStmt.localNames, ih]
  | onlyLeft fresh kind condition_eq branches_eq elseWalked ih =>
    rw [JavaStmt.localNamesAll_singleton, JavaStmt.localNames, ih]
    rfl

end FlowGraph

/-! ## Methods -/

/-- The names of the parameters and locals of a method. -/
def JavaMethod.variableNames (m : JavaMethod) : List String :=
  m.parameters.map (·.name) ++ JavaStmt.localNamesAll m.body

namespace Emitter

variable {e : Emitter} {project fullName : String} {function : Item} {isStatic : Bool}
  {signature : Signature} {body : Body} {m : JavaMethod}

/-- The parameters and locals of a function, in this order. -/
theorem Signature.IsOf.names_eq {items : List Item} (h : signature.IsOf e fullName items) :
    signature.parameters.map (·.name) = (items.filter (·.kind = .parameter)).map (·.name)
      ∧ JavaStmt.localNamesAll signature.locals
        = (items.filter (·.kind = .variable)).map (·.name) := by
  refine ⟨map_eq_of_forall₂ h.parameters_forall₂ fun child p hparameter => hparameter.2, ?_⟩
  have hnames : signature.locals.map JavaStmt.localNames
      = (items.filter (·.kind = .variable)).map ([·.name]) := by
    refine map_eq_of_forall₂ h.locals_forall₂ ?_
    rintro child _ ⟨type, initializer, -, rfl⟩
    rfl
  rw [JavaStmt.localNamesAll_eq_flatMap, List.flatMap_def, hnames, ← List.flatMap_def,
    List.map_eq_flatMap]

/-- The variables of a method are the parameters and locals of its function. -/
theorem IsMethodOf.variableNames_eq
    (h : e.IsMethodOf function fullName isStatic signature body m) :
    m.variableNames = (function.children.filter (·.kind = .parameter)).map (·.name)
      ++ (function.children.filter (·.kind = .variable)).map (·.name) := by
  obtain ⟨g, -, start, -, hwalked⟩ := FlowGraph.functionBody_eq_ok_iff.1 h.functionBody_eq
  obtain ⟨hparameters, hlocals⟩ := h.signature_isOf.names_eq
  rw [JavaMethod.variableNames, h.parameters_eq, h.body_eq, JavaStmt.localNamesAll_append,
    hwalked.localNames_eq, List.append_nil, hparameters, hlocals]

theorem IsMethodOf.isHarmless_of_mem
    (h : e.IsMethodOf function fullName isStatic signature body m)
    (hproject : FullName.project fullName = project) {name : String}
    (hname : name ∈ m.variableNames) : IsHarmless project name := by
  rw [h.variableNames_eq, ← List.map_append] at hname
  obtain ⟨child, hchild, rfl⟩ := List.mem_map.1 hname
  have hmem : child ∈ function.children := by
    rcases List.mem_append.1 hchild with hchild | hchild
    · exact (List.mem_filter.1 hchild).1
    · exact (List.mem_filter.1 hchild).1
  have hchecked := h.signature_isOf.checked child hmem
  have hassignable := h.signature_isOf.assignable child hmem
  rw [hproject] at hchecked
  refine Item.isHarmless_of_checkName hchecked fun hkind => ?_
  rw [hkind] at hassignable
  cases hassignable

end Emitter

/-! ## Classes -/

/-- What a class declares: the scanner, the fields and methods of the user, and the method that a
    program starts with. All names but the generated ones are harmless, those of fields and methods
    are different, and so are those of the variables of one method. -/
structure JavaClass.Declares (c : JavaClass) (project : String) (scanner? : Option JavaField)
    (fields : List JavaField) (methods : List JavaMethod) (main? : Option JavaMethod) : Prop where
  fields_eq : c.fields = scanner?.toList ++ fields
  methods_eq : c.methods = methods ++ main?.toList
  scanner : ∀ field, scanner? = some field → field.IsScanner
  main : ∀ m, main? = some m → m.IsMain ∧ JavaStmt.localNamesAll m.body = []
  name : IsHarmless project c.name
  member : ∀ name ∈ fields.map (·.name) ++ methods.map (·.name), IsHarmless project name
  nodup : (fields.map (·.name) ++ methods.map (·.name)).Nodup
  «variable» : ∀ m ∈ methods, ∀ name ∈ m.variableNames, IsHarmless project name
  nodup_variables : ∀ m ∈ methods, m.variableNames.Nodup

namespace Emitter

variable {e : Emitter} {unit : DeclarationUnit} {project : String} {fields : List JavaField}
  {results : List (JavaMethod × Bool)} {entry : List JavaMethod} {c : JavaClass}

/-- The names of the members of a unit are different if those of its children are. -/
theorem nodup_memberNames (hnames : (unit.item.children.map (·.name)).Nodup) :
    ((unit.membersOfKind .variable).map (·.1.name)
      ++ (unit.membersOfKind .function).map (·.1.name)).Nodup := by
  by_cases hclass : unit.item.kind = .classItem
  · simp only [DeclarationUnit.membersOfKind_class hclass, List.map_map]
    exact Item.nodup_names_of_kinds hnames (by decide)
  · -- the only member is the item of the unit itself
    simp only [DeclarationUnit.membersOfKind, if_neg hclass]
    cases unit.item.kind with
    | «variable» | function | project | package | classItem | parameter => simp

/-- The fields and methods of a class have the names of its members. -/
theorem IsClassOf.names_eq (h : e.IsClassOf unit fields results entry c) :
    fields.map (·.name) = (unit.membersOfKind .variable).map (·.1.name)
      ∧ (results.map Prod.fst).map (·.name) = (unit.membersOfKind .function).map (·.1.name) := by
  rw [List.map_map]
  refine ⟨map_eq_of_forall₂ h.fields_forall₂ fun member f hfield => ?_,
    map_eq_of_forall₂ h.results_forall₂ fun member result hmethod => ?_⟩
  · obtain ⟨type, initializer, -, rfl⟩ := field_eq_ok_iff.1 hfield
    rfl
  · obtain ⟨signature, body, hof, -⟩ := method_eq_ok hmethod
    exact hof.name_eq

/-- The members of a unit can be declared if the unit can. -/
theorem IsClassOf.isHarmless_of_mem (h : e.IsClassOf unit fields results entry c)
    (hunit : IsHarmless project unit.item.name)
    (hproject : FullName.project unit.fullName = project) {kind : ItemKind}
    (hkind : kind ≠ .project) {member : Item × String}
    (hmember : member ∈ unit.membersOfKind kind) :
    IsHarmless project member.1.name := by
  obtain ⟨rfl, ⟨hclass, hchild, -⟩ | ⟨-, rfl⟩⟩ := DeclarationUnit.mem_membersOfKind_iff.1 hmember
  · have hchecked := h.checked hclass _ hchild
    rw [hproject] at hchecked
    exact Item.isHarmless_of_checkName hchecked hkind
  · exact hunit

/-- What is added to the methods of a unit is the method that a program starts with, if anything. -/
theorem IsClassOf.exists_main (h : e.IsClassOf unit fields results entry c) :
    ∃ main? : Option JavaMethod, entry = main?.toList
      ∧ ∀ m, main? = some m → m.IsMain ∧ JavaStmt.localNamesAll m.body = []
        ∧ unit.item.kind = .function ∧ e.options.entryFunction = some unit.fullName := by
  by_cases hkind : unit.item.kind = .function
  · have hentry := h.entry_eq hkind
    rw [entryMethods] at hentry
    split at hentry
    · next hname =>
        obtain ⟨main, hmain, hentry⟩ := bind_eq_ok.1 hentry
        obtain ⟨hisMain, -, es, -, hbody⟩ := EntryPoint.mainMethod_eq_ok hmain
        refine ⟨some main, (pure_eq_ok.1 hentry).symm, ?_⟩
        rintro m ⟨⟩
        exact ⟨hisMain, by rw [hbody]; rfl, hkind, hname⟩
    · cases hentry
      exact ⟨none, rfl, by simp⟩
  · exact ⟨none, h.no_entry hkind, by simp⟩

/-- A member of a symbol in the table has children with different names, and a full name in the
    same project. -/
theorem nodup_children_of_member {t : SymbolTable} {root : Item} (ht : t.Lists root) {s : Symbol}
    (hs : s ∈ t.symbols) (hne : s.fullName ≠ "") {kind : ItemKind} {member : Item × String}
    (hmember : member ∈ s.unit.membersOfKind kind) :
    (member.1.children.map (·.name)).Nodup
      ∧ FullName.project member.2 = FullName.project s.fullName := by
  obtain ⟨-, ⟨-, hchild, hname⟩ | ⟨-, rfl⟩⟩ := DeclarationUnit.mem_membersOfKind_iff.1 hmember
  · rw [hname]
    exact ⟨ht.nodup_childNames (ht.exists_child hs hchild), FullName.project_join hne⟩
  · exact ⟨ht.nodup_childNames hs, rfl⟩

/-- The class of a unit declares different names, and harmless ones if that of the unit is. -/
theorem exists_declares {root : Item} (ht : e.table.Lists root) {s : Symbol}
    (hs : s ∈ e.table.symbols) (hname : IsHarmless project s.item.name)
    (hne : s.fullName ≠ "") (hproject : FullName.project s.fullName = project)
    (h : e.publicClass s.unit = .ok c) :
    ∃ scanner? fields methods main?, c.Declares project scanner? fields methods main?
      ∧ ∀ m, main? = some m →
        s.item.kind = .function ∧ e.options.entryFunction = some s.fullName := by
  obtain ⟨fields, results, entry, hclass⟩ := publicClass_eq_ok h
  obtain ⟨main?, rfl, hmain⟩ := hclass.exists_main
  obtain ⟨hfields, hmethods⟩ := hclass.names_eq
  have hmethod : ∀ m ∈ results.map Prod.fst, (∀ name ∈ m.variableNames, IsHarmless project name)
      ∧ m.variableNames.Nodup := by
    intro m hm
    obtain ⟨result, hresult, rfl⟩ := List.mem_map.1 hm
    obtain ⟨member, hmember, hmade⟩ := exists_left_of_forall₂ hclass.results_forall₂ hresult
    obtain ⟨signature, body, hof, -⟩ := method_eq_ok hmade
    obtain ⟨hnames, hsame⟩ := nodup_children_of_member ht hs hne hmember
    refine ⟨fun name hname => hof.isHarmless_of_mem (hsame.trans hproject) hname, ?_⟩
    rw [hof.variableNames_eq]
    exact Item.nodup_names_of_kinds hnames (by decide)
  refine ⟨if results.any Prod.snd then some scannerField else none, fields, results.map Prod.fst,
    main?, ?_, fun m hm => (hmain m hm).2.2⟩
  exact {
    fields_eq := by
      rw [hclass.fields_eq, scannerFields]
      split <;> rfl
    methods_eq := hclass.methods_eq
    scanner := fun field hfield => by
      obtain ⟨-, hscanner⟩ := Option.ite_none_right_eq_some.1 hfield
      rw [← Option.some_inj.1 hscanner]
      exact isScanner_scannerField
    main := fun m hm => ⟨(hmain m hm).1, (hmain m hm).2.1⟩
    name := by
      rw [hclass.name_eq]
      exact hname
    member := by
      intro name hmem
      rw [hfields, hmethods] at hmem
      rcases List.mem_append.1 hmem with hmem | hmem
      · obtain ⟨member, hmember, rfl⟩ := List.mem_map.1 hmem
        exact hclass.isHarmless_of_mem hname hproject (by decide) hmember
      · obtain ⟨member, hmember, rfl⟩ := List.mem_map.1 hmem
        exact hclass.isHarmless_of_mem hname hproject (by decide) hmember
    nodup := by
      rw [hfields, hmethods]
      exact nodup_memberNames (ht.nodup_childNames hs)
    «variable» := fun m hm => (hmethod m hm).1
    nodup_variables := fun m hm => (hmethod m hm).2 }

end Emitter

/-! ## The output -/

/-- A file of the output that is not a source file has no declarations in it; a source file lies
    where its package says and is called like its class. -/
inductive GeneratedFile.DeclaresIn (file : GeneratedFile) (root : Item) (e : Emitter)
    (names : List String) : Prop
  | marker (name_eq : file.path.fileName? = some "id.txt")
  | comments (name_eq : file.path.fileName? = some "comments.html")
  | source {s : Symbol} {c : JavaClass} {scanner? : Option JavaField} {fields : List JavaField}
      {methods : List JavaMethod} {main? : Option JavaMethod} (mem : s ∈ root.units)
      (class_eq : e.publicClass s.unit = .ok c) (file_eq : file = s.unit.file c)
      (name_eq : file.path.fileName? = some (c.name ++ ".java"))
      (package_eq : FullName.segments s.unit.package = names)
      (declares : c.Declares root.name scanner? fields methods main?)
      (entry : ∀ m, main? = some m →
        s.item.kind = .function ∧ e.options.entryFunction = some s.fullName)

/-- The output of a pass hides no name that its code relies on. -/
structure GeneratedProject.HidesNothing (p : GeneratedProject) (root : Item) (e : Emitter) :
    Prop where
  project : IsFree root.name
  /-- A directory is that of the project, or below it under harmless names. -/
  directory : ∀ path ∈ p.directories, ∃ inner, path.components = (root.name :: inner).map .normal
    ∧ ∀ name ∈ inner, IsHarmless root.name name
  /-- A file lies in one of the directories. -/
  file : ∀ file ∈ p.files, ∃ path ∈ p.directories, ∃ names,
    file.path.parent? = some path ∧ path.components = names.map .normal
      ∧ file.DeclaresIn root e names

section

variable {root : Item} {options : Options} {p : GeneratedProject} {includeComments : Bool}
  {l : Layout} {s : Symbol}

/-- What is exposed inside something else can be declared in the project. -/
theorem isHarmless_of_isChild (hl : Layout.ofProject root includeComments = .ok l)
    (hs : root.Exposes s) {outer : Symbol} (hchild : s.IsChild outer) :
    IsHarmless root.name s.item.name := by
  rcases Layout.declared_of_ofProject hl hs with rfl | ⟨hname, hkind⟩
  · cases hchild.parentKind_eq
  · exact Item.isHarmless_of_checkName hname hkind

/-- The full name of something exposed starts with the name of the project, and goes on with
    harmless names. -/
theorem exists_harmless_segments (hroot : root.HasPlaces)
    (hl : Layout.ofProject root includeComments = .ok l) (hs : root.Exposes s) :
    ∃ inner, FullName.segments s.fullName = root.name :: inner
      ∧ ∀ name ∈ inner, IsHarmless root.name name := by
  induction hs with
  | root =>
    have hname := (hroot.placed .root).isIdentifier
    exact ⟨[], (FullName.Spells.singleton hname).segments_eq, by simp⟩
  | @child outer s exposed inside isChild ih =>
    obtain ⟨inner, hinner, hharmless⟩ := ih
    have hs : root.Exposes s := .child exposed inside isChild
    refine ⟨inner ++ [s.item.name], ?_, List.forall_mem_append.2 ⟨hharmless, ?_⟩⟩
    · rw [hroot.segments_child exposed hs isChild, hinner, List.cons_append]
    · rw [List.forall_mem_singleton]
      exact isHarmless_of_isChild hl hs isChild

theorem project_fullName (hroot : root.HasPlaces) (hs : root.Exposes s) :
    FullName.project s.fullName = root.name := by
  induction hs with
  | root => exact FullName.project_eq_self (Java.dot_not_mem (hroot.placed .root).isIdentifier)
  | child exposed inside isChild ih =>
    rw [isChild.fullName_eq, FullName.project_join (hroot.placed exposed).spells.ne_empty, ih]

/-- Whatever the policy is, nothing that a pass declares hides a name its code relies on, and
    nothing is declared twice in one scope. -/
theorem compile_hidesNothing (h : compile root options = .ok p) :
    ∃ t, SymbolTable.build root = .ok t ∧ p.HidesNothing root ⟨t, options⟩ := by
  obtain ⟨t, ht, -, haccounts⟩ := exists_accounts h
  obtain ⟨id, hlaid⟩ := exists_isLaid h
  obtain ⟨l, hl, -⟩ := map_eq_ok.1 haccounts.planned_eq
  have hlists := SymbolTable.build_eq_ok_iff.1 ht
  have hroot := hlaid.places
  refine ⟨t, ht, ?_, ?_, ?_⟩
  · exact Item.isFree_of_checkName (Layout.checkName_of_ofProject hl .root)
  · intro path hpath
    obtain ⟨s, hs, -, rfl⟩ := hlaid.mem_directories_iff.1 hpath
    obtain ⟨inner, hinner, hharmless⟩ := exists_harmless_segments hroot hl hs
    exact ⟨inner, by rw [hroot.components_directory hs, hinner], hharmless⟩
  · intro file hfile
    obtain ⟨outer, name, hlays⟩ := hlaid.exists_lays hfile
    obtain ⟨houter, hinside, hname, hpath⟩ := hlays.place hroot hlaid.kind
    have hfileName := hlays.fileName?_eq hroot hlaid.kind
    refine ⟨outer.directory, hlaid.mem_directories_iff.2 ⟨outer, houter, hinside, rfl⟩,
      FullName.segments outer.fullName, ?_, hroot.components_directory houter, ?_⟩
    · rw [hpath, hroot.parent?_fileIn houter hname]
    · cases hlays with
      | marker => exact .marker hfileName
      | comments => exact .comments hfileName
      | @source s outer file exposed leaf around inside isChild isSource =>
        have hs := mem_units_iff.2 ⟨exposed, leaf⟩
        obtain ⟨c, hclass, rfl⟩ :=
          Emitter.emit_eq_ok_iff.1 (haccounts.emit_eq hlaid hs hfile isSource)
        obtain ⟨scanner?, fields, methods, main?, hdeclares, hentry⟩ :=
          Emitter.exists_declares hlists (mem_symbols_of_units hlists hs)
            (isHarmless_of_isChild hl exposed isChild) (hroot.placed exposed).spells.ne_empty
            (project_fullName hroot exposed) hclass
        refine .source hs hclass rfl ?_ ?_ hdeclares hentry
        · rw [hfileName, Emitter.publicClass_name hclass]
          rfl
        · rw [Symbol.unit, hroot.parent_eq houter exposed isChild]

end

/-! ## Generated and declared names side by side -/

/-- In the class of the entry function the method of the function, with its parameters and its
    local, stands beside the one that the program starts with. -/
theorem greeter_hidesNothing :
    ∃ p c, compile greeter greeterOptions = .ok p
      ∧ p.HidesNothing greeter ⟨greeterTable, greeterOptions⟩
      ∧ Emitter.publicClass ⟨greeterTable, greeterOptions⟩ greeterSymbol.unit = .ok c
      ∧ greeterSymbol.unit.file c ∈ p.files
      ∧ (∃ m ∈ c.methods, m.name = "greet" ∧ m.variableNames = ["name", "loud", "times"])
      ∧ ∃ m ∈ c.methods, m.IsMain := by
  obtain ⟨p, hp⟩ := greeter_compiles
  obtain ⟨t, ht, hhides⟩ := compile_hidesNothing hp
  rw [greeter_build] at ht
  cases ht
  obtain ⟨t, ht, -, haccounts⟩ := exists_accounts hp
  rw [greeter_build] at ht
  cases ht
  obtain ⟨file, hfile⟩ := greeter_emits
  obtain ⟨c, hc, rfl⟩ := Emitter.emit_eq_ok_iff.1 hfile
  have hunits : greeterSymbol ∈ greeter.units := List.mem_cons_self
  obtain ⟨fields, results, entry, hclass⟩ := Emitter.publicClass_eq_ok hc
  refine ⟨p, c, hp, hhides, hc, ((haccounts.mem_sources_iff _).2 ⟨_, hunits, hfile⟩).1, ?_, ?_⟩
  · have hmember : (greeterGreet, "Demo.greet") ∈ greeterSymbol.unit.membersOfKind .function :=
      List.mem_cons_self
    obtain ⟨result, hresult, hmade⟩ := exists_right_of_forall₂ hclass.results_forall₂ hmember
    obtain ⟨signature, body, hof, -⟩ := Emitter.method_eq_ok hmade
    refine ⟨result.1, ?_, hof.name_eq, hof.variableNames_eq⟩
    rw [hclass.methods_eq]
    exact List.mem_append_left _ (List.mem_map_of_mem hresult)
  · obtain ⟨main, hmain⟩ := greeter_main
    obtain ⟨hmem, hisMain⟩ := hclass.mem_main_iff.2 ⟨rfl, rfl, hmain⟩
    exact ⟨main, hmem, hisMain⟩

end Flowchart
