import Flowchart.Proofs.Names
import Flowchart.Proofs.Paths
import Mathlib.Data.List.Flatten

set_option autoImplicit false

/-! # What a layout lays out

An item is exposed if there is nothing around it but packages and the project. The layout of a
project is the image of its exposed items, in the order of the tree: a directory for each package
and the project, and a unit for everything else. -/

namespace Flowchart

/-! ## Exposed symbols -/

/-- A symbol of a tree that has only namespaces around it. -/
inductive Item.Exposes (root : Item) : Symbol → Prop
  | root : Exposes root ⟨root, root.name, none⟩
  | child {outer s : Symbol} (exposed : Exposes root outer)
      (inside : outer.item.kind.isNamespace = true) (isChild : s.IsChild outer) : Exposes root s

mutual

/-- The exposed symbols of a tree, parents before children. -/
def Item.exposed (parent : String) (parentKind : Option ItemKind) : Item → List Symbol
  | { name, kind, id, comments, children, typeName, returnType, blocks } =>
    let fullName := FullName.join parent name
    { item := { name, kind, id, comments, children, typeName, returnType, blocks }
      fullName, parentKind } ::
      if kind.isNamespace then Item.exposedAll fullName kind children else []

/-- The exposed symbols of several trees with the same parent. -/
def Item.exposedAll (parent : String) (parentKind : ItemKind) : List Item → List Symbol
  | [] => []
  | item :: rest =>
    item.exposed parent (some parentKind) ++ Item.exposedAll parent parentKind rest

end

namespace Item

variable {item : Item} {parent : String} {parentKind : Option ItemKind} {s : Symbol}

theorem exposedAll_eq_flatMap (parent : String) (kind : ItemKind) (items : List Item) :
    exposedAll parent kind items = items.flatMap (·.exposed parent (some kind)) := by
  induction items with
  | nil => rfl
  | cons item rest ih => rw [exposedAll, ih, List.flatMap_cons]

theorem exposed_eq (parent : String) (parentKind : Option ItemKind) (item : Item) :
    item.exposed parent parentKind
      = ⟨item, FullName.join parent item.name, parentKind⟩ ::
        if item.kind.isNamespace then
          item.children.flatMap (·.exposed (FullName.join parent item.name) (some item.kind))
        else [] := by
  rw [← exposedAll_eq_flatMap]
  cases item
  rfl

theorem exposed_namespace (h : item.kind.isNamespace = true) :
    item.exposed parent parentKind
      = ⟨item, FullName.join parent item.name, parentKind⟩
        :: item.children.flatMap (·.exposed (FullName.join parent item.name) (some item.kind)) := by
  rw [exposed_eq, if_pos h]

theorem exposed_leaf (h : item.kind.isNamespace = false) :
    item.exposed parent parentKind = [⟨item, FullName.join parent item.name, parentKind⟩] := by
  rw [exposed_eq, h]
  rfl

/-- The exposed symbols are some of all symbols, in the same order. -/
theorem exposed_sublist_symbols :
    (item.exposed parent parentKind).Sublist (item.symbols parent parentKind) := by
  induction item using Item.induction generalizing parent parentKind with
  | h item ih =>
    rw [exposed_eq, symbols_eq]
    refine List.Sublist.cons_cons _ ?_
    split
    · exact List.Sublist.flatMap_right _ fun child hchild => ih child hchild
    · exact List.nil_sublist _

theorem Exposes.of_mem {root : Item} (h : s ∈ item.exposed parent parentKind)
    (hitem : root.Exposes ⟨item, FullName.join parent item.name, parentKind⟩) : root.Exposes s := by
  induction item using Item.induction generalizing parent parentKind with
  | h item ih =>
    rw [exposed_eq] at h
    rcases List.mem_cons.1 h with rfl | h
    · exact hitem
    · split at h
      · next hnamespace =>
          obtain ⟨child, hchild, h⟩ := List.mem_flatMap.1 h
          exact ih child hchild h (.child hitem hnamespace ⟨hchild, rfl, rfl⟩)
      · cases h

/-- The children of an exposed namespace are exposed. -/
theorem exposed_of_child (h : s ∈ item.exposed parent parentKind)
    (hnamespace : s.item.kind.isNamespace = true) {child : Item}
    (hchild : child ∈ s.item.children) :
    ⟨child, FullName.join s.fullName child.name, some s.item.kind⟩
      ∈ item.exposed parent parentKind := by
  induction item using Item.induction generalizing parent parentKind with
  | h item ih =>
    rw [exposed_eq] at h ⊢
    apply List.mem_cons_of_mem
    rcases List.mem_cons.1 h with rfl | h
    · rw [if_pos hnamespace]
      refine List.mem_flatMap.2 ⟨child, hchild, ?_⟩
      rw [exposed_eq]
      exact List.mem_cons_self
    · split at h
      · next hitem =>
          rw [if_pos hitem]
          obtain ⟨other, hother, h⟩ := List.mem_flatMap.1 h
          exact List.mem_flatMap.2 ⟨other, hother, ih other hother h⟩
      · cases h

/-- The list of the exposed symbols is complete. -/
theorem mem_exposed_iff {root : Item} : s ∈ root.exposed "" none ↔ root.Exposes s := by
  constructor
  · intro h
    exact .of_mem h .root
  · intro h
    induction h with
    | root =>
      rw [exposed_eq]
      exact List.mem_cons_self
    | @child outer s _ inside isChild ih =>
      have hmem := exposed_of_child ih inside isChild.mem
      rw [← isChild.fullName_eq, ← isChild.parentKind_eq] at hmem
      exact hmem

end Item

theorem SymbolTable.Lists.mem_of_exposes {t : SymbolTable} {root : Item} (ht : t.Lists root)
    {s : Symbol} (h : root.Exposes s) : s ∈ t.symbols := by
  rw [ht.symbols_eq]
  exact Item.exposed_sublist_symbols.subset (Item.mem_exposed_iff.2 h)

/-! ## Symbols with their places -/

/-- An identifier is a single step of a path. -/
theorem Path.IsStep.of_isIdentifier {name : String} (h : Java.isIdentifier name = true) :
    Path.IsStep name where
  slash_not_mem := Java.slash_not_mem h
  ne_empty := Java.isIdentifier_ne_empty h
  ne_current := by
    rintro rfl
    exact Java.dot_not_mem h (by decide)
  ne_parent := by
    rintro rfl
    exact Java.dot_not_mem h (by decide)

namespace Symbol

variable {s : Symbol}

/-- The directory of a project or package. -/
def directory (s : Symbol) : Path := Path.ofNames (FullName.segments s.fullName)

/-- The unit of a declaration. -/
def unit (s : Symbol) : DeclarationUnit where
  item := s.item
  fullName := s.fullName
  package := FullName.parent s.fullName
  directory := Path.ofNames (FullName.segments (FullName.parent s.fullName))

/-- A symbol whose place in the output its full name tells: it has an identifier for a name, its
    full name is made of identifiers, and it is something that has a place. -/
structure IsPlaced (s : Symbol) : Prop where
  spells : FullName.Spells s.fullName (FullName.segments s.fullName)
  isIdentifier : Java.isIdentifier s.item.name = true
  not_parameter : s.item.kind ≠ .parameter

theorem IsPlaced.of_spells {names : List String} (hspells : FullName.Spells s.fullName names)
    (hidentifier : Java.isIdentifier s.item.name = true) (hkind : s.item.kind ≠ .parameter) :
    s.IsPlaced where
  spells := by rwa [hspells.segments_eq]
  isIdentifier := hidentifier
  not_parameter := hkind

variable {parent : String} {names : List String} {item : Item} {parentKind : Option ItemKind}

/-- The unit of an item lies in the directory of what it is declared in. -/
theorem unit_eq (hspells : FullName.Spells parent names)
    (hidentifier : Java.isIdentifier item.name = true) :
    unit ⟨item, FullName.join parent item.name, parentKind⟩
      = { item, fullName := FullName.join parent item.name, package := parent
          directory := Path.ofNames names } := by
  have hparent : FullName.parent (FullName.join parent item.name) = parent :=
    FullName.parent_join hspells.ne_empty (Java.dot_not_mem hidentifier)
  simp only [unit, hparent, hspells.segments_eq]

/-- The directory of an item is a child of the directory it is declared in. -/
theorem directory_eq (hspells : FullName.Spells parent names)
    (hidentifier : Java.isIdentifier item.name = true) :
    directory ⟨item, FullName.join parent item.name, parentKind⟩
      = (Path.ofNames names).child item.name := by
  have hsteps : ∀ n ∈ names, Path.IsStep n := by
    intro n hn
    exact .of_isIdentifier (hspells.isIdentifier n hn)
  rw [directory, (hspells.join hidentifier).segments_eq,
    Path.child_ofNames hspells.ne_nil hsteps (.of_isIdentifier hidentifier)]

end Symbol

namespace Layout

/-- The layout of exposed symbols. -/
def ofSymbols (includeComments : Bool) (symbols : List Symbol) : Layout where
  directories := (symbols.filter (·.item.kind.isNamespace)).map Symbol.directory
  files := (symbols.filter (·.item.kind.isNamespace)).flatMap fun s =>
    (ofComments s.item s.directory includeComments).files
  units := (symbols.filter (!·.item.kind.isNamespace)).map Symbol.unit

variable {includeComments : Bool} {parent : String} {directory : Path} {names : List String}
  {item : Item} {items : List Item} {l : Layout}

theorem ofSymbols_append (first second : List Symbol) :
    ofSymbols includeComments (first ++ second)
      = ofSymbols includeComments first ++ ofSymbols includeComments second := by
  show _ = append _ _
  simp [ofSymbols, append]

theorem ofSymbols_cons (s : Symbol) (rest : List Symbol) :
    ofSymbols includeComments (s :: rest)
      = (if s.item.kind.isNamespace then
          { directories := [s.directory] } ++ ofComments s.item s.directory includeComments
        else { units := [s.unit] }) ++ ofSymbols includeComments rest := by
  show _ = append _ _
  cases hkind : s.item.kind.isNamespace with
  | true =>
    show _ = append (append _ _) _
    simp [ofSymbols, append, hkind, ofComments]
  | false => simp [ofSymbols, append, hkind]

/-! ## The layout of an item -/

/-- The layout of an item of each kind. -/
theorem ofItem_eq_ok_iff :
    ofItem parent directory includeComments item = .ok l
      ↔ item.checkName (FullName.project parent) = .ok ()
        ∧ match item.kind with
          | .package => ∃ rest, ofItems (FullName.join parent item.name) (directory.child item.name)
              includeComments item.children = .ok rest
            ∧ l = { directories := [directory.child item.name] }
              ++ ofComments item (directory.child item.name) includeComments ++ rest
          | .classItem | .function | .variable =>
            l = { units := [{ item, fullName := FullName.join parent item.name
                              package := parent, directory }] }
          | .parameter | .project => False := by
  obtain ⟨name, kind, id, comments, children, typeName, returnType, blocks⟩ := item
  simp only [ofItem, bind_eq_ok]
  constructor
  · rintro ⟨⟨⟩, hname, h⟩
    refine ⟨hname, ?_⟩
    cases kind with
    | package =>
      obtain ⟨rest, hrest, h⟩ := bind_eq_ok.1 h
      exact ⟨rest, hrest, (pure_eq_ok.1 h).symm⟩
    | classItem | function | «variable» => exact (pure_eq_ok.1 h).symm
    | parameter | project => cases h
  · rintro ⟨hname, h⟩
    refine ⟨(), hname, ?_⟩
    cases kind with
    | package =>
      obtain ⟨rest, hrest, rfl⟩ := h
      simp only [hrest, ok_bind]
      rfl
    | classItem | function | «variable» =>
      cases h
      rfl
    | parameter | project => exact h.elim

theorem ofItems_cons_eq_ok_iff {rest : List Item} :
    ofItems parent directory includeComments (item :: rest) = .ok l
      ↔ ∃ first others, ofItem parent directory includeComments item = .ok first
        ∧ ofItems parent directory includeComments rest = .ok others ∧ l = first ++ others := by
  simp only [ofItems, bind_eq_ok, pure_eq_ok]
  constructor
  · rintro ⟨first, hfirst, others, hothers, rfl⟩
    exact ⟨first, others, hfirst, hothers, rfl⟩
  · rintro ⟨first, others, hfirst, hothers, rfl⟩
    exact ⟨first, hfirst, others, hothers, rfl⟩

/-- Several items can be laid out if each of them can, so their order does not matter. -/
theorem ofItems_isOk_iff :
    (∃ l, ofItems parent directory includeComments items = .ok l)
      ↔ ∀ item ∈ items, ∃ l, ofItem parent directory includeComments item = .ok l := by
  induction items with
  | nil => simp [ofItems]
  | cons item rest ih =>
    simp only [ofItems_cons_eq_ok_iff, List.forall_mem_cons, ← ih]
    constructor
    · rintro ⟨_, first, others, hfirst, hothers, -⟩
      exact ⟨⟨first, hfirst⟩, others, hothers⟩
    · rintro ⟨⟨first, hfirst⟩, others, hothers⟩
      exact ⟨first ++ others, first, others, hfirst, hothers, rfl⟩

/-- Several items are laid out as what they expose, if each of them is. -/
theorem ofItems_eq_ofSymbols {parentKind : Option ItemKind}
    (hitems : ∀ item ∈ items, ∀ l, ofItem parent directory includeComments item = .ok l →
      l = ofSymbols includeComments (item.exposed parent parentKind)
        ∧ ∀ s ∈ item.exposed parent parentKind, s.IsPlaced)
    (h : ofItems parent directory includeComments items = .ok l) :
    l = ofSymbols includeComments (items.flatMap (·.exposed parent parentKind))
      ∧ ∀ s ∈ items.flatMap (·.exposed parent parentKind), s.IsPlaced := by
  induction items generalizing l with
  | nil =>
    cases h
    exact ⟨rfl, nofun⟩
  | cons item rest ih =>
    obtain ⟨first, others, hfirst, hothers, rfl⟩ := ofItems_cons_eq_ok_iff.1 h
    obtain ⟨rfl, hplaced⟩ := hitems item List.mem_cons_self first hfirst
    obtain ⟨rfl, hrest⟩ :=
      ih (fun other hother => hitems other (List.mem_cons_of_mem _ hother)) hothers
    rw [List.flatMap_cons]
    refine ⟨(ofSymbols_append _ _).symm, ?_⟩
    intro s hs
    rcases List.mem_append.1 hs with hs | hs
    · exact hplaced s hs
    · exact hrest s hs

/-- What is laid out inside a namespace is what is exposed there. The places of the symbols come
    along: that each name has been checked is what makes full names and paths invertible. -/
theorem ofItem_eq_ofSymbols (hspells : FullName.Spells parent names)
    (h : ofItem parent (Path.ofNames names) includeComments item = .ok l)
    (parentKind : Option ItemKind) :
    l = ofSymbols includeComments (item.exposed parent parentKind)
      ∧ ∀ s ∈ item.exposed parent parentKind, s.IsPlaced := by
  -- on the tree, since the children are laid out below the joined name
  induction item using Item.induction generalizing parent names l parentKind with
  | h item ih =>
    obtain ⟨hname, h⟩ := ofItem_eq_ok_iff.1 h
    have hidentifier := Item.isIdentifier_of_checkName hname
    have hjoin := hspells.join hidentifier
    have hplaced : item.kind ≠ .parameter →
        (⟨item, FullName.join parent item.name, parentKind⟩ : Symbol).IsPlaced :=
      fun hkind => .of_spells hjoin hidentifier hkind
    cases hkind : item.kind with
    | package =>
      have hnamespace : item.kind.isNamespace = true := by rw [hkind]; rfl
      have hdirectory := @Symbol.directory_eq parent names item parentKind hspells hidentifier
      rw [Item.exposed_namespace hnamespace]
      simp only [hkind] at h
      obtain ⟨rest, hrest, rfl⟩ := h
      rw [← hdirectory, Symbol.directory, hjoin.segments_eq] at hrest
      obtain ⟨rfl, hall⟩ := ofItems_eq_ofSymbols
        (fun child hchild _ h => ih child hchild hjoin h (some item.kind)) hrest
      constructor
      · rw [ofSymbols_cons, if_pos hnamespace, hdirectory]
      · intro other hother
        rcases List.mem_cons.1 hother with rfl | hother
        · exact hplaced (by simp [hkind])
        · exact hall other hother
    | classItem | function | «variable» =>
      have hnamespace : item.kind.isNamespace = false := by rw [hkind]; rfl
      rw [Item.exposed_leaf hnamespace]
      simp only [hkind] at h
      constructor
      · rw [ofSymbols_cons, if_neg (by simp [hnamespace]), h, Symbol.unit_eq hspells hidentifier]
        rfl
      · intro other hother
        rw [List.mem_singleton.1 hother]
        exact hplaced (by simp [hkind])
    | parameter | project => simp [hkind] at h

/-! ## The layout of a project -/

/-- The marker file of a project with an identity. -/
def marker (root : Item) (id : Uuid) : GeneratedFile where
  path := Path.ofNames [root.name, markerFile]
  contents := id.text ++ "\n"

/-- A project with an identity is laid out with what is inside it. -/
theorem ofProject_eq_ok_iff {root : Item} :
    ofProject root includeComments = .ok l
      ↔ root.kind = .project ∧ ∃ id, root.id = some id ∧ root.checkName root.name = .ok ()
        ∧ ∃ rest, ofItems root.name ⟨root.name⟩ includeComments root.children = .ok rest
          ∧ l = { directories := [⟨root.name⟩]
                  files := [{ path := (⟨root.name⟩ : Path).child markerFile
                              contents := id.text ++ "\n" }] }
            ++ ofComments root ⟨root.name⟩ includeComments ++ rest := by
  rw [ofProject]
  by_cases hkind : root.kind = .project
  · rw [if_neg (not_not.2 hkind)]
    cases hid : root.id with
    | none => simp
    | some id =>
      simp only [bind_eq_ok, pure_eq_ok, hkind, true_and, Option.some.injEq, exists_eq_left']
      constructor
      · rintro ⟨⟨⟩, hname, rest, hrest, rfl⟩
        exact ⟨hname, rest, hrest, rfl⟩
      · rintro ⟨hname, rest, hrest, rfl⟩
        exact ⟨(), hname, rest, hrest, rfl⟩
  · simp [hkind]

/-- A project is laid out as what it exposes, with a marker file in front. -/
theorem ofProject_eq_ok {root : Item} (h : ofProject root includeComments = .ok l) :
    root.kind = .project ∧ ∃ id, root.id = some id
      ∧ l = { directories := (ofSymbols includeComments (root.exposed "" none)).directories
              files := marker root id :: (ofSymbols includeComments (root.exposed "" none)).files
              units := (ofSymbols includeComments (root.exposed "" none)).units }
      ∧ ∀ s ∈ root.exposed "" none, s.IsPlaced := by
  obtain ⟨hkind, id, hid, hname, rest, hrest, rfl⟩ := ofProject_eq_ok_iff.1 h
  have hidentifier := Item.isIdentifier_of_checkName hname
  have hstep := Path.IsStep.of_isIdentifier hidentifier
  have hspells := FullName.Spells.singleton hidentifier
  have hnamespace : root.kind.isNamespace = true := by rw [hkind]; rfl
  have hroot : (⟨root.name⟩ : Path) = Path.ofNames [root.name] := by simp [Path.ofNames]
  have hmarker : (Path.ofNames [root.name]).child markerFile
      = Path.ofNames [root.name, markerFile] :=
    Path.child_ofNames (by simp) (by simpa using hstep) (by constructor <;> decide)
  rw [hroot] at hrest
  obtain ⟨rfl, hall⟩ := ofItems_eq_ofSymbols
    (fun child _ _ h => ofItem_eq_ofSymbols hspells h (some root.kind)) hrest
  rw [Item.exposed_namespace hnamespace, FullName.join_empty]
  refine ⟨hkind, id, hid, ?_, ?_⟩
  · rw [ofSymbols_cons, if_pos hnamespace, Symbol.directory, hspells.segments_eq, hroot, hmarker]
    rfl
  · intro s hs
    rcases List.mem_cons.1 hs with rfl | hs
    · exact .of_spells hspells hidentifier (by simp [hkind])
    · exact hall s hs

/-! ## Names that are laid out -/

/-- Everything that an item exposes can be declared and is no project, if the item is laid out. -/
theorem declared_of_ofItem (hparent : parent ≠ "")
    (h : ofItem parent directory includeComments item = .ok l) {parentKind : Option ItemKind}
    {s : Symbol} (hs : s ∈ item.exposed parent parentKind) :
    s.item.checkName (FullName.project parent) = .ok () ∧ s.item.kind ≠ .project := by
  induction item using Item.induction generalizing parent directory l parentKind with
  | h item ih =>
    obtain ⟨hname, h⟩ := ofItem_eq_ok_iff.1 h
    rw [Item.exposed_eq] at hs
    rcases List.mem_cons.1 hs with rfl | hs
    · refine ⟨hname, fun (hkind : item.kind = .project) => ?_⟩
      simp only [hkind] at h
    · cases hkind : item.kind with
      | package =>
        simp only [hkind] at h hs
        obtain ⟨rest, hrest, -⟩ := h
        obtain ⟨child, hchild, hs⟩ := List.mem_flatMap.1 hs
        obtain ⟨l', hl'⟩ := ofItems_isOk_iff.1 ⟨rest, hrest⟩ child hchild
        have hjoin : FullName.join parent item.name ≠ "" :=
          FullName.join_ne_empty (Java.isIdentifier_ne_empty (Item.isIdentifier_of_checkName hname))
        rw [← @FullName.project_join parent item.name hparent]
        exact ih child hchild hjoin hl' hs
      | classItem | function | «variable» => simp [hkind, ItemKind.isNamespace] at hs
      | parameter | project => simp [hkind] at h

/-- Everything that a project exposes below itself can be declared in it and is no project. -/
theorem declared_of_ofProject {root : Item} (h : ofProject root includeComments = .ok l)
    {s : Symbol} (hs : root.Exposes s) :
    s = ⟨root, root.name, none⟩ ∨ s.item.checkName root.name = .ok () ∧ s.item.kind ≠ .project := by
  obtain ⟨hkind, id, -, hname, rest, hrest, -⟩ := ofProject_eq_ok_iff.1 h
  have hidentifier := Item.isIdentifier_of_checkName hname
  have hproject : FullName.project root.name = root.name :=
    FullName.project_eq_self (Java.dot_not_mem hidentifier)
  have hmem := Item.mem_exposed_iff.2 hs
  rw [Item.exposed_namespace (by rw [hkind]; rfl), FullName.join_empty] at hmem
  refine (List.mem_cons.1 hmem).imp_right fun hmem => ?_
  obtain ⟨child, hchild, hmem⟩ := List.mem_flatMap.1 hmem
  obtain ⟨l', hl'⟩ := ofItems_isOk_iff.1 ⟨rest, hrest⟩ child hchild
  rw [← hproject]
  exact declared_of_ofItem (Java.isIdentifier_ne_empty hidentifier) hl' hmem

/-- Everything that a project exposes can be declared in it. -/
theorem checkName_of_ofProject {root : Item} (h : ofProject root includeComments = .ok l)
    {s : Symbol} (hs : root.Exposes s) : s.item.checkName root.name = .ok () := by
  rcases declared_of_ofProject h hs with rfl | ⟨hname, -⟩
  · obtain ⟨-, id, -, hname, -⟩ := ofProject_eq_ok_iff.1 h
    exact hname
  · exact hname

end Layout

end Flowchart
