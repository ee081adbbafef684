import Flowchart.Proofs.Emission
import Flowchart.Proofs.Planning

set_option autoImplicit false

/-! # Passes over trees that correspond

Up to the units, a pass over a tree follows the pass over a tree it corresponds to: the table, the
check of the entry function and the layout. If the order of the trees is the same then so is the
error, since of several errors the first one in order is reported. The units they come to are
counterparts, so what becomes of them is the same too. -/

namespace Flowchart

variable {exact shuffled : Prop} {f : Uuid → Uuid} {C : String → String → Prop}

/-! ## The table -/

section

theorem firstRepeatedBlock_rename (hf : Function.Injective f) (used : List Uuid)
    (blocks : List Block) :
    firstRepeatedBlock (used.map f) (blocks.map (Block.rename f))
      = (firstRepeatedBlock used blocks).map f := by
  induction blocks generalizing used with
  | nil => rfl
  | cons b rest ih =>
    have hused : f b.id :: used.map f = (b.id :: used).map f := rfl
    simp only [List.map_cons, firstRepeatedBlock, Block.id_rename, List.mem_map_of_injective hf]
    rw [hused, ih]
    split
    · rfl
    · rfl

theorem firstRepetition_rename (hf : Function.Injective f) (hfixed : ¬ shuffled)
    {symbols symbols' : List Symbol}
    (h : List.Forall₂ (Symbol.Corresponds shuffled f C) symbols symbols') (names : List String)
    (used : List Uuid) :
    firstRepetition names (used.map f) symbols'
      = (firstRepetition names used symbols).map (CompileError.renameBlocks f) := by
  -- what was seen before grows from symbol to symbol, so it is arbitrary here
  induction h generalizing names used with
  | nil => rfl
  | @cons s s' rest rest' hs _ ih =>
    have hblocks := hs.item.head.blocks.eq hfixed
    have hids : s'.item.blocks.map (·.id) ++ used.map f
        = (s.item.blocks.map (·.id) ++ used).map f := by
      rw [← hblocks, List.map_append, List.map_map, List.map_map]
      rfl
    rw [firstRepetition, firstRepetition, hs.fullName_eq, hids, ih, ← hblocks,
      firstRepeatedBlock_rename hf]
    split
    · rfl
    · cases firstRepeatedBlock used s.item.blocks with
      | none => rfl
      | some id => rfl

variable {root other : Item} {t t' : SymbolTable}

/-- If a tree repeats no name and no identifier, then neither does one that corresponds to it. -/
theorem Item.Corresponds.exists_lists (h : root.Corresponds shuffled f C other)
    (hf : Function.Injective f) (ht : t.Lists root) : ∃ t' : SymbolTable, t'.Lists other := by
  have hsymbols := h.symbols_paired "" none
  have hnames : Reordered shuffled ((root.symbols "" none).map Symbol.fullName)
      ((other.symbols "" none).map Symbol.fullName) :=
    (hsymbols.map fun _ _ _ _ hs => hs.fullName_eq.symm).reordered
  have hids : Reordered shuffled (((root.symbols "" none).flatMap Symbol.blockIds).map f)
      ((other.symbols "" none).flatMap Symbol.blockIds) := by
    rw [List.map_flatMap]
    refine (hsymbols.flatMap fun s _ s' hs => ?_).reordered
    have hblocks := hs.item.head.blocks.congr fun hperm => hperm.map (·.id)
    rw [List.map_map] at hblocks
    rw [Symbol.blockIds, List.map_map]
    exact ⟨_, List.forall₂_eq_eq_eq ▸ rfl, hblocks⟩
  have hnodup := ht.names_nodup
  have hdistinct := ht.ids_nodup
  rw [ht.symbols_eq] at hnodup hdistinct
  exact ⟨{ symbols := other.symbols "" none
           blocks := (other.symbols "" none).flatMap Symbol.ownedBlocks },
    rfl, rfl, hnames.perm.nodup_iff.1 hnodup, hids.perm.nodup_iff.1 (hdistinct.map hf)⟩

theorem Item.Corresponds.follows_build (h : root.Corresponds shuffled f C other)
    (hf : Function.Injective f) (hexact : exact → ¬ shuffled) :
    Follows exact f (fun t t' => t.Lists root ∧ t'.Lists other) (SymbolTable.build root)
      (SymbolTable.build other) := by
  cases hbuild : SymbolTable.build root with
  | ok t =>
    have ht := SymbolTable.build_eq_ok_iff.1 hbuild
    obtain ⟨t', ht'⟩ := h.exists_lists hf ht
    rw [SymbolTable.build_eq_ok_iff.2 ht']
    exact .ok ⟨ht, ht'⟩
  | error e =>
    -- of several repetitions the first one is reported, so the order has to be the same
    by_cases hordered : exact
    · have hsymbols := (h.symbols_paired "" none).forall₂ (hexact hordered)
      have hrepetition := firstRepetition_rename hf (hexact hordered) hsymbols [] []
      rw [SymbolTable.build] at hbuild ⊢
      rw [List.map_nil] at hrepetition
      rw [hrepetition]
      cases hfirst : firstRepetition [] [] (root.symbols "" none) with
      | none =>
        rw [hfirst] at hbuild
        cases hbuild
      | some e' =>
        rw [hfirst] at hbuild
        cases hbuild
        exact .error e
    · exact .waived hordered

/-! ## The entry function -/

/-- Two passes choose the same entry function. -/
structure Options.SameEntry (options options' : Options) : Prop where
  entryFunction_eq : options'.entryFunction = options.entryFunction
  parameters_eq : options'.parameters = options.parameters

variable {options options' : Options}

theorem Item.Corresponds.follows_checkEntry (h : root.Corresponds shuffled f C other)
    (ht : t.Lists root) (ht' : t'.Lists other) (hoptions : options.SameEntry options') :
    Follows exact f Eq (t.checkEntry options) (t'.checkEntry options') := by
  rw [SymbolTable.checkEntry, SymbolTable.checkEntry, hoptions.entryFunction_eq,
    hoptions.parameters_eq]
  cases options.entryFunction with
  | none => exact .ok rfl
  | some name =>
    cases hfound : t.find? name with
    | none =>
      simp only [h.find?_eq_none ht ht' hfound, hfound]
      exact .error _
    | some s =>
      obtain ⟨s', hfound', hs⟩ := h.exists_found ht ht' hfound
      simp only [hfound, hfound', hs.item.head.kind_eq, hs.sameInterface.isStatic_eq]
      split
      · exact .error _
      · next hkind =>
          split
          · exact .error _
          · have hleaf : s.item.kind.isNamespace = false := by
              rw [not_not.1 hkind]
              rfl
            exact (EntryPoint.follows_mainMethod hs.item hleaf _ _).bind_eq fun _ => .ok rfl

end

/-! ## The layout -/

namespace Layout

variable {parent : String} {directory : Path} {includeComments includeComments' : Bool}
  {item other : Item} {items others : List Item}

theorem ofItem_eq :
    ofItem parent directory includeComments item
      = item.checkName (FullName.project parent) >>= fun _ =>
        match item.kind with
        | .package =>
          ofItems (FullName.join parent item.name) (directory.child item.name) includeComments
            item.children >>= fun rest =>
          .ok ({ directories := [directory.child item.name] }
            ++ ofComments item (directory.child item.name) includeComments ++ rest)
        | .classItem | .function | .variable =>
          .ok { units := [{ item, fullName := FullName.join parent item.name
                            package := parent, directory }] }
        | .parameter =>
          .error (.invalidItem (FullName.join parent item.name) .parameterOutsideFunction)
        | .project => .error (.invalidItem (FullName.join parent item.name) .nestedProject) := by
  cases item
  rfl

theorem follows_ofItems (hexact : exact → ¬ shuffled)
    (h : Paired shuffled (fun item other => Follows exact f (fun _ _ => True)
      (ofItem parent directory includeComments item)
      (ofItem parent directory includeComments' other)) items others) :
    Follows exact f (fun _ _ => True) (ofItems parent directory includeComments items)
      (ofItems parent directory includeComments' others) := by
  obtain ⟨middle, hrelated, hordered⟩ := h
  have hmiddle : Follows exact f (fun _ _ => True)
      (ofItems parent directory includeComments items)
      (ofItems parent directory includeComments' middle) := by
    clear hordered
    induction hrelated with
    | nil => exact .ok trivial
    | cons hitem _ ih =>
      rw [ofItems, ofItems]
      exact hitem.bind fun _ _ _ => ih.bind fun _ _ _ => .ok trivial
  rcases hordered with rfl | ⟨hshuffled, hperm⟩
  · exact hmiddle
  -- another order may lead to another error, but not from success to failure
  · cases hitems : ofItems parent directory includeComments items with
    | error e => exact .waived fun h => hexact h hshuffled
    | ok l =>
      obtain ⟨l', hl', -⟩ := hmiddle.exists_ok hitems
      have hall := ofItems_isOk_iff.1 ⟨l', hl'⟩
      obtain ⟨l'', hl''⟩ := ofItems_isOk_iff.2 fun item hitem => hall item (hperm.mem_iff.2 hitem)
      rw [hl'']
      exact .ok trivial

theorem follows_ofItem (hexact : exact → ¬ shuffled) (h : item.Corresponds shuffled f C other) :
    Follows exact f (fun _ _ => True) (ofItem parent directory includeComments item)
      (ofItem parent directory includeComments' other) := by
  induction item using Item.induction generalizing other parent directory with
  | h item ih =>
    rw [ofItem_eq, ofItem_eq, h.head.name_eq, h.head.kind_eq]
    refine (h.head.follows_checkName _).bind_eq fun _ => ?_
    split
    · have hchildren : Paired shuffled (fun child child' => Follows exact f (fun _ _ => True)
          (ofItem (FullName.join parent item.name) (directory.child item.name) includeComments
            child)
          (ofItem (FullName.join parent item.name) (directory.child item.name) includeComments'
            child')) item.children other.children :=
        h.children_paired.imp fun child hchild child' _ hchild' => ih child hchild hchild'
      exact (follows_ofItems hexact hchildren).bind fun _ _ _ => .ok trivial
    · exact .ok trivial
    · exact .ok trivial
    · exact .ok trivial
    · exact .error _
    · exact .error _

/-- Projects that correspond can both be laid out or fail with the same error. What their layouts
    are is known from the trees. -/
theorem follows_ofProject {root other : Item} (hexact : exact → ¬ shuffled)
    (h : root.Corresponds shuffled f C other) :
    Follows exact f (fun _ _ => True) (ofProject root includeComments)
      (ofProject other includeComments') := by
  rw [ofProject, ofProject, h.head.name_eq, h.head.kind_eq, h.head.id_eq]
  split
  · exact .error _
  · cases root.id with
    | none => exact .error _
    | some id =>
      refine (h.head.follows_checkName _).bind_eq fun _ => ?_
      have hchildren : Paired shuffled (fun child child' => Follows exact f (fun _ _ => True)
          (ofItem root.name ⟨root.name⟩ includeComments child)
          (ofItem root.name ⟨root.name⟩ includeComments' child')) root.children other.children :=
        h.children_paired.imp fun child _ child' _ hchild => follows_ofItem hexact hchild
      exact (follows_ofItems hexact hchildren).bind fun _ _ _ => .ok trivial

end Layout

/-! ## What is laid out -/

section

variable {root other : Item} {includeComments includeComments' : Bool} {l l' : Layout}

theorem Item.Corresponds.namespaces_paired (h : root.Corresponds shuffled f C other) :
    Paired shuffled (Symbol.Corresponds shuffled f C)
      ((root.exposed "" none).filter (·.item.kind.isNamespace))
      ((other.exposed "" none).filter (·.item.kind.isNamespace)) :=
  (h.exposed_paired "" none).filter fun s s' hs => by rw [hs.item.head.kind_eq]

/-- Symbols of the same name have the same directory. -/
theorem Symbol.Corresponds.directory_eq {s s' : Symbol} (h : s.Corresponds shuffled f C s') :
    s'.directory = s.directory := by
  rw [directory, directory, h.fullName_eq]

theorem Item.Corresponds.directories_reordered (h : root.Corresponds shuffled f C other)
    (hl : Layout.ofProject root includeComments = .ok l)
    (hl' : Layout.ofProject other includeComments' = .ok l') :
    Reordered shuffled l.directories l'.directories := by
  obtain ⟨-, id, -, rfl, -⟩ := Layout.ofProject_eq_ok hl
  obtain ⟨-, id', -, rfl, -⟩ := Layout.ofProject_eq_ok hl'
  exact (h.namespaces_paired.map fun s _ s' _ hs => hs.directory_eq.symm).reordered

theorem ofComments_files_eq {item other : Item} (directory : Path)
    (hcomments : shownComments includeComments' other.comments
      = shownComments includeComments item.comments) :
    (Layout.ofComments other directory includeComments').files
      = (Layout.ofComments item directory includeComments).files := by
  have hshown : ∀ (item : Item) (includeComments : Bool),
      (Layout.ofComments item directory includeComments).files
        = if (!Text.isAllBlank (shownComments includeComments item.comments)) = true then
            [{ path := directory.child Layout.commentsFile
               contents := shownComments includeComments item.comments }]
          else [] := by
    intro item includeComments
    rw [Layout.ofComments, isAllBlank_shownComments]
    cases includeComments with
    | true => rfl
    | false => rfl
  rw [hshown, hshown, hcomments]

theorem Item.SameHead.marker_eq (h : root.SameHead shuffled f C other) (id : Uuid) :
    Layout.marker other id = Layout.marker root id := by
  rw [Layout.marker, Layout.marker, h.name_eq]

/-- The marker and the comments, if the same comments are shown. -/
theorem Item.Corresponds.files_reordered (h : root.Corresponds shuffled f C other)
    (hcomments : ∀ {comments comments'}, C comments comments' →
      shownComments includeComments' comments' = shownComments includeComments comments)
    (hl : Layout.ofProject root includeComments = .ok l)
    (hl' : Layout.ofProject other includeComments' = .ok l') :
    Reordered shuffled l.files l'.files := by
  obtain ⟨-, id, hid, rfl, -⟩ := Layout.ofProject_eq_ok hl
  obtain ⟨-, id', hid', rfl, -⟩ := Layout.ofProject_eq_ok hl'
  rw [h.head.id_eq, hid] at hid'
  cases hid'
  rw [h.head.marker_eq]
  refine Reordered.append (l := [Layout.marker root id]) (Or.inl rfl) ?_
  refine (h.namespaces_paired.flatMap fun s _ s' hs => ?_).reordered
  rw [hs.directory_eq, ofComments_files_eq s.directory (hcomments hs.item.head.comments)]
  exact .refl _

end

/-! ## The units -/

variable {root other : Item} {options options' : Options} {t t' : SymbolTable}

/-- Two passes choose the same entry function and show the same comments of items that
    correspond. -/
structure Options.SameChoices (C : String → String → Prop) (options options' : Options) : Prop
    extends options.SameEntry options' where
  comments_eq : ∀ {comments comments'}, C comments comments' →
    shownComments options'.includeComments comments'
      = shownComments options.includeComments comments

/-- The same choices are the same. -/
theorem Options.sameChoices_refl (options : Options) : options.SameChoices Eq options :=
  ⟨⟨rfl, rfl⟩, fun heq => by rw [heq]⟩

theorem Item.Corresponds.mirrors (h : root.Corresponds shuffled f C other)
    (hf : Function.Injective f) (ht : t.Lists root) (ht' : t'.Lists other)
    (hoptions : options.SameChoices C options') :
    Emitter.Mirrors exact f C ⟨t, options⟩ ⟨t', options'⟩ where
  injective := hf
  agrees := h.agrees ht ht' exact
  lists := ⟨root, ht⟩
  lists_right := ⟨other, ht'⟩
  entryFunction_eq := hoptions.entryFunction_eq
  parameters_eq := hoptions.parameters_eq
  comments_eq := hoptions.comments_eq

/-- The units of trees that correspond are counterparts. -/
theorem Item.Corresponds.units_paired (h : root.Corresponds shuffled f C other) (ht : t.Lists root)
    (ht' : t'.Lists other) :
    Paired shuffled (Emitter.Counterparts shuffled f C ⟨t, options⟩ ⟨t', options'⟩) root.units
      other.units := by
  have hunits := (h.exposed_paired "" none).filter (p := fun s => !s.item.kind.isNamespace)
    (q := fun s => !s.item.kind.isNamespace) fun s s' hs => by rw [hs.item.head.kind_eq]
  have hmem : ∀ {t : SymbolTable} {root : Item}, t.Lists root →
      ∀ s ∈ root.units, s ∈ t.symbols := by
    intro t root ht s hs
    rw [ht.symbols_eq]
    exact exposed_sublist_symbols.subset (List.mem_filter.1 hs).1
  exact hunits.imp fun s hs s' hs' hcorresponds => ⟨hmem ht s hs, hmem ht' s' hs', hcorresponds⟩

/-- The units of counterparts are counterparts too, and have the same place. -/
theorem Emitter.Counterparts.unit {e e' : Emitter} {s s' : Symbol}
    (h : Counterparts shuffled f C e e' s s') :
    Counterparts shuffled f C e e' (s.unit.symbol s.parentKind) (s'.unit.symbol s.parentKind)
      ∧ s'.unit.package = s.unit.package ∧ s'.unit.directory = s.unit.directory := by
  have hname := h.corresponds.fullName_eq
  have hparent := h.corresponds.parentKind_eq
  refine ⟨?_, by rw [Symbol.unit, Symbol.unit, hname], by rw [Symbol.unit, Symbol.unit, hname]⟩
  obtain ⟨item, fullName, parentKind⟩ := s'
  cases hparent
  exact h

theorem Emitter.Mirrors.follows_emitUnit {e e' : Emitter} {s s' : Symbol}
    (h : e.Mirrors exact f C e') (hs : Counterparts shuffled f C e e' s s') :
    Follows exact f Eq (e.emitUnit s.unit) (e'.emitUnit s'.unit) := by
  obtain ⟨hunits, hpackage, hdirectory⟩ := hs.unit
  have hname : s'.unit.fullName = s.unit.fullName := hs.corresponds.fullName_eq
  rw [emitUnit, emitUnit, hname]
  exact (h.follows_emit hunits hpackage hdirectory).mapError fun _ => rfl

/-- Passes over trees that correspond both come to the units or fail with the same error. -/
theorem Item.Corresponds.follows_plannedUnits (h : root.Corresponds shuffled f C other)
    (hf : Function.Injective f) (hexact : exact → ¬ shuffled)
    (hoptions : options.SameEntry options') :
    Follows exact f
      (fun planned planned' => ∃ t t', root.Plans options t planned
        ∧ other.Plans options' t' planned')
      (plannedUnits root options) (plannedUnits other options') := by
  refine (h.follows_build hf hexact).bind fun t t' ⟨ht, ht'⟩ => ?_
  refine (h.follows_checkEntry ht ht' hoptions).bind_eq fun _ => ?_
  have hlayout : Follows exact f (fun _ _ => True)
      (Layout.ofProject root options.includeComments)
      (Layout.ofProject other options'.includeComments) := Layout.follows_ofProject hexact h
  exact hlayout.remember.bind fun l l' ⟨_, hl, hl'⟩ =>
    .ok ⟨t, t', .of_lists ht hl, .of_lists ht' hl'⟩

/-- The units that two passes come to become the same. -/
theorem Item.Corresponds.results_paired (h : root.Corresponds shuffled f C other)
    (hf : Function.Injective f) (hoptions : options.SameChoices C options')
    {planned planned' : Layout × List (Except CompileError GeneratedFile)}
    (hplans : root.Plans options t planned) (hplans' : other.Plans options' t' planned') :
    Paired shuffled (Follows True f Eq) planned.2 planned'.2 := by
  have hmirrors : Emitter.Mirrors True f C ⟨t, options⟩ ⟨t', options'⟩ :=
    h.mirrors hf hplans.lists hplans'.lists hoptions
  rw [hplans.results_eq, hplans'.results_eq]
  exact (h.units_paired hplans.lists hplans'.lists).map fun s _ s' _ hs =>
    hmirrors.follows_emitUnit hs

/-! ## The whole pass -/

/-- What is made of the results of units follows what is made of results that they follow. -/
theorem follows_collectUnits {R : GeneratedFile → GeneratedFile → Prop} (policy : FailurePolicy)
    {results results' : List (Except CompileError GeneratedFile)}
    (h : List.Forall₂ (Follows True f R) results results') :
    Follows True f
      (fun collected collected' => List.Forall₂ R collected.1 collected'.1
        ∧ collected'.2 = collected.2.map (·.renameBlocks f))
      (collectUnits policy results) (collectUnits policy results') := by
  induction h with
  | nil => exact .ok ⟨.nil, rfl⟩
  | cons hresult _ ih =>
    cases hresult with
    | ok related =>
      rw [collectUnits, collectUnits]
      refine ih.bind ?_
      rintro collected collected' ⟨hfiles, hskipped⟩
      exact .ok ⟨.cons related hfiles, hskipped⟩
    | error e =>
      cases policy with
      | abort => exact .error e
      | skipDeclaration =>
        rw [collectUnits, collectUnits]
        refine ih.bind ?_
        rintro collected collected' ⟨hfiles, hskipped⟩
        exact .ok ⟨hfiles, by rw [hskipped, List.map_cons]⟩
    | waived inexact => exact absurd trivial inexact

/-- A pass over a tree in the same order ends in the same way: with the same output, or with the
    same error, but for the identifiers of blocks in errors. -/
theorem Item.Corresponds.follows_compile (h : root.Corresponds False f C other)
    (hf : Function.Injective f) (hoptions : options.SameChoices C options')
    (hpolicy : options'.failurePolicy = options.failurePolicy) :
    Follows True f (fun p p' => p' = { p with skipped := p.skipped.map (·.renameBlocks f) })
      (compile root options) (compile other options') := by
  rw [compile_eq, compile_eq, hpolicy]
  refine (h.follows_plannedUnits hf (fun _ => not_false) hoptions.toSameEntry).bind ?_
  rintro planned planned' ⟨t, t', hplans, hplans'⟩
  have hresults := (h.results_paired hf hoptions hplans hplans').forall₂ not_false
  refine (follows_collectUnits _ hresults).map ?_
  rintro ⟨files, skipped⟩ ⟨files', skipped'⟩ ⟨hfiles, hskipped⟩
  have hdirectories := (h.directories_reordered hplans.layout_eq hplans'.layout_eq).eq not_false
  have hlaid := (h.files_reordered hoptions.comments_eq hplans.layout_eq hplans'.layout_eq).eq
    not_false
  have hsources : files = files' := List.forall₂_eq_eq_eq ▸ hfiles
  have hrenamed : skipped' = skipped.map (·.renameBlocks f) := hskipped
  simp only [generated, h.head.name_eq, hdirectories, hlaid, hsources, hrenamed]

end Flowchart
