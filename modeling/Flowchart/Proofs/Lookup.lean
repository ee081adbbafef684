import Flowchart.Proofs.EntryFunctions
import Flowchart.Proofs.Repetitions

set_option autoImplicit false

/-! # Looking declarations up

A full name is looked up under the path that its names make, with the ending of source files. If the
names are identifiers, that path is the place of one node of the tree, so the file in it is the
source file of that node: a unit that was left out has none, and neither has a namespace or anything
inside a declaration. -/

namespace Flowchart

/-! ## Nodes with names -/

/-- On the way to a node there are only items with identifiers for names, the node included. -/
def Item.NamedAlong (root : Item) (position : Position) : Prop :=
  ∀ above, above <+: position → ∀ s, root.at? above = some s → Java.isIdentifier s.item.name = true

/-- A way through identifiers makes a full name of them. -/
theorem Symbol.spells_of_at? {start s : Symbol} {position : Position} {names : List String}
    (hstart : FullName.Spells start.fullName names) (h : start.at? position = some s)
    (hnamed : ∀ above, above <+: position → ∀ s, start.at? above = some s →
      Java.isIdentifier s.item.name = true) : ∃ names, FullName.Spells s.fullName names := by
  induction position generalizing start names with
  | nil =>
    cases h
    exact ⟨names, hstart⟩
  | cons i below ih =>
    obtain ⟨item, hitem, hbelow⟩ := Option.bind_eq_some_iff.1 h
    have hstep : ∀ above s, (start.child item).at? above = some s →
        start.at? (i :: above) = some s :=
      fun above s hs => Option.bind_eq_some_iff.2 ⟨item, hitem, hs⟩
    have hname : Java.isIdentifier item.name = true :=
      hnamed [i] (List.cons_prefix_cons.2 ⟨rfl, List.nil_prefix⟩) _ (hstep [] _ rfl)
    refine ih (hstart.join hname) hbelow fun above habove s hs => ?_
    exact hnamed (i :: above) (List.cons_prefix_cons.2 ⟨rfl, habove⟩) s (hstep above s hs)

theorem Item.NamedAlong.of_named {t : SymbolTable} {root : Item} (hnamed : t.Named)
    (ht : t.Lists root) (position : Position) : root.NamedAlong position :=
  fun above _ s hs => hnamed s (ht.mem_symbols_iff.2 ⟨above, hs⟩)

theorem Item.NamedAlong.exists_spells {root : Item} {position : Position} {s : Symbol}
    (h : root.NamedAlong position) (hs : root.at? position = some s) :
    ∃ names, FullName.Spells s.fullName names := by
  have hroot : Java.isIdentifier root.name = true := h [] List.nil_prefix _ rfl
  exact Symbol.spells_of_at? (.singleton hroot) hs h

/-! ## What is found -/

/-- The file in the place where a full name is looked up is the source file of the symbol with this
    name. -/
theorem GeneratedProject.IsLaid.exists_source {p : GeneratedProject} {root : Item}
    {includeComments : Bool} {id : Uuid} {file : GeneratedFile} {fullName : String}
    {names : List String} (h : p.IsLaid root includeComments id)
    (hspells : FullName.Spells fullName names) (hfound : p.declaration? fullName = some file) :
    file ∈ p.files ∧ ∃ s, root.Exposes s ∧ s.item.kind.isNamespace = false
      ∧ s.fullName = fullName ∧ IsSource root s file := by
  rw [declaration?, file?, hspells.lookup_eq] at hfound
  obtain ⟨hfile, hpath⟩ := (find?_key_eq_some_iff h.nodup_files).1 hfound
  obtain ⟨init, last, rfl⟩ := (List.eq_nil_or_concat names).resolve_left hspells.ne_nil
  rw [List.concat_eq_append] at hspells hpath
  obtain ⟨outer, name, hlays⟩ := h.exists_lays hfile
  obtain ⟨houter, -, hname, hplace⟩ := hlays.place h.places h.kind
  have hinit : ∀ n ∈ init, Path.IsStep n :=
    fun n hn => .of_isIdentifier (hspells.isIdentifier n (List.mem_append_left _ hn))
  have hlast := isDotted_java (hspells.isIdentifier last (by simp))
  -- both places are known by their names, and the last one tells what is in the file
  rw [hplace, h.places.components_fileIn houter hname,
    show (⟨String.intercalate "/" (init ++ [last]) ++ ".java"⟩ : Path)
      = Path.ofNames (init ++ [last ++ ".java"]) from (Path.ofNames_append init last ".java").symm,
    Path.components_ofNames (by simp) (Path.forall_isStep_append hinit hlast.isStep)] at hpath
  obtain ⟨hinit, hnames⟩ := List.append_inj'
    (List.map_injective_iff.2 Item.HasPlaces.normal_injective hpath) rfl
  have hnames := List.singleton_inj.1 hnames
  refine ⟨hfile, ?_⟩
  cases hlays with
  | marker => exact absurd hnames.symm (append_java_ne (by decide))
  | comments => exact absurd hnames.symm (append_java_ne (by decide))
  | @source s outer file exposed leaf around inside isChild isSource =>
    refine ⟨s, exposed, leaf, ?_, isSource⟩
    rw [(h.places.placed exposed).spells.eq_intercalate,
      h.places.segments_child around exposed isChild, hinit, (String.append_left_inj _).1 hnames,
      ← hspells.eq_intercalate]

/-- What looking the full name of a node up gives. -/
structure GeneratedProject.Finds (p : GeneratedProject) (root : Item) (e : Emitter) (l : Layout)
    (s : Symbol) : Prop where
  /-- A node is a unit if it is a declaration with only packages and the project around it. -/
  unit_iff : (∃ unit ∈ l.units, unit.item = s.item ∧ unit.fullName = s.fullName)
    ↔ root.Exposes s ∧ s.item.kind.isDeclaration = true
  /-- A file is found exactly if the node is a unit that could be emitted, and then its own. -/
  found_iff : ∀ file, p.declaration? s.fullName = some file
    ↔ ∃ unit ∈ l.units, unit.item = s.item ∧ unit.fullName = s.fullName ∧ e.emit unit = .ok file
  /-- It is the only file in its place. -/
  unique : ∀ file, p.declaration? s.fullName = some file →
    file ∈ p.files ∧ ∀ other ∈ p.files, other.path.same file.path = true → other = file

/-- A node without a unit that can be emitted is not found. -/
theorem GeneratedProject.Finds.eq_none {p : GeneratedProject} {root : Item} {e : Emitter}
    {l : Layout} {s : Symbol} (h : p.Finds root e l s)
    (hnone : ∀ unit ∈ l.units, unit.item = s.item → unit.fullName = s.fullName →
      ∀ file, e.emit unit ≠ .ok file) : p.declaration? s.fullName = none := by
  rw [Option.eq_none_iff_forall_ne_some]
  intro file hfound
  obtain ⟨unit, hunit, hitem, hname, hemit⟩ := (h.found_iff file).1 hfound
  exact hnone unit hunit hitem hname file hemit

section

variable {root : Item} {options : Options} {p : GeneratedProject} {t : SymbolTable} {l : Layout}
  {s : Symbol}

theorem mem_units_iff : s ∈ root.units ↔ root.Exposes s ∧ s.item.kind.isNamespace = false := by
  rw [Item.units, List.mem_filter, Item.mem_exposed_iff, Bool.not_eq_true']

/-- The source file of a declaration is what its unit becomes. -/
theorem GeneratedProject.Accounts.emit_eq {id : Uuid} (h : p.Accounts root ⟨t, options⟩)
    (hlaid : p.IsLaid root options.includeComments id) (hs : s ∈ root.units) {file : GeneratedFile}
    (hfile : file ∈ p.files) (hplace : IsSource root s file) :
    Emitter.emit ⟨t, options⟩ s.unit = .ok file := by
  obtain ⟨hexposed, hleaf⟩ := mem_units_iff.1 hs
  -- the file is that of some unit, and no other unit has its file in this place
  obtain ⟨other, hother, hemit⟩ := (h.mem_sources_iff file).1 ⟨hfile, hplace.isSource⟩
  obtain ⟨hexposed', hleaf'⟩ := mem_units_iff.1 hother
  have hplace' : IsSource root other file :=
    .of_emit hlaid.places hlaid.kind hexposed' hleaf' (mapError_eq_ok.2 hemit)
  have heq : other = s := by
    by_contra hne
    refine hlaid.places.source_components_ne hlaid.kind hne hexposed' hexposed hleaf' hleaf ?_
    rw [← hplace'.path_eq, hplace.path_eq]
  rw [← heq]
  exact hemit

/-- The file of a symbol is found under its full name, and nothing else is. -/
theorem GeneratedProject.Accounts.finds {id : Uuid} (h : p.Accounts root ⟨t, options⟩)
    (hlaid : p.IsLaid root options.includeComments id) (ht : t.Lists root)
    (hunits : l.units = root.units.map Symbol.unit) (hs : s ∈ t.symbols) {names : List String}
    (hspells : FullName.Spells s.fullName names) : p.Finds root ⟨t, options⟩ l s := by
  have hsame : ∀ {s'}, s' ∈ root.units → s'.fullName = s.fullName → s' = s :=
    fun hs' hname => ht.symbol_unique (mem_symbols_of_units ht hs') hs hname
  refine ⟨?_, fun file => ⟨?_, ?_⟩, ?_⟩
  · rw [hunits]
    constructor
    · rintro ⟨unit, hunit, -, hname⟩
      obtain ⟨s', hs', rfl⟩ := List.mem_map.1 hunit
      obtain rfl := hsame hs' hname
      obtain ⟨hexposed, hleaf⟩ := mem_units_iff.1 hs'
      exact ⟨hexposed, (hlaid.places.isDeclaration_iff hexposed).2 hleaf⟩
    · rintro ⟨hexposed, hkind⟩
      have hleaf := (hlaid.places.isDeclaration_iff hexposed).1 hkind
      exact ⟨s.unit, List.mem_map_of_mem (mem_units_iff.2 ⟨hexposed, hleaf⟩), rfl, rfl⟩
  · intro hfound
    obtain ⟨hfile, s', hexposed, hleaf, hname, hplace⟩ := hlaid.exists_source hspells hfound
    have hs' := mem_units_iff.2 ⟨hexposed, hleaf⟩
    obtain rfl := hsame hs' hname
    exact ⟨s'.unit, hunits ▸ List.mem_map_of_mem hs', rfl, rfl, h.emit_eq hlaid hs' hfile hplace⟩
  · rintro ⟨unit, hunit, -, hname, hemit⟩
    rw [hunits] at hunit
    obtain ⟨s', hs', rfl⟩ := List.mem_map.1 hunit
    obtain rfl := hsame hs' hname
    obtain ⟨hexposed, hleaf⟩ := mem_units_iff.1 hs'
    have hfile := ((h.mem_sources_iff file).2 ⟨s', hs', hemit⟩).1
    have hplace := IsSource.of_emit hlaid.places hlaid.kind hexposed hleaf (mapError_eq_ok.2 hemit)
    exact (hlaid.declaration?_eq_some_iff hexposed).2 ⟨hfile, by rw [hplace.path_eq]⟩
  · intro file hfound
    have hfile : file ∈ p.files := List.mem_of_find?_eq_some hfound
    refine ⟨hfile, fun other hother hpath => ?_⟩
    exact List.inj_on_of_nodup_map hlaid.nodup_files hother hfile (beq_iff_eq.1 hpath)

/-- Looking up the full name of any node that can be reached through identifiers finds the file of
    this node, if it is a unit that could be emitted, and otherwise nothing. -/
theorem compile_finds (h : compile root options = .ok p) :
    ∃ t l, SymbolTable.build root = .ok t
      ∧ Layout.ofProject root options.includeComments = .ok l
      ∧ ∀ position s, root.at? position = some s → root.NamedAlong position →
        p.Finds root ⟨t, options⟩ l s := by
  obtain ⟨t, ht, -, haccounts⟩ := exists_accounts h
  obtain ⟨id, hlaid⟩ := exists_isLaid h
  have hlists := SymbolTable.build_eq_ok_iff.1 ht
  obtain ⟨l, hl, hunits⟩ := map_eq_ok.1 haccounts.planned_eq
  refine ⟨t, l, ht, hl, fun position s hs hnamed => ?_⟩
  obtain ⟨names, hspells⟩ := hnamed.exists_spells hs
  exact haccounts.finds hlaid hlists hunits (hlists.mem_symbols_iff.2 ⟨position, hs⟩) hspells

end

/-! ## A unit that was left out -/

theorem greeter_named : greeterTable.Named := by
  rw [SymbolTable.Named]
  decide +kernel

/-- Of the nodes of this project only the function that can be emitted is found. -/
theorem greeter_finds :
    ∃ p file, compile greeter greeterOptions = .ok p ∧ p.declaration? "Demo.greet" = some file
      ∧ p.declaration? "Demo.broken" = none ∧ p.declaration? "Demo" = none
      ∧ p.declaration? "Demo.greet.name" = none := by
  obtain ⟨p, hp⟩ := greeter_compiles
  obtain ⟨t, l, ht, -, hfinds⟩ := compile_finds hp
  rw [greeter_build] at ht
  cases ht
  have hlists := SymbolTable.build_eq_ok_iff.1 greeter_build
  have hnamed := Item.NamedAlong.of_named greeter_named hlists
  have hgreet := hfinds [0] greeterSymbol rfl (hnamed _)
  have hbroken := hfinds [1] greeterBrokenSymbol rfl (hnamed _)
  have hroot := hfinds [] ⟨greeter, "Demo", none⟩ rfl (hnamed _)
  have hname := hfinds [0, 0] ⟨greeterGreet.children[0], "Demo.greet.name", some .function⟩ rfl
    (hnamed _)
  have hexposed : greeter.Exposes greeterSymbol :=
    .child .root rfl ⟨List.mem_cons_self, rfl, rfl⟩
  obtain ⟨unit, hunit, hitem, hfull⟩ := hgreet.unit_iff.2 ⟨hexposed, rfl⟩
  obtain ⟨file, hfile⟩ := greeter_emits
  obtain ⟨c, hc, -⟩ := Emitter.emit_eq_ok_iff.1 hfile
  have hclass : Emitter.publicClass ⟨greeterTable, greeterOptions⟩ unit = .ok c := by
    obtain ⟨item, fullName, package, directory⟩ := unit
    cases hitem
    cases hfull
    exact hc
  refine ⟨p, unit.file c, hp, (hgreet.found_iff _).2 ⟨unit, hunit, hitem, hfull, ?_⟩,
    hbroken.eq_none ?_, hroot.eq_none ?_, hname.eq_none ?_⟩
  · exact Emitter.emit_eq_ok_iff.2 ⟨c, hclass, rfl⟩
  · rintro ⟨item, fullName, package, directory⟩ - rfl rfl file hemit
    cases hemit
  · intro unit hunit hitem hfull
    obtain ⟨-, hkind⟩ := hroot.unit_iff.1 ⟨unit, hunit, hitem, hfull⟩
    cases hkind
  · intro unit hunit hitem hfull
    obtain ⟨-, hkind⟩ := hname.unit_iff.1 ⟨unit, hunit, hitem, hfull⟩
    cases hkind

end Flowchart
