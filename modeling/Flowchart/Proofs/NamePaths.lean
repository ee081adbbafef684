import Flowchart.Proofs.EntryFunctions
import Flowchart.Proofs.Repetitions
import Flowchart.Proofs.Scope

set_option autoImplicit false

/-! # Full names as ways through the tree

If names are not empty and have no dots in them, a full name tells the names on the way to a node:
it falls apart into them at its dots, begins with the root and, without its last name, is the full
name of the parent. The emitter joins full names by itself while it goes through a unit. Whatever
it comes to there is in the symbol table under the joined name, so no field, parameter or local
fails because its name stands for nothing. -/

namespace Flowchart

variable {s : Symbol} {position : Position}

/-! ## Names between dots -/

namespace FullName

/-- A name that keeps its bounds when it is joined to others. -/
structure IsSegment (name : String) : Prop where
  ne_empty : name ≠ ""
  dot_not_mem : '.' ∉ name.toList

instance (name : String) : Decidable (IsSegment name) :=
  decidable_of_iff (name ≠ "" ∧ '.' ∉ name.toList) ⟨fun h => ⟨h.1, h.2⟩, fun h => ⟨h.1, h.2⟩⟩

variable {outer outer' name name' : String}

theorem IsSegment.segments_eq (h : IsSegment name) : segments name = [name] := by
  have hone : name.toList.splitOn '.' = [name.toList] :=
    List.splitOn_eq_singleton h.dot_not_mem
  simp [segments, hone]

theorem segments_join (houter : outer ≠ "") (hname : IsSegment name) :
    segments (join outer name) = segments outer ++ [name] := by
  rw [join_of_ne name houter, segments_append, hname.segments_eq]

/-- A text is what its names make when they are joined again. -/
theorem intercalate_segments (fullName : String) :
    String.intercalate "." (segments fullName) = fullName := by
  rw [← String.toList_inj, String.toList_intercalate, segments, List.map_map]
  have hparts : String.toList ∘ String.ofList = id := funext fun l => String.toList_ofList
  rw [hparts, List.map_id]
  exact List.intercalate_splitOn '.'

theorem segments_injective : Function.Injective segments := by
  intro fullName fullName' h
  rw [← intercalate_segments fullName, h, intercalate_segments]

theorem parent_eq_empty (hname : '.' ∉ name.toList) : parent name = "" := by
  have hnone : name.toList.reverse.dropWhile (· ≠ '.') = [] := by
    rw [List.dropWhile_eq_nil_iff]
    intro c hc
    have hne : c ≠ '.' := fun heq => hname (heq ▸ List.mem_reverse.1 hc)
    simpa using hne
  rw [parent, hnone]
  rfl

end FullName

/-! ## The way to a node -/

/-- The names of what is on the way to a node of a tree, without the root. -/
def Item.namesBelow : Item → Position → List String
  | _, [] => []
  | item, i :: below =>
    match item.children[i]? with
    | some child => child.name :: child.namesBelow below
    | none => []

/-- The names on the way to a node of a tree, from the root to the node. -/
def Item.namesTo (root : Item) (position : Position) : List String :=
  root.name :: root.namesBelow position

/-- No name of a tree is empty or has a dot in it. -/
def Item.Segmented (root : Item) : Prop :=
  ∀ position s, root.at? position = some s → FullName.IsSegment s.item.name

/-- A way can be gone in two parts. -/
theorem Symbol.at?_append (start : Symbol) (position below : Position) :
    start.at? (position ++ below) = (start.at? position).bind (·.at? below) := by
  induction position generalizing start with
  | nil => rfl
  | cons i rest ih =>
    simp only [List.cons_append, Symbol.at?, ih, Option.bind_assoc]

/-- What the full name of a node says, if the names on the way from a symbol are segments. -/
theorem Symbol.names_of_at? {start : Symbol} (hstart : start.fullName ≠ "")
    (h : start.at? position = some s)
    (hsegment : ∀ above s, start.at? above = some s → FullName.IsSegment s.item.name) :
    s.fullName ≠ "" ∧ FullName.project s.fullName = FullName.project start.fullName
      ∧ FullName.segments s.fullName
        = FullName.segments start.fullName ++ start.item.namesBelow position := by
  induction position generalizing start with
  | nil =>
    cases h
    exact ⟨hstart, rfl, by simp [Item.namesBelow]⟩
  | cons i below ih =>
    obtain ⟨item, hitem, hbelow⟩ := Option.bind_eq_some_iff.1 h
    have hstep : ∀ above s, (start.child item).at? above = some s →
        start.at? (i :: above) = some s :=
      fun above s hs => Option.bind_eq_some_iff.2 ⟨item, hitem, hs⟩
    have hname : FullName.IsSegment item.name := hsegment [i] _ (hstep [] _ rfl)
    obtain ⟨hne, hproject, hsegments⟩ := ih (FullName.join_ne_empty hname.ne_empty) hbelow
      fun above s hs => hsegment (i :: above) s (hstep above s hs)
    refine ⟨hne, ?_, ?_⟩
    · rw [hproject]
      exact FullName.project_join hstart
    · rw [hsegments, Item.namesBelow, hitem]
      show FullName.segments (FullName.join start.fullName item.name) ++ _ = _
      rw [FullName.segments_join hstart hname, List.append_assoc]
      rfl

/-- Full names tell the ways to nodes. -/
structure Item.SpellsWays (root : Item) : Prop where
  segments_eq : ∀ {position s}, root.at? position = some s →
    FullName.segments s.fullName = root.namesTo position
  project_eq : ∀ {position s}, root.at? position = some s →
    FullName.project s.fullName = root.name
  /-- The root has no parent, and every other node the one it is declared in. -/
  parent_root : FullName.parent root.name = ""
  parent_eq : ∀ {position i outer s}, root.at? position = some outer →
    root.at? (position ++ [i]) = some s → FullName.parent s.fullName = outer.fullName
  /-- Nodes have the same full name exactly if the ways to them have the same names. -/
  fullName_eq_iff : ∀ {position position' s s'}, root.at? position = some s →
    root.at? position' = some s' →
    (s.fullName = s'.fullName ↔ root.namesTo position = root.namesTo position')
  /-- Static members with the same reference have the same full name. -/
  reference_injective : ∀ {position position' s s'}, root.at? position = some s →
    root.at? position' = some s' → s.isStatic = true → s'.isStatic = true →
    s.reference = s'.reference → s.fullName = s'.fullName

theorem Item.Segmented.names_of_at? {root : Item} (h : root.Segmented)
    (hs : root.at? position = some s) :
    s.fullName ≠ "" ∧ FullName.project s.fullName = root.name
      ∧ FullName.segments s.fullName = root.namesTo position := by
  have hroot : FullName.IsSegment root.name := h [] _ rfl
  obtain ⟨hne, hproject, hsegments⟩ := Symbol.names_of_at? hroot.ne_empty hs h
  refine ⟨hne, hproject.trans (FullName.project_eq_self hroot.dot_not_mem), ?_⟩
  rw [hsegments]
  show FullName.segments root.name ++ root.namesBelow position = _
  rw [hroot.segments_eq]
  rfl

theorem Item.Segmented.spellsWays {root : Item} (h : root.Segmented) : root.SpellsWays where
  segments_eq hs := (h.names_of_at? hs).2.2
  project_eq hs := (h.names_of_at? hs).2.1
  parent_root := FullName.parent_eq_empty (h [] _ rfl).dot_not_mem
  parent_eq := by
    intro position i outer s houter hs
    rw [Item.at?] at houter
    have hchild : outer.at? [i] = some s := by
      rwa [Item.at?, Symbol.at?_append, houter] at hs
    obtain ⟨item, -, hitem⟩ := Option.bind_eq_some_iff.1 hchild
    cases hitem
    exact FullName.parent_join (h.names_of_at? houter).1 (h _ _ hs).dot_not_mem
  fullName_eq_iff := by
    intro position position' s s' hs hs'
    rw [← (h.names_of_at? hs).2.2, ← (h.names_of_at? hs').2.2]
    exact FullName.segments_injective.eq_iff.symm
  reference_injective := by
    intro position position' s s' hs hs' hstatic hstatic' href
    -- the last name of a reference comes twice, so without it the full name is left
    rw [Symbol.reference, if_pos hstatic, Symbol.reference, if_pos hstatic'] at href
    have hsegments := congrArg FullName.segments href
    rw [FullName.segments_append, FullName.segments_append, (h _ _ hs).segments_eq,
      (h _ _ hs').segments_eq] at hsegments
    exact FullName.segments_injective (List.append_inj_left' hsegments rfl)

/-! ## Names that the emitter joins -/

/-- What there is in a unit, with the names that are joined on the way to it. -/
inductive DeclarationUnit.Contains (unit : DeclarationUnit) : Item → String → Prop
  | self : Contains unit unit.item unit.fullName
  | child {outer child : Item} {name : String} (contains : Contains unit outer name)
      (mem : child ∈ outer.children) : Contains unit child (FullName.join name child.name)

/-- An error that a name stands for nothing. -/
def CompileError.IsUnresolvedName : CompileError → Prop
  | .unresolvedName _ => True
  | _ => False

/-- A unit in which every joined name stands for what it was joined for. -/
structure DeclarationUnit.Resolves (unit : DeclarationUnit) (t : SymbolTable) : Prop where
  resolve_eq : ∀ {item name}, unit.Contains item name →
    ∃ parentKind, t.resolve name = .ok ⟨item, name, parentKind⟩
  child_resolve_eq : ∀ {outer name child}, unit.Contains outer name → child ∈ outer.children →
    t.resolve (FullName.join name child.name)
      = .ok ⟨child, FullName.join name child.name, some outer.kind⟩
  /-- The names of fields are known, and those of parameters and locals. -/
  field_fails : ∀ {item name} (options : Options) (modifiers : List JavaModifier),
    unit.Contains item name →
    FailsWith (¬ ·.IsUnresolvedName) (Emitter.field ⟨t, options⟩ item name modifiers)
  signature_fails : ∀ {item name} (options : Options), unit.Contains item name →
    FailsWith (¬ ·.IsUnresolvedName) (Emitter.signature ⟨t, options⟩ name item.children)

section

variable {t : SymbolTable} {root : Item} {unit : DeclarationUnit}

/-- What there is in a unit of a symbol is in the table under the joined name. -/
theorem SymbolTable.Lists.mem_of_contains (ht : t.Lists root) (hs : s ∈ t.symbols) {item : Item}
    {name : String} (h : s.unit.Contains item name) :
    ∃ parentKind, ⟨item, name, parentKind⟩ ∈ t.symbols := by
  induction h with
  | self => exact ⟨s.parentKind, hs⟩
  | child contains mem ih =>
    obtain ⟨parentKind, houter⟩ := ih
    exact ⟨_, ht.exists_child houter mem⟩

theorem SymbolTable.Lists.resolve_of_mem (ht : t.Lists root) (hs : s ∈ t.symbols) :
    t.resolve s.fullName = .ok s :=
  t.resolve_eq_ok_iff.2 (ht.find?_eq_some_iff.2 ⟨hs, rfl⟩)

end

/-! ## Errors about names -/

theorem Item.known_checkName (item : Item) (project : String) :
    FailsWith (¬ ·.IsUnresolvedName) (item.checkName project) := by
  unfold checkName
  split
  · exact .error not_false
  split
  · exact .error not_false
  split
  · exact .error not_false
  · exact .ok

theorem JavaType.known_defaultValue (type : JavaType) :
    FailsWith (¬ ·.IsUnresolvedName) type.defaultValue := by
  cases type with
  | double | boolean | string | «class» => exact .ok
  | void | array => exact .error not_false

namespace SymbolTable

variable (t : SymbolTable)

theorem known_resolveType (typeName : String) :
    FailsWith (¬ ·.IsUnresolvedName) (t.resolveType typeName) :=
  (t.resolveType_fails typeName).mono fun _ he => he ▸ not_false

theorem known_resolveTypeOf (s : Symbol) :
    FailsWith (¬ ·.IsUnresolvedName) (t.resolveTypeOf s) := by
  unfold resolveTypeOf
  split
  · exact t.known_resolveType _
  · exact .error not_false

end SymbolTable

namespace Emitter

variable {e : Emitter} {fullName : String} {items : List Item}

theorem known_typeOf (h : e.table.resolve fullName = .ok s) :
    FailsWith (¬ ·.IsUnresolvedName) (e.typeOf fullName) := by
  rw [typeOf, h]
  exact e.table.known_resolveTypeOf s

theorem known_field (h : e.table.resolve fullName = .ok s) (item : Item)
    (modifiers : List JavaModifier) :
    FailsWith (¬ ·.IsUnresolvedName) (e.field item fullName modifiers) := by
  unfold field
  exact (known_typeOf h).bind fun type _ => type.known_defaultValue.bind fun _ _ => .ok

theorem known_signature
    (h : ∀ child ∈ items, ∃ s, e.table.resolve (FullName.join fullName child.name) = .ok s) :
    FailsWith (¬ ·.IsUnresolvedName) (e.signature fullName items) := by
  induction items with
  | nil => exact .ok
  | cons child rest ih =>
    obtain ⟨⟨s, hs⟩, hrest⟩ := List.forall_mem_cons.1 h
    rw [signature]
    refine (child.known_checkName _).bind fun _ _ => ?_
    split
    · exact (known_typeOf hs).bind fun _ _ => (ih hrest).bind fun _ _ => .ok
    · refine (known_typeOf hs).bind fun type _ => ?_
      exact type.known_defaultValue.bind fun _ _ => (ih hrest).bind fun _ _ => .ok
    · exact .error not_false

end Emitter

/-! ## Coding and resolving -/

section

variable {t : SymbolTable} {root : Item} {includeComments : Bool} {l : Layout}

/-- In a unit that is laid out, every joined name stands for what it was joined for. -/
theorem SymbolTable.Lists.resolves (ht : t.Lists root)
    (hl : Layout.ofProject root includeComments = .ok l) {unit : DeclarationUnit}
    (hunit : unit ∈ l.units) : unit.Resolves t := by
  rw [units_of_ofProject hl] at hunit
  obtain ⟨s, hunits, rfl⟩ := List.mem_map.1 hunit
  have hs := mem_symbols_of_units ht hunits
  have hmem : ∀ {item name}, s.unit.Contains item name →
      ∃ parentKind, ⟨item, name, parentKind⟩ ∈ t.symbols := ht.mem_of_contains hs
  have hchild : ∀ {outer name child}, s.unit.Contains outer name → child ∈ outer.children →
      t.resolve (FullName.join name child.name)
        = .ok ⟨child, FullName.join name child.name, some outer.kind⟩ := by
    intro outer name child hcontains hchild
    obtain ⟨parentKind, houter⟩ := hmem hcontains
    exact ht.resolve_of_mem (ht.exists_child houter hchild)
  exact {
    resolve_eq := fun hcontains => (hmem hcontains).imp fun _ h => ht.resolve_of_mem h
    child_resolve_eq := hchild
    field_fails := fun options modifiers hcontains => by
      obtain ⟨parentKind, h⟩ := hmem hcontains
      exact Emitter.known_field (ht.resolve_of_mem h) _ modifiers
    signature_fails := fun options hcontains =>
      Emitter.known_signature fun child hmem => ⟨_, hchild hcontains hmem⟩ }

/-- Full names tell the ways to nodes if they can be taken apart, and in every unit that is laid out
    the joined names stand for what they were joined for. -/
theorem fullNames_faithful (root : Item) :
    (root.Segmented → root.SpellsWays)
      ∧ ∀ t l includeComments, SymbolTable.build root = .ok t →
        Layout.ofProject root includeComments = .ok l → ∀ unit ∈ l.units, unit.Resolves t :=
  ⟨fun h => h.spellsWays, fun _ _ _ ht hl _ hunit =>
    (SymbolTable.build_eq_ok_iff.1 ht).resolves hl hunit⟩

end

/-! ## The same name at two places -/

/-- The project whose method has a parameter of the same name as a field, with an identity. -/
def labelledCounter : Item := { counter with id := some (.ofNat 7) }

theorem labelledCounter_build : ∃ t, SymbolTable.build labelledCounter = .ok t := ⟨_, rfl⟩

theorem labelledCounter_segmented : labelledCounter.Segmented := by
  obtain ⟨t, ht⟩ := labelledCounter_build
  have hlists := SymbolTable.build_eq_ok_iff.1 ht
  have hall : ∀ s ∈ labelledCounter.symbols "" none, FullName.IsSegment s.item.name := by
    decide +kernel
  rw [← hlists.symbols_eq] at hall
  exact fun position s hs => hall s (hlists.mem_symbols_iff.2 ⟨position, hs⟩)

/-- The field and the parameter are told apart by their full names, each of which stands for its
    own item. -/
theorem labelledCounter_faithful :
    labelledCounter.SpellsWays ∧ ∃ t l unit, SymbolTable.build labelledCounter = .ok t
      ∧ Layout.ofProject labelledCounter true = .ok l ∧ unit ∈ l.units
      ∧ (∃ s, labelledCounter.at? [0, 1, 0] = some s
        ∧ FullName.segments s.fullName = ["Demo", "Counter", "show", "value"])
      ∧ t.resolve "Demo.Counter.value"
        = .ok ⟨counter.children[0].children[0], "Demo.Counter.value", some .classItem⟩
      ∧ t.resolve "Demo.Counter.show.value"
        = .ok ⟨counterShow.children[0], "Demo.Counter.show.value", some .function⟩ := by
  obtain ⟨hspells, hresolves⟩ := fullNames_faithful labelledCounter
  have hways := hspells labelledCounter_segmented
  obtain ⟨t, ht⟩ := labelledCounter_build
  obtain ⟨l, hl⟩ : ∃ l, Layout.ofProject labelledCounter true = .ok l :=
    exists_eq_ok (by decide +kernel)
  have hunits : l.units = [Symbol.unit ⟨counter.children[0], "Demo.Counter", some .project⟩] := by
    rw [units_of_ofProject hl]
    rfl
  have hunit : Symbol.unit ⟨counter.children[0], "Demo.Counter", some .project⟩ ∈ l.units := by
    rw [hunits]
    exact List.mem_singleton_self _
  have hunit' := hresolves t l true ht hl _ hunit
  have hself := @DeclarationUnit.Contains.self
    (Symbol.unit ⟨counter.children[0], "Demo.Counter", some .project⟩)
  have hmember : counterShow ∈ counter.children[0].children :=
    List.mem_cons_of_mem _ List.mem_cons_self
  have hshow := hself.child hmember
  have hparameter : labelledCounter.at? [0, 1, 0]
      = some ⟨counterShow.children[0], "Demo.Counter.show.value", some .function⟩ := rfl
  refine ⟨hways, t, l, _, ht, hl, hunit, ⟨_, hparameter, hways.segments_eq hparameter⟩, ?_, ?_⟩
  · exact hunit'.child_resolve_eq hself List.mem_cons_self
  · exact hunit'.child_resolve_eq hshow List.mem_cons_self

end Flowchart
