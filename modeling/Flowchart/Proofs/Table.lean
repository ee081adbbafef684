import Flowchart.Proofs.Success
import Flowchart.SymbolTable
import Mathlib.Data.List.Nodup

set_option autoImplicit false

/-! # The symbol table of a tree

What a table that could be built is: the items of the tree in order, parents before children, with
pairwise distinct full names and pairwise distinct identifiers of blocks. So looking a name up finds
exactly the symbols of the tree, and every symbol but the first is declared by another one. -/

namespace Flowchart

/-! ## Looking up by a key -/

/-- If no key repeats, a search by key finds exactly the element with the key. -/
theorem find?_key_eq_some_iff {α κ : Type} [BEq κ] [LawfulBEq κ] {key : α → κ} {l : List α}
    (h : (l.map key).Nodup) {k : κ} {a : α} :
    l.find? (fun x => key x == k) = some a ↔ a ∈ l ∧ key a = k := by
  constructor
  · intro hfind
    have hkey := List.find?_some hfind
    exact ⟨List.mem_of_find?_eq_some hfind, beq_iff_eq.1 hkey⟩
  · rintro ⟨ha, rfl⟩
    have hfound : (l.find? (fun x => key x == key a)).isSome :=
      List.find?_isSome.2 ⟨a, ha, beq_self_eq_true _⟩
    obtain ⟨b, hb⟩ := Option.isSome_iff_exists.1 hfound
    have hkey : (key b == key a) = true := List.find?_some (p := fun x => key x == key a) hb
    rw [hb, List.inj_on_of_nodup_map h (List.mem_of_find?_eq_some hb) ha (beq_iff_eq.1 hkey)]

/-! ## Symbols of a tree -/

theorem Item.symbolsAll_eq_flatMap (parent : String) (kind : ItemKind) (items : List Item) :
    Item.symbolsAll parent kind items = items.flatMap (·.symbols parent (some kind)) := by
  induction items with
  | nil => rfl
  | cons item rest ih => rw [Item.symbolsAll, ih, List.flatMap_cons]

/-- An item comes before the symbols of its children. -/
theorem Item.symbols_eq (parent : String) (parentKind : Option ItemKind) (item : Item) :
    item.symbols parent parentKind
      = ⟨item, FullName.join parent item.name, parentKind⟩
        :: item.children.flatMap (·.symbols (FullName.join parent item.name) (some item.kind)) := by
  rw [← Item.symbolsAll_eq_flatMap]
  cases item
  rfl

/-- A symbol that stands for a child of another one: its name is that of the parent with its own
    name added. -/
structure Symbol.IsChild (s parent : Symbol) : Prop where
  mem : s.item ∈ parent.item.children
  fullName_eq : s.fullName = FullName.join parent.fullName s.item.name
  parentKind_eq : s.parentKind = some parent.item.kind

/-- Every symbol of a tree is that of its root or a child of another symbol of the tree. -/
theorem Item.mem_symbols {item : Item} {parent : String} {parentKind : Option ItemKind}
    {s : Symbol} (h : s ∈ item.symbols parent parentKind) :
    s = ⟨item, FullName.join parent item.name, parentKind⟩
      ∨ ∃ p ∈ item.symbols parent parentKind, s.IsChild p := by
  induction item using Item.induction generalizing parent parentKind with
  | h item ih =>
    rw [Item.symbols_eq] at h
    rcases List.mem_cons.1 h with h | h
    · exact Or.inl h
    · -- the parent is the item itself or found in the same subtree
      right
      obtain ⟨child, hchild, h⟩ := List.mem_flatMap.1 h
      rcases ih child hchild h with rfl | ⟨p, hp, hs⟩
      · refine ⟨⟨item, FullName.join parent item.name, parentKind⟩, ?_, hchild, rfl, rfl⟩
        rw [Item.symbols_eq]
        exact List.mem_cons_self
      · refine ⟨p, ?_, hs⟩
        rw [Item.symbols_eq]
        exact List.mem_cons_of_mem _ (List.mem_flatMap.2 ⟨child, hchild, hp⟩)

/-- The children of a symbol of a tree have symbols of their own. -/
theorem Item.exists_symbol_of_child {item : Item} {parent : String} {parentKind : Option ItemKind}
    {s : Symbol} (h : s ∈ item.symbols parent parentKind) {child : Item}
    (hchild : child ∈ s.item.children) :
    ⟨child, FullName.join s.fullName child.name, some s.item.kind⟩
      ∈ item.symbols parent parentKind := by
  induction item using Item.induction generalizing parent parentKind with
  | h item ih =>
    rw [Item.symbols_eq] at h ⊢
    apply List.mem_cons_of_mem
    rcases List.mem_cons.1 h with rfl | h
    · refine List.mem_flatMap.2 ⟨child, hchild, ?_⟩
      rw [Item.symbols_eq]
      exact List.mem_cons_self
    · obtain ⟨other, hother, h⟩ := List.mem_flatMap.1 h
      exact List.mem_flatMap.2 ⟨other, hother, ih other hother h⟩

/-- A property holds of all symbols of a tree if it passes from a symbol to its children. -/
theorem Item.symbols_induction {P : Symbol → Prop} {item : Item} {parent : String}
    {parentKind : Option ItemKind} (hitem : P ⟨item, FullName.join parent item.name, parentKind⟩)
    (hchild : ∀ outer ∈ item.symbols parent parentKind, P outer →
      ∀ s : Symbol, s.IsChild outer → P s)
    {s : Symbol} (hs : s ∈ item.symbols parent parentKind) : P s := by
  induction item using Item.induction generalizing parent parentKind s with
  | h item ih =>
    rw [Item.symbols_eq] at hchild hs
    rcases List.mem_cons.1 hs with rfl | hs
    · exact hitem
    · obtain ⟨child, hmem, hs⟩ := List.mem_flatMap.1 hs
      refine ih child hmem (hchild _ List.mem_cons_self hitem _ ⟨hmem, rfl, rfl⟩) ?_ hs
      intro outer houter
      exact hchild outer (List.mem_cons_of_mem _ (List.mem_flatMap.2 ⟨child, hmem, houter⟩))

/-! ## Repetitions -/

/-- The identifiers of the blocks that a symbol's item owns. -/
def Symbol.blockIds (s : Symbol) : List Uuid := s.item.blocks.map (·.id)

theorem firstRepeatedBlock_eq_none_iff (used : List Uuid) (blocks : List Block) :
    firstRepeatedBlock used blocks = none
      ↔ (blocks.map (·.id)).Nodup ∧ ∀ b ∈ blocks, b.id ∉ used := by
  induction blocks generalizing used with
  | nil => simp [firstRepeatedBlock]
  | cons b rest ih =>
    rw [firstRepeatedBlock]
    by_cases hb : b.id ∈ used
    · simp [hb]
    · simp only [hb, if_false, ih, List.map_cons, List.nodup_cons, List.mem_map, List.mem_cons]
      grind

theorem firstRepetition_eq_none_iff (names : List String) (used : List Uuid)
    (symbols : List Symbol) :
    firstRepetition names used symbols = none
      ↔ ((symbols.map Symbol.fullName).Nodup ∧ ∀ s ∈ symbols, s.fullName ∉ names)
        ∧ (symbols.flatMap Symbol.blockIds).Nodup
        ∧ ∀ id ∈ symbols.flatMap Symbol.blockIds, id ∉ used := by
  -- what has been seen so far grows along the list
  induction symbols generalizing names used with
  | nil => simp [firstRepetition]
  | cons s rest ih =>
    rw [firstRepetition]
    by_cases hs : s.fullName ∈ names
    · simp [hs]
    · rw [if_neg hs]
      cases hblocks : firstRepeatedBlock used s.item.blocks with
      | some id =>
        have hrepeated :=
          (firstRepeatedBlock_eq_none_iff used s.item.blocks).not.1 (by simp [hblocks])
        simp only [List.flatMap_cons, List.nodup_append, List.mem_append, Symbol.blockIds,
          List.mem_map]
        grind
      | none =>
        have hfresh := (firstRepeatedBlock_eq_none_iff used s.item.blocks).1 hblocks
        simp only [ih, List.flatMap_cons, List.nodup_append, List.mem_append, Symbol.blockIds,
          List.mem_map, List.map_cons, List.nodup_cons, List.mem_cons]
        grind

/-! ## The table -/

namespace SymbolTable

/-- A table that lists a tree: all its items and blocks, and no name or identifier twice. -/
structure Lists (t : SymbolTable) (root : Item) : Prop where
  symbols_eq : t.symbols = root.symbols "" none
  blocks_eq : t.blocks = t.symbols.flatMap Symbol.ownedBlocks
  names_nodup : (t.symbols.map Symbol.fullName).Nodup
  ids_nodup : (t.symbols.flatMap Symbol.blockIds).Nodup

/-- A table can be built exactly for the trees that repeat no name and no identifier. -/
theorem build_eq_ok_iff {root : Item} {t : SymbolTable} : build root = .ok t ↔ t.Lists root := by
  have hnone := firstRepetition_eq_none_iff [] [] (root.symbols "" none)
  simp only [List.not_mem_nil, not_false_eq_true, implies_true, and_true] at hnone
  rw [build]
  cases hrep : firstRepetition [] [] (root.symbols "" none) with
  | some e =>
    constructor
    · intro h
      cases h
    · intro h
      have := hnone.2 ⟨h.symbols_eq ▸ h.names_nodup, h.symbols_eq ▸ h.ids_nodup⟩
      rw [hrep] at this
      cases this
  | none =>
    obtain ⟨hnames, hids⟩ := hnone.1 hrep
    constructor
    · intro h
      cases h
      exact ⟨rfl, rfl, hnames, hids⟩
    · intro h
      have hblocks := h.blocks_eq
      rw [h.symbols_eq] at hblocks
      rw [← hblocks, ← h.symbols_eq]

namespace Lists

variable {t : SymbolTable} {root : Item}

/-- A full name stands for at most one symbol. -/
theorem symbol_unique (h : t.Lists root) {s s' : Symbol} (hs : s ∈ t.symbols)
    (hs' : s' ∈ t.symbols) (hname : s.fullName = s'.fullName) : s = s' :=
  List.inj_on_of_nodup_map h.names_nodup hs hs' hname

/-- Looking a name up finds exactly the symbol of that name. -/
theorem find?_eq_some_iff (h : t.Lists root) {name : String} {s : Symbol} :
    t.find? name = some s ↔ s ∈ t.symbols ∧ s.fullName = name :=
  find?_key_eq_some_iff h.names_nodup

/-- The blocks of one item have different identifiers. -/
theorem blockIds_nodup (h : t.Lists root) {s : Symbol} (hs : s ∈ t.symbols) :
    (s.item.blocks.map (·.id)).Nodup :=
  (List.nodup_flatMap.1 h.ids_nodup).1 s hs

theorem root_mem (h : t.Lists root) : ⟨root, root.name, none⟩ ∈ t.symbols := by
  rw [h.symbols_eq, Item.symbols_eq]
  exact List.mem_cons_self

/-- A symbol is that of the root or a child of another symbol of the table. -/
theorem root_or_child (h : t.Lists root) {s : Symbol} (hs : s ∈ t.symbols) :
    s = ⟨root, root.name, none⟩ ∨ ∃ p ∈ t.symbols, s.IsChild p := by
  rw [h.symbols_eq] at hs ⊢
  exact Item.mem_symbols hs

/-- A symbol that was declared in an item of some kind is a child of a symbol of that kind. -/
theorem exists_parent (h : t.Lists root) {s : Symbol} (hs : s ∈ t.symbols) {kind : ItemKind}
    (hkind : s.parentKind = some kind) :
    ∃ p ∈ t.symbols, p.item.kind = kind ∧ s.IsChild p := by
  rcases h.root_or_child hs with hroot | ⟨p, hp, hchild⟩
  · rw [hroot] at hkind
    cases hkind
  · rw [hchild.parentKind_eq, Option.some_inj] at hkind
    exact ⟨p, hp, hkind, hchild⟩

/-- The children of a symbol of the table have symbols in it. -/
theorem exists_child (h : t.Lists root) {s : Symbol} (hs : s ∈ t.symbols) {child : Item}
    (hchild : child ∈ s.item.children) :
    ⟨child, FullName.join s.fullName child.name, some s.item.kind⟩ ∈ t.symbols := by
  rw [h.symbols_eq] at hs ⊢
  exact Item.exists_symbol_of_child hs hchild

/-- A property of symbols holds in a whole table if it passes from a symbol to its children. -/
theorem induction {P : Symbol → Prop} (h : t.Lists root) (hroot : P ⟨root, root.name, none⟩)
    (hchild : ∀ outer ∈ t.symbols, P outer → ∀ s : Symbol, s.IsChild outer → P s) {s : Symbol}
    (hs : s ∈ t.symbols) : P s := by
  rw [h.symbols_eq] at hchild hs
  exact Item.symbols_induction hroot hchild hs

theorem mem_of_isChild (h : t.Lists root) {s outer : Symbol} (houter : outer ∈ t.symbols)
    (hchild : s.IsChild outer) : s ∈ t.symbols := by
  have hmem := h.exists_child houter hchild.mem
  rwa [← hchild.fullName_eq, ← hchild.parentKind_eq] at hmem

end Lists

theorem resolve_eq_ok_iff (t : SymbolTable) {name : String} {s : Symbol} :
    t.resolve name = .ok s ↔ t.find? name = some s := by
  rw [resolve]
  cases t.find? name with
  | none => simp
  | some s' => simp

end SymbolTable

end Flowchart
