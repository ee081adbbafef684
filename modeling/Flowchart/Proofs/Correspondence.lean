import Flowchart.Proofs.Exposed
import Flowchart.Proofs.Resemblance

set_option autoImplicit false

/-! # Trees that correspond

A tree can be given in other forms that should make no difference, or only one that is known: its
blocks can have other identifiers, its items other comments, and the children of its projects and
packages and the blocks of its functions can be listed in another order. The symbols of two such
trees correspond one by one, and so do the answers of their tables. -/

namespace Flowchart

/-! ## Lists in another order -/

section

variable {α β γ δ : Type} {shuffled : Prop}

/-- The same list, or the same elements in any order if they may be shuffled. -/
def Reordered (shuffled : Prop) (l l' : List α) : Prop := l = l' ∨ shuffled ∧ l.Perm l'

namespace Reordered

variable {l l' m m' : List α}

theorem perm (h : Reordered shuffled l l') : l.Perm l' := by
  rcases h with rfl | ⟨-, hperm⟩
  · exact .refl _
  · exact hperm

theorem eq (hfixed : ¬ shuffled) (h : Reordered shuffled l l') : l = l' :=
  h.resolve_right fun hperm => hfixed hperm.1

theorem mono {shuffled' : Prop} (himp : shuffled → shuffled') (h : Reordered shuffled l l') :
    Reordered shuffled' l l' :=
  h.imp_right fun ⟨hshuffled, hperm⟩ => ⟨himp hshuffled, hperm⟩

theorem congr {F : List α → List β} (hF : ∀ {l l' : List α}, l.Perm l' → (F l).Perm (F l'))
    (h : Reordered shuffled l l') : Reordered shuffled (F l) (F l') :=
  h.imp (congrArg F) fun ⟨hshuffled, hperm⟩ => ⟨hshuffled, hF hperm⟩

theorem append (h : Reordered shuffled l l') (h' : Reordered shuffled m m') :
    Reordered shuffled (l ++ m) (l' ++ m') := by
  rcases h with rfl | ⟨hshuffled, hperm⟩
  · exact h'.congr fun hperm => hperm.append_left _
  · exact Or.inr ⟨hshuffled, hperm.append h'.perm⟩

end Reordered

/-- Lists with related elements, the second one in another order if it may be shuffled. -/
def Paired (shuffled : Prop) (R : α → β → Prop) (as : List α) (bs : List β) : Prop :=
  ∃ middle, List.Forall₂ R as middle ∧ Reordered shuffled middle bs

namespace Paired

variable {R : α → β → Prop} {S : γ → δ → Prop} {as as' : List α} {bs bs' : List β}

theorem nil : Paired shuffled R [] [] := ⟨[], .nil, Or.inl rfl⟩

theorem refl (l : List α) : Paired shuffled Eq l l := ⟨l, List.forall₂_eq_eq_eq ▸ rfl, Or.inl rfl⟩

theorem append (h : Paired shuffled R as bs) (h' : Paired shuffled R as' bs') :
    Paired shuffled R (as ++ as') (bs ++ bs') := by
  obtain ⟨middle, hrelated, hordered⟩ := h
  obtain ⟨middle', hrelated', hordered'⟩ := h'
  exact ⟨middle ++ middle', List.rel_append hrelated hrelated', hordered.append hordered'⟩

theorem cons {a : α} {b : β} (hab : R a b) (h : Paired shuffled R as bs) :
    Paired shuffled R (a :: as) (b :: bs) :=
  append ⟨[b], .cons hab .nil, Or.inl rfl⟩ h

theorem forall₂ (hfixed : ¬ shuffled) (h : Paired shuffled R as bs) : List.Forall₂ R as bs := by
  obtain ⟨middle, hrelated, hordered⟩ := h
  rwa [hordered.eq hfixed] at hrelated

theorem flatMap {g : α → List γ} {g' : β → List δ} (h : Paired shuffled R as bs)
    (hg : ∀ a ∈ as, ∀ b, R a b → Paired shuffled S (g a) (g' b)) :
    Paired shuffled S (as.flatMap g) (bs.flatMap g') := by
  obtain ⟨middle, hrelated, hordered⟩ := h
  have hmiddle : Paired shuffled S (as.flatMap g) (middle.flatMap g') := by
    clear hordered
    induction hrelated with
    | nil => exact nil
    | cons hab _ ih =>
      rw [List.flatMap_cons, List.flatMap_cons]
      refine (hg _ List.mem_cons_self _ hab).append ?_
      exact ih fun a ha => hg a (List.mem_cons_of_mem _ ha)
  obtain ⟨parts, hparts, hperm⟩ := hmiddle
  refine ⟨parts, hparts, ?_⟩
  have hflat : Reordered shuffled (middle.flatMap g') (bs.flatMap g') :=
    hordered.congr fun hperm => hperm.flatMap_right g'
  -- reordered twice
  rcases hflat with heq | ⟨hshuffled, hflat⟩
  · rwa [← heq]
  · exact Or.inr ⟨hshuffled, hperm.perm.trans hflat⟩

theorem filter {p : α → Bool} {q : β → Bool} (h : Paired shuffled R as bs)
    (hpq : ∀ a b, R a b → p a = q b) : Paired shuffled R (as.filter p) (bs.filter q) := by
  obtain ⟨middle, hrelated, hordered⟩ := h
  refine ⟨middle.filter q, ?_, hordered.congr fun hperm => hperm.filter q⟩
  exact List.rel_filter (fun a b hab => Bool.eq_iff_iff.1 (hpq a b hab)) hrelated

theorem imp {R' : α → β → Prop} (h : Paired shuffled R as bs)
    (himp : ∀ a ∈ as, ∀ b ∈ bs, R a b → R' a b) : Paired shuffled R' as bs := by
  obtain ⟨middle, hrelated, hordered⟩ := h
  have hright : List.Forall₂ (fun b a => b ∈ bs ∧ R a b) middle as :=
    (List.forall₂_and_left _ _).2 ⟨fun b hb => hordered.perm.subset hb, hrelated.flip⟩
  have hboth : List.Forall₂ (fun a b => a ∈ as ∧ b ∈ bs ∧ R a b) as middle :=
    (List.forall₂_and_left _ _).2 ⟨fun a ha => ha, hright.flip⟩
  exact ⟨middle, hboth.imp fun a b ⟨ha, hb, hab⟩ => himp a ha b hb hab, hordered⟩

theorem map {g : α → γ} {g' : β → δ} (h : Paired shuffled R as bs)
    (hg : ∀ a ∈ as, ∀ b ∈ bs, R a b → S (g a) (g' b)) :
    Paired shuffled S (as.map g) (bs.map g') := by
  obtain ⟨middle, hrelated, hordered⟩ := h.imp hg
  refine ⟨middle.map g', ?_, hordered.congr fun hperm => hperm.map g'⟩
  rwa [List.forall₂_map_left_iff, List.forall₂_map_right_iff]

/-- Lists of the same elements. -/
theorem reordered {as bs : List α} (h : Paired shuffled Eq as bs) : Reordered shuffled as bs := by
  obtain ⟨middle, hrelated, hordered⟩ := h
  rw [List.forall₂_eq_eq_eq] at hrelated
  rwa [hrelated]

theorem exists_right (h : Paired shuffled R as bs) {a : α} (ha : a ∈ as) : ∃ b ∈ bs, R a b := by
  obtain ⟨middle, hrelated, hordered⟩ := h
  obtain ⟨b, hb, hab⟩ := exists_right_of_forall₂ hrelated ha
  exact ⟨b, hordered.perm.subset hb, hab⟩

theorem exists_left (h : Paired shuffled R as bs) {b : β} (hb : b ∈ bs) : ∃ a ∈ as, R a b := by
  obtain ⟨middle, hrelated, hordered⟩ := h
  exact exists_left_of_forall₂ hrelated (hordered.perm.symm.subset hb)

end Paired

end

/-! ## Items -/

variable {shuffled : Prop} {f : Uuid → Uuid} {C : String → String → Prop}

/-- Two items that are the same but for their children, the order and the identifiers of their
    blocks, and comments that are related. -/
structure Item.SameHead (shuffled : Prop) (f : Uuid → Uuid) (C : String → String → Prop)
    (item other : Item) : Prop where
  name_eq : other.name = item.name
  kind_eq : other.kind = item.kind
  id_eq : other.id = item.id
  typeName_eq : other.typeName = item.typeName
  returnType_eq : other.returnType = item.returnType
  comments : C item.comments other.comments
  blocks : Reordered shuffled (item.blocks.map (Block.rename f)) other.blocks

/-- Two trees of items that are the same but for their blocks and comments and, if they may be
    shuffled, the order of the children of projects and packages. -/
inductive Item.Corresponds (shuffled : Prop) (f : Uuid → Uuid) (C : String → String → Prop) :
    Item → Item → Prop
  | mk {item other : Item} {middle : List Item} (head : item.SameHead shuffled f C other)
      (children : List.Forall₂ (Corresponds shuffled f C) item.children middle)
      (siblings : Reordered (shuffled ∧ item.kind.isNamespace = true) middle other.children) :
      Corresponds shuffled f C item other

namespace Item.Corresponds

variable {item other : Item}

theorem head (h : item.Corresponds shuffled f C other) : item.SameHead shuffled f C other := by
  cases h with
  | mk head => exact head

/-- The children of namespaces may be shuffled. -/
theorem children_paired (h : item.Corresponds shuffled f C other) :
    Paired shuffled (Corresponds shuffled f C) item.children other.children := by
  cases h with
  | mk head children siblings => exact ⟨_, children, siblings.mono And.left⟩

/-- The children of other items stay in their order. -/
theorem children_forall₂ (h : item.Corresponds shuffled f C other)
    (hleaf : item.kind.isNamespace = false) :
    List.Forall₂ (Corresponds shuffled f C) item.children other.children := by
  cases h with
  | mk head children siblings =>
    rwa [siblings.eq (by simp [hleaf])] at children

end Item.Corresponds

/-- An item corresponds to itself if no identifiers change. -/
theorem corresponds_refl (hC : ∀ comments, C comments comments) (item : Item) :
    item.Corresponds shuffled id C item := by
  induction item using Item.induction with
  | h item ih =>
    have hhead : item.SameHead shuffled id C item :=
      ⟨rfl, rfl, rfl, rfl, rfl, hC _, Or.inl (map_rename_id item.blocks)⟩
    exact .mk hhead (List.forall₂_same.2 ih) (Or.inl rfl)

/-! ## Symbols -/

/-- Symbols of the same name and place whose items correspond. -/
structure Symbol.Corresponds (shuffled : Prop) (f : Uuid → Uuid) (C : String → String → Prop)
    (s s' : Symbol) : Prop where
  fullName_eq : s'.fullName = s.fullName
  parentKind_eq : s'.parentKind = s.parentKind
  item : s.item.Corresponds shuffled f C s'.item

namespace Symbol.Corresponds

variable {s s' : Symbol}

theorem sameInterface (h : s.Corresponds shuffled f C s') : s.SameInterface s' where
  fullName_eq := h.fullName_eq
  name_eq := h.item.head.name_eq
  kind_eq := h.item.head.kind_eq
  parentKind_eq := h.parentKind_eq
  typeName_eq := h.item.head.typeName_eq
  returnType_eq := h.item.head.returnType_eq

theorem sameFunction (h : s.Corresponds shuffled f C s')
    (hleaf : s.item.kind.isNamespace = false) : s.SameFunction f s' where
  toSameInterface := h.sameInterface
  childNames_eq := by
    have hnames := List.rel_map (fun _ _ hchild => hchild.head.name_eq.symm)
      (h.item.children_forall₂ hleaf)
    exact (List.forall₂_eq_eq_eq ▸ hnames).symm
  blocks_perm := h.item.head.blocks.perm

end Symbol.Corresponds

namespace Item.Corresponds

variable {item other : Item}

/-- The symbols of trees that correspond do so too. -/
theorem symbols_paired (h : item.Corresponds shuffled f C other) (parent : String)
    (parentKind : Option ItemKind) :
    Paired shuffled (Symbol.Corresponds shuffled f C) (item.symbols parent parentKind)
      (other.symbols parent parentKind) := by
  induction item using Item.induction generalizing other parent parentKind with
  | h item ih =>
    rw [symbols_eq, symbols_eq, h.head.name_eq, h.head.kind_eq]
    refine .cons ⟨rfl, rfl, h⟩ (h.children_paired.flatMap ?_)
    intro child hchild other hother
    exact ih child hchild hother _ _

theorem exposed_paired (h : item.Corresponds shuffled f C other) (parent : String)
    (parentKind : Option ItemKind) :
    Paired shuffled (Symbol.Corresponds shuffled f C) (item.exposed parent parentKind)
      (other.exposed parent parentKind) := by
  induction item using Item.induction generalizing other parent parentKind with
  | h item ih =>
    rw [exposed_eq, exposed_eq, h.head.name_eq, h.head.kind_eq]
    refine .cons ⟨rfl, rfl, h⟩ ?_
    split
    · exact h.children_paired.flatMap fun child hchild other hother => ih child hchild hother _ _
    · exact .nil

/-! ## Tables -/

variable {root other : Item} {t t' : SymbolTable} {name : String} {s : Symbol}

theorem exists_found (h : root.Corresponds shuffled f C other) (ht : t.Lists root)
    (ht' : t'.Lists other) (hfound : t.find? name = some s) :
    ∃ s', t'.find? name = some s' ∧ s.Corresponds shuffled f C s' := by
  obtain ⟨hs, rfl⟩ := ht.find?_eq_some_iff.1 hfound
  rw [ht.symbols_eq] at hs
  obtain ⟨s', hs', hcorresponds⟩ := (h.symbols_paired "" none).exists_right hs
  rw [← ht'.symbols_eq] at hs'
  exact ⟨s', ht'.find?_eq_some_iff.2 ⟨hs', hcorresponds.fullName_eq⟩, hcorresponds⟩

theorem find?_eq_none (h : root.Corresponds shuffled f C other) (ht : t.Lists root)
    (ht' : t'.Lists other) (hmissing : t.find? name = none) : t'.find? name = none := by
  cases hfound' : t'.find? name with
  | none => rfl
  | some s' =>
    obtain ⟨hs', rfl⟩ := ht'.find?_eq_some_iff.1 hfound'
    rw [ht'.symbols_eq] at hs'
    obtain ⟨s, hs, hcorresponds⟩ := (h.symbols_paired "" none).exists_left hs'
    rw [← ht.symbols_eq] at hs
    have hfound := ht.find?_eq_some_iff.2 ⟨hs, hcorresponds.fullName_eq.symm⟩
    rw [hmissing] at hfound
    cases hfound

/-- The tables of trees that correspond agree. -/
theorem agrees (h : root.Corresponds shuffled f C other) (ht : t.Lists root) (ht' : t'.Lists other)
    (exact : Prop) : t.Agrees exact t' where
  found hfound := by
    obtain ⟨s', hfound', hcorresponds⟩ := h.exists_found ht ht' hfound
    exact ⟨s', hfound', hcorresponds.sameInterface⟩
  missing _ := h.find?_eq_none ht ht'

end Item.Corresponds

end Flowchart
