import Flowchart.Proofs.Table
import Mathlib.Data.List.Lex
import Mathlib.Data.Set.Card

set_option autoImplicit false

/-! # Nodes of a tree

A node of a tree is found by the way that leads to it from the root, whatever the names on the way
are. The lexicographic order of these ways is the preorder of the tree: a node comes before what is
below it, and everything below one child comes before the next child. -/

namespace Flowchart

/-! ## Ways to nodes -/

/-- The way from the root to a node: for each item on it, the number of the child to go on with. -/
abbrev Position := List Nat

namespace Symbol

/-- The symbol of an item that is declared in another one. -/
def child (s : Symbol) (item : Item) : Symbol where
  item := item
  fullName := FullName.join s.fullName item.name
  parentKind := some s.item.kind

/-- What a way leads to from a symbol. -/
def at? (s : Symbol) : Position → Option Symbol
  | [] => some s
  | i :: rest => (s.item.children[i]?).bind fun item => (s.child item).at? rest

end Symbol

/-- The node of a tree at a position: its item, its full name and the kind of its parent. -/
def Item.at? (root : Item) (p : Position) : Option Symbol :=
  Symbol.at? ⟨root, FullName.join "" root.name, none⟩ p

/-! ## All nodes in preorder -/

mutual

/-- The nodes of a tree with their positions, parents before children. -/
def Item.nodes (parent : String) (parentKind : Option ItemKind) : Item → List (Position × Symbol)
  | { name, kind, id, comments, children, typeName, returnType, blocks } =>
    let item : Item := { name, kind, id, comments, children, typeName, returnType, blocks }
    ([], ⟨item, FullName.join parent name, parentKind⟩)
      :: Item.nodesFrom 0 (FullName.join parent name) kind children

/-- The nodes of several trees with the same parent, which are its children from a number on. -/
def Item.nodesFrom (first : Nat) (parent : String) (parentKind : ItemKind) :
    List Item → List (Position × Symbol)
  | [] => []
  | item :: rest =>
    (item.nodes parent (some parentKind)).map (fun n => (first :: n.1, n.2))
      ++ Item.nodesFrom (first + 1) parent parentKind rest

end

namespace Item

variable {parent : String} {kind : ItemKind} {parentKind : Option ItemKind} {item : Item}

theorem nodes_eq (item : Item) : item.nodes parent parentKind
    = ([], ⟨item, FullName.join parent item.name, parentKind⟩)
      :: nodesFrom 0 (FullName.join parent item.name) item.kind item.children := by
  cases item
  rfl

/-- The nodes from a number on are those of one child after the other. -/
theorem mem_nodesFrom_iff {first : Nat} {items : List Item} {p : Position} {s : Symbol} :
    (p, s) ∈ nodesFrom first parent kind items
      ↔ ∃ i below child, p = (first + i) :: below ∧ items[i]? = some child
        ∧ (below, s) ∈ child.nodes parent (some kind) := by
  induction items generalizing first with
  | nil => simp [nodesFrom]
  | cons item rest ih =>
    rw [nodesFrom, List.mem_append, ih, List.mem_map]
    constructor
    · rintro (⟨⟨below, s'⟩, hmem, heq⟩ | ⟨i, below, child, rfl, hchild, hmem⟩)
      · simp only [Prod.mk.injEq] at heq
        obtain ⟨rfl, rfl⟩ := heq
        exact ⟨0, below, item, rfl, rfl, hmem⟩
      · exact ⟨i + 1, below, child, by rw [Nat.add_assoc, Nat.add_comm 1], hchild, hmem⟩
    · rintro ⟨i, below, child, rfl, hchild, hmem⟩
      cases i with
      | zero =>
        simp only [List.getElem?_cons_zero, Option.some.injEq] at hchild
        subst hchild
        exact Or.inl ⟨(below, s), hmem, rfl⟩
      | succ i =>
        rw [List.getElem?_cons_succ] at hchild
        exact Or.inr ⟨i, below, child, by rw [Nat.add_assoc, Nat.add_comm 1], hchild, hmem⟩

/-- The list of nodes has every node at its position, and nothing else. -/
theorem mem_nodes_iff {p : Position} {s : Symbol} :
    (p, s) ∈ item.nodes parent parentKind
      ↔ Symbol.at? ⟨item, FullName.join parent item.name, parentKind⟩ p = some s := by
  induction item using Item.induction generalizing parent parentKind p with
  | h item ih =>
    rw [nodes_eq, List.mem_cons, mem_nodesFrom_iff]
    cases p with
    | nil => simp [Symbol.at?, eq_comm]
    | cons i below =>
      simp only [Prod.mk.injEq, List.cons_ne_nil, false_and, false_or, Nat.zero_add,
        List.cons.injEq, Symbol.at?, Option.bind_eq_some_iff]
      constructor
      · rintro ⟨_, _, child, ⟨rfl, rfl⟩, hchild, hmem⟩
        exact ⟨child, hchild, (ih child (List.mem_of_getElem? hchild)).1 hmem⟩
      · rintro ⟨child, hchild, hat⟩
        exact ⟨i, below, child, ⟨rfl, rfl⟩, hchild, (ih child (List.mem_of_getElem? hchild)).2 hat⟩

/-! ## Their order -/

theorem map_snd_nodesFrom (first : Nat) {items : List Item}
    (h : ∀ child ∈ items, (child.nodes parent (some kind)).map Prod.snd
      = child.symbols parent (some kind)) :
    (nodesFrom first parent kind items).map Prod.snd = symbolsAll parent kind items := by
  induction items generalizing first with
  | nil => rfl
  | cons child rest ih =>
    rw [nodesFrom, symbolsAll, List.map_append,
      ih (first + 1) fun c hc => h c (List.mem_cons_of_mem _ hc), List.map_map,
      ← h child List.mem_cons_self]
    rfl

/-- Without their positions the nodes are the symbols of the tree. -/
theorem map_snd_nodes :
    (item.nodes parent parentKind).map Prod.snd = item.symbols parent parentKind := by
  induction item using Item.induction generalizing parent parentKind with
  | h item ih =>
    have hchildren : ∀ child ∈ item.children,
        (child.nodes (FullName.join parent item.name) (some item.kind)).map Prod.snd
          = child.symbols (FullName.join parent item.name) (some item.kind) :=
      fun child hchild => ih child hchild
    rw [nodes_eq, symbols_eq, ← symbolsAll_eq_flatMap, List.map_cons,
      map_snd_nodesFrom 0 hchildren]

theorem pairwise_nodesFrom {first : Nat} {items : List Item}
    (h : ∀ child ∈ items, (child.nodes parent (some kind)).Pairwise fun n m => n.1 < m.1) :
    (nodesFrom first parent kind items).Pairwise fun n m => n.1 < m.1 := by
  induction items generalizing first with
  | nil => exact List.Pairwise.nil
  | cons child rest ih =>
    rw [nodesFrom, List.pairwise_append]
    refine ⟨?_, ih fun c hc => h c (List.mem_cons_of_mem _ hc), ?_⟩
    · refine (h child List.mem_cons_self).map _ fun n m hlt => ?_
      exact List.cons_lt_cons_iff.2 (Or.inr ⟨rfl, hlt⟩)
    · -- what is below this child comes before what is below a later one
      intro n hn m hm
      obtain ⟨n', -, rfl⟩ := List.mem_map.1 hn
      obtain ⟨i, below, _, hposition, -, -⟩ := mem_nodesFrom_iff.1 hm
      rw [hposition]
      exact List.cons_lt_cons_iff.2 (Or.inl (by omega))

/-- The nodes are listed in the order of their positions. -/
theorem pairwise_nodes : (item.nodes parent parentKind).Pairwise fun n m => n.1 < m.1 := by
  induction item using Item.induction generalizing parent parentKind with
  | h item ih =>
    rw [nodes_eq, List.pairwise_cons]
    constructor
    · intro m hm
      obtain ⟨i, below, _, hposition, -, -⟩ := mem_nodesFrom_iff.1 hm
      rw [hposition]
      exact List.nil_lt_cons _ _
    · exact pairwise_nodesFrom fun child hchild => ih child hchild

end Item

end Flowchart
