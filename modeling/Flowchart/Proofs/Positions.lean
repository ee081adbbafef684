import Flowchart.Proofs.Members
import Flowchart.Proofs.Places
import Mathlib.Logic.Relation

set_option autoImplicit false

/-! # Positions in a tree

A symbol of a tree is exposed, or it lies in a declaration: somewhere inside an exposed symbol that
is no namespace. A declaration that can be emitted has looked at what lies in it: in classes there
are variables and functions, in functions parameters and variables. Only what lies in variables and
parameters is never looked at. -/

namespace Flowchart

open Relation (TransGen)

/-- A symbol that lies inside another one, at any depth. -/
def Symbol.LiesIn : Symbol → Symbol → Prop := TransGen Symbol.IsChild

/-- The full name of what lies in a symbol starts with that of the symbol. -/
theorem Symbol.LiesIn.exists_fullName_eq {s outer : Symbol} (h : s.LiesIn outer)
    (houter : outer.fullName ≠ "") : ∃ rest, s.fullName = outer.fullName ++ "." ++ rest := by
  induction h with
  | single hchild =>
    exact ⟨s.item.name, by rw [hchild.fullName_eq, FullName.join_of_ne _ houter]⟩
  | @tail inner outer _ hchild ih =>
    have hjoin : inner.fullName = outer.fullName ++ "." ++ inner.item.name := by
      rw [hchild.fullName_eq, FullName.join_of_ne _ houter]
    obtain ⟨rest, hrest⟩ := ih (by simp [hjoin])
    refine ⟨inner.item.name ++ "." ++ rest, ?_⟩
    rw [hrest, hjoin]
    simp only [String.append_assoc]

/-! ## Going up and down in a table -/

namespace SymbolTable.Lists

variable {t : SymbolTable} {root : Item} {s outer : Symbol}

theorem parent_unique (ht : t.Lists root) {outer' : Symbol} (houter : outer ∈ t.symbols)
    (houter' : outer' ∈ t.symbols) (h : s.IsChild outer) (h' : s.IsChild outer') :
    outer = outer' := by
  have hjoin : FullName.join outer.fullName s.item.name
      = FullName.join outer'.fullName s.item.name := by rw [← h.fullName_eq, ← h'.fullName_eq]
  exact ht.symbol_unique houter houter' (FullName.join_left_injective hjoin)

/-- What is declared in something exposed has a namespace around it. -/
theorem isNamespace_of_exposes (ht : t.Lists root) (hs : root.Exposes s)
    (houter : outer ∈ t.symbols) (h : s.IsChild outer) :
    root.Exposes outer ∧ outer.item.kind.isNamespace = true := by
  cases hs with
  | root =>
    have hkind := h.parentKind_eq
    cases hkind
  | child exposed inside isChild =>
    rw [ht.parent_unique houter (ht.mem_of_exposes exposed) h isChild]
    exact ⟨exposed, inside⟩

/-- Going up from something exposed there are only namespaces. -/
theorem isNamespace_of_liesIn (ht : t.Lists root) (hs : root.Exposes s) (houter : outer ∈ t.symbols)
    (h : s.LiesIn outer) : root.Exposes outer ∧ outer.item.kind.isNamespace = true := by
  induction h with
  | single hchild => exact ht.isNamespace_of_exposes hs houter hchild
  | tail _ hchild ih =>
    obtain ⟨hexposed, -⟩ := ih (ht.mem_of_isChild houter hchild)
    exact ht.isNamespace_of_exposes hexposed houter hchild

/-- A symbol is exposed or lies in a declaration that is. -/
theorem exposes_or_liesIn (ht : t.Lists root) (hs : s ∈ t.symbols) :
    root.Exposes s
      ∨ ∃ outer, root.Exposes outer ∧ outer.item.kind.isNamespace = false ∧ s.LiesIn outer := by
  refine ht.induction (P := fun s => root.Exposes s ∨ ∃ outer, root.Exposes outer
    ∧ outer.item.kind.isNamespace = false ∧ s.LiesIn outer) (Or.inl .root) ?_ hs
  rintro outer - (hexposed | ⟨declaration, hexposed, hleaf, hinside⟩) s hchild
  · cases hkind : outer.item.kind.isNamespace with
    | true => exact Or.inl (.child hexposed hkind hchild)
    | false => exact Or.inr ⟨outer, hexposed, hkind, .single hchild⟩
  · exact Or.inr ⟨declaration, hexposed, hleaf, .head hchild hinside⟩

end SymbolTable.Lists

/-! ## What is looked at in a declaration -/

theorem ItemKind.isNamespace_of_isAssignable {kind : ItemKind} (h : kind.isAssignable = true) :
    kind.isNamespace = false := by
  cases kind with
  | «variable» | parameter => rfl
  | project | package | classItem | function => cases h

/-- A symbol that lies in a variable or parameter. Nothing looks at it. -/
def SymbolTable.InVariable (t : SymbolTable) (s : Symbol) : Prop :=
  ∃ v ∈ t.symbols, v.item.kind.isAssignable = true ∧ s.LiesIn v

/-- What is looked at in a declaration: a method of a class, or a field, parameter or local. -/
inductive Emitter.Looks (e : Emitter) : Symbol → Prop
  | method {s : Symbol} {result : JavaMethod × Bool} (isFunction : s.item.kind = .function)
      (inClass : s.parentKind = some .classItem)
      (emitted : e.method s.item s.fullName false = .ok result) : Looks e s
  | assignable {s : Symbol} (isAssignable : s.item.kind.isAssignable = true)
      (inside : s.parentKind = some .classItem ∨ s.parentKind = some .function) : Looks e s

/-- Nothing that is only looked at inside a declaration has a class of its own. -/
theorem Emitter.Looks.not_static {e : Emitter} {s : Symbol} (h : e.Looks s) :
    s.isStatic = false ∧ s.item.kind ≠ .classItem := by
  cases h with
  | method isFunction inClass emitted =>
    simp [Symbol.isStatic, isFunction, inClass, ItemKind.isNamespace]
  | assignable isAssignable inside =>
    constructor
    · rcases inside with hparent | hparent
      · simp [Symbol.isStatic, hparent, ItemKind.isNamespace]
      · simp [Symbol.isStatic, hparent, ItemKind.isNamespace]
    · intro hclass
      rw [hclass] at isAssignable
      cases isAssignable

namespace Emitter

variable {e : Emitter} {t : SymbolTable} {root : Item} {s outer : Symbol}

theorem looks_of_method {isStatic : Bool} {result : JavaMethod × Bool}
    (hkind : outer.item.kind = .function)
    (h : e.method outer.item outer.fullName isStatic = .ok result) (hchild : s.IsChild outer) :
    e.Looks s := by
  obtain ⟨signature, body, hof, -⟩ := method_eq_ok h
  have hassignable := hof.signature_isOf.assignable s.item hchild.mem
  have hparent := hchild.parentKind_eq
  rw [hkind] at hparent
  exact .assignable hassignable (Or.inr hparent)

/-- What an emitted declaration contains, one level below it, has been looked at. -/
theorem looks_of_emit {file : GeneratedFile} (h : e.emit outer.unit = .ok file)
    (hkind : outer.item.kind.isAssignable = false) (hchild : s.IsChild outer) : e.Looks s := by
  obtain ⟨c, hclass, -⟩ := bind_eq_ok.1 h
  unfold publicClass at hclass
  split at hclass
  · next hclassItem =>
      obtain ⟨members, hmembers, -⟩ := bind_eq_ok.1 hclass
      have hparent : s.parentKind = some .classItem := by
        rw [hchild.parentKind_eq]
        exact congrArg some hclassItem
      obtain ⟨results, hof⟩ := members_eq_ok hmembers
      rcases hof.kinds s.item hchild.mem with hvariable | hfunction
      · exact .assignable (by rw [hvariable]; rfl) (Or.inl hparent)
      · obtain ⟨result, -, hmethod⟩ := exists_right_of_forall₂ hof.results_forall₂
          (List.mem_filter.2 ⟨hchild.mem, decide_eq_true hfunction⟩)
        have hname : FullName.join outer.unit.fullName s.item.name = s.fullName :=
          hchild.fullName_eq.symm
        rw [hname] at hmethod
        exact .method hfunction hparent hmethod
  · next hfunction =>
      obtain ⟨⟨method, readsInput⟩, hmethod, -⟩ := bind_eq_ok.1 hclass
      exact looks_of_method hfunction hmethod hchild
  · next hvariable =>
      have hassignable : outer.item.kind.isAssignable = true := by
        rw [show outer.item.kind = .variable from hvariable]
        rfl
      rw [hkind] at hassignable
      cases hassignable
  · cases hclass

/-- If all declarations can be emitted, everything is exposed, has been looked at in a declaration
    or lies in a variable or parameter. -/
theorem exposes_or_looks (ht : t.Lists root)
    (hemit : ∀ s, root.Exposes s → s.item.kind.isNamespace = false →
      ∃ file, e.emit s.unit = .ok file) (hs : s ∈ t.symbols) :
    root.Exposes s ∨ e.Looks s ∨ t.InVariable s := by
  refine ht.induction (P := fun s => root.Exposes s ∨ e.Looks s ∨ t.InVariable s)
    (Or.inl .root) ?_ hs
  rintro outer houter position s hchild
  cases hkind : outer.item.kind.isAssignable with
  | true => exact Or.inr (Or.inr ⟨outer, houter, hkind, .single hchild⟩)
  | false =>
    rcases position with hexposed | hlooks | ⟨v, hv, hassignable, hinside⟩
    · cases hnamespace : outer.item.kind.isNamespace with
      | true => exact Or.inl (.child hexposed hnamespace hchild)
      | false =>
        obtain ⟨file, hfile⟩ := hemit outer hexposed hnamespace
        exact Or.inr (Or.inl (looks_of_emit hfile hkind hchild))
    · cases hlooks with
      | method isFunction inClass emitted =>
        exact Or.inr (Or.inl (looks_of_method isFunction emitted hchild))
      | assignable isAssignable inside =>
        rw [hkind] at isAssignable
        cases isAssignable
    · exact Or.inr (Or.inr ⟨v, hv, hassignable, .head hchild hinside⟩)

end Emitter

end Flowchart
