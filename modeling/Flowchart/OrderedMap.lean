set_option autoImplicit false

/-! # Ordered maps

Finite maps as association lists whose keys ascend strictly. Inserting puts a binding at its place
and replaces an older one of the same key, so a map depends on its bindings alone and not on the
order in which they came. `OrderedMap` carries the order of its keys as a proof; `insertBinding` is
the operation on bare lists. -/

namespace Flowchart

section

variable {κ α : Type} [DecidableEq κ]

/-! ## Inserting into an ascending list -/

/-- Binds `key` to `value` in an ascending list; an older binding of `key` is replaced. -/
def insertBinding (lt : κ → κ → Bool) (key : κ) (value : α) : List (κ × α) → List (κ × α)
  | [] => [(key, value)]
  | (k, v) :: rest =>
    if key = k then (key, value) :: rest
    else if lt key k then (key, value) :: (k, v) :: rest
    else (k, v) :: insertBinding lt key value rest

/-- The ascending list of the given bindings, later ones winning. -/
def collectBindings (lt : κ → κ → Bool) (bindings : List (κ × α)) : List (κ × α) :=
  bindings.foldl (fun found b => insertBinding lt b.1 b.2 found) []

theorem fst_mem_insertBinding {lt : κ → κ → Bool} {key k : κ} {value : α} {l : List (κ × α)}
    (h : k ∈ (insertBinding lt key value l).map Prod.fst) : k = key ∨ k ∈ l.map Prod.fst := by
  induction l with
  | nil => simpa [insertBinding] using h
  | cons b rest ih =>
    obtain ⟨k', v'⟩ := b
    simp only [insertBinding] at h
    split at h
    · simp only [List.map_cons, List.mem_cons] at h ⊢
      exact h.imp_right Or.inr
    · split at h
      · simpa using h
      · simp only [List.map_cons, List.mem_cons] at h ⊢
        rcases h with h | h
        · exact Or.inr (Or.inl h)
        · exact (ih h).imp_right Or.inr

/-- A strict total order given by a test. -/
class StrictTotal (lt : κ → κ → Bool) : Prop where
  trans : ∀ a b c, lt a b → lt b c → lt a c
  total : ∀ a b, a ≠ b → lt a b = false → lt b a

/-- Inserting keeps the keys strictly ascending. -/
theorem pairwise_insertBinding {lt : κ → κ → Bool} [StrictTotal lt]
    {key : κ} {value : α} {l : List (κ × α)}
    (h : (l.map Prod.fst).Pairwise (fun a b => lt a b = true)) :
    ((insertBinding lt key value l).map Prod.fst).Pairwise (fun a b => lt a b = true) := by
  induction l with
  | nil => simp [insertBinding]
  | cons b rest ih =>
    obtain ⟨k, v⟩ := b
    simp only [List.map_cons, List.pairwise_cons] at h
    simp only [insertBinding]
    split
    · next heq =>
        subst heq
        simpa using h
    · next hne =>
        split
        · next hlt =>
            simp only [List.map_cons, List.pairwise_cons]
            refine ⟨fun a ha => ?_, h⟩
            rcases List.mem_cons.1 ha with rfl | ha
            · exact hlt
            · exact StrictTotal.trans _ _ _ hlt (h.1 a ha)
        · next hlt =>
            simp only [List.map_cons, List.pairwise_cons]
            refine ⟨fun a ha => ?_, ih h.2⟩
            rcases fst_mem_insertBinding ha with rfl | ha
            · exact StrictTotal.total _ _ hne (by simpa using hlt)
            · exact h.1 a ha

end

/-! ## Maps -/

/-- A finite map, listed by strictly ascending keys. -/
structure OrderedMap (κ α : Type) (lt : κ → κ → Bool) where
  entries : List (κ × α)
  ascending : (entries.map Prod.fst).Pairwise (fun a b => lt a b = true)

namespace OrderedMap

variable {κ α : Type} {lt : κ → κ → Bool}

/-- The map without bindings. -/
def empty : OrderedMap κ α lt := ⟨[], by simp⟩

/-- The keys in ascending order. -/
def keys (m : OrderedMap κ α lt) : List κ := m.entries.map Prod.fst

variable [DecidableEq κ]

/-- What a key is bound to. -/
def get? (m : OrderedMap κ α lt) (key : κ) : Option α := m.entries.lookup key

variable [StrictTotal lt]

/-- Binds a key, replacing an older binding. -/
def insert (m : OrderedMap κ α lt) (key : κ) (value : α) : OrderedMap κ α lt :=
  ⟨insertBinding lt key value m.entries, pairwise_insertBinding m.ascending⟩

/-- Adds bindings one after the other. -/
def insertAll (m : OrderedMap κ α lt) (more : List (κ × α)) : OrderedMap κ α lt :=
  more.foldl (fun m b => m.insert b.1 b.2) m

/-- The bindings of a list, later ones winning. -/
def ofList (l : List (κ × α)) : OrderedMap κ α lt := empty.insertAll l

end OrderedMap

/-! ## Texts as keys -/

/-- Strict order of texts by code points. -/
def textLt (a b : String) : Bool := decide (a < b)

instance : StrictTotal textLt where
  trans a b c hab hbc := by
    simp only [textLt, decide_eq_true_eq] at *
    exact String.lt_trans hab hbc
  total a b hne h := by
    simp only [textLt, decide_eq_false_iff_not, decide_eq_true_eq] at *
    exact Classical.byContradiction fun hba =>
      hne (String.le_antisymm (String.not_lt.1 hba) (String.not_lt.1 h))

/-- Texts bound to names. -/
abbrev Bindings := OrderedMap String String textLt

end Flowchart
