import Flowchart.Project.Item
import Mathlib.Data.List.Forall2

set_option autoImplicit false

/-! # Successful checks and nested trees

What most proofs about the compiler start with: a chain of checks that succeeded, taken apart into
the results of its steps, lists of results that belong to lists of inputs, and induction over items
and statements, which hold lists of themselves. -/

namespace Flowchart

/-! ## Chains of checks -/

section

variable {ε ε' α β : Type}

theorem bind_eq_ok {x : Except ε α} {f : α → Except ε β} {b : β} :
    x >>= f = .ok b ↔ ∃ a, x = .ok a ∧ f a = .ok b := by
  cases x with
  | error e =>
    constructor
    · intro h
      cases h
    · rintro ⟨_, h, _⟩
      cases h
  | ok a =>
    constructor
    · intro h
      exact ⟨a, rfl, h⟩
    · rintro ⟨_, ha, h⟩
      cases ha
      exact h

@[simp]
theorem ok_bind {a : α} {f : α → Except ε β} : (Except.ok a : Except ε α) >>= f = f a := rfl

theorem error_bind {e : ε} {f : α → Except ε β} : (Except.error e : Except ε α) >>= f = .error e :=
  rfl

theorem pure_eq_ok {a b : α} : (pure a : Except ε α) = .ok b ↔ a = b := by
  constructor
  · intro h
    cases h
    rfl
  · rintro rfl
    rfl

theorem map_eq_ok {x : Except ε α} {g : α → β} {b : β} :
    x.map g = .ok b ↔ ∃ a, x = .ok a ∧ g a = b := by
  cases x with
  | error e => simp [Except.map]
  | ok a => simp [Except.map]

theorem map_bind_eq {γ : Type} {x : Except ε α} {f : α → Except ε β} {g : β → γ} :
    (x >>= f).map g = x >>= fun a => (f a).map g := by
  cases x with
  | error e => rfl
  | ok a => rfl

theorem bind_map_eq {γ : Type} {x : Except ε α} {g : α → β} {f : β → Except ε γ} :
    x.map g >>= f = x >>= fun a => f (g a) := by
  cases x with
  | error e => rfl
  | ok a => rfl

theorem mapError_eq_ok {x : Except ε α} {wrap : ε → ε'} {a : α} :
    x.mapError wrap = .ok a ↔ x = .ok a := by
  cases x with
  | error e => simp [Except.mapError]
  | ok b => simp [Except.mapError]

theorem toOption_eq_some {x : Except ε α} {a : α} : x.toOption = some a ↔ x = .ok a := by
  cases x with
  | ok b => simp [Except.toOption]
  | error e => simp [Except.toOption]

theorem exists_eq_ok {x : Except ε α} (h : x.toOption.isSome = true) : ∃ a, x = .ok a := by
  obtain ⟨a, ha⟩ := Option.isSome_iff_exists.1 h
  exact ⟨a, toOption_eq_some.1 ha⟩

end

/-! ## Lists related element by element -/

section

variable {α β : Type} {R : α → β → Prop} {as : List α} {bs : List β}

theorem exists_right_of_forall₂ (h : List.Forall₂ R as bs) {a : α} (ha : a ∈ as) :
    ∃ b ∈ bs, R a b := by
  induction h with
  | nil => cases ha
  | cons hab _ ih =>
    rcases List.mem_cons.1 ha with rfl | ha
    · exact ⟨_, List.mem_cons_self, hab⟩
    · obtain ⟨b, hb, hr⟩ := ih ha
      exact ⟨b, List.mem_cons_of_mem _ hb, hr⟩

theorem exists_left_of_forall₂ (h : List.Forall₂ R as bs) {b : β} (hb : b ∈ bs) :
    ∃ a ∈ as, R a b :=
  exists_right_of_forall₂ h.flip hb

theorem exists_forall₂_iff :
    (∃ bs, List.Forall₂ R as bs) ↔ ∀ a ∈ as, ∃ b, R a b := by
  constructor
  · rintro ⟨bs, h⟩ a ha
    obtain ⟨b, -, hb⟩ := exists_right_of_forall₂ h ha
    exact ⟨b, hb⟩
  · intro h
    induction as with
    | nil => exact ⟨[], .nil⟩
    | cons a rest ih =>
      rw [List.forall_mem_cons] at h
      obtain ⟨⟨b, hb⟩, hrest⟩ := h
      obtain ⟨bs, hbs⟩ := ih hrest
      exact ⟨b :: bs, .cons hb hbs⟩

theorem forall₂_congr_of_mem {S : α → β → Prop} (h : ∀ a ∈ as, ∀ b, R a b ↔ S a b) :
    List.Forall₂ R as bs ↔ List.Forall₂ S as bs := by
  induction as generalizing bs with
  | nil => rw [List.forall₂_nil_left_iff, List.forall₂_nil_left_iff]
  | cons a rest ih =>
    obtain ⟨ha, hrest⟩ := List.forall_mem_cons.1 h
    simp only [List.forall₂_cons_left_iff, ha, ih hrest]

/-- What related elements have in common makes the same list on both sides. -/
theorem map_eq_of_forall₂ {γ : Type} {f : α → γ} {g : β → γ} (h : List.Forall₂ R as bs)
    (hsame : ∀ a b, R a b → g b = f a) : bs.map g = as.map f := by
  induction h with
  | nil => rfl
  | cons hab _ ih => rw [List.map_cons, List.map_cons, hsame _ _ hab, ih]

/-- What differs on the left is related to what differs on the right. -/
theorem pairwise_of_forall₂ {P : β → β → Prop} (h : List.Forall₂ R as bs) (has : as.Nodup)
    (hdiffer : ∀ {a a' b b'}, a ≠ a' → R a b → R a' b' → P b b') : bs.Pairwise P := by
  induction h with
  | nil => exact List.Pairwise.nil
  | cons hab hrest ih =>
    obtain ⟨hfirst, has⟩ := List.nodup_cons.1 has
    refine List.Pairwise.cons ?_ (ih has)
    intro b' hb'
    obtain ⟨a', ha', hab'⟩ := exists_left_of_forall₂ hrest hb'
    refine hdiffer ?_ hab hab'
    rintro rfl
    exact hfirst ha'

end

/-! ## Nested trees -/

/-- A property of items holds of all if it passes from the children of an item to the item. -/
@[elab_as_elim]
theorem Item.induction {P : Item → Prop} (item : Item)
    (h : ∀ item : Item, (∀ child ∈ item.children, P child) → P item) : P item :=
  -- the second motive is for the lists of children that items hold
  Item.rec (motive_1 := P) (motive_2 := fun items => ∀ child ∈ items, P child)
    (fun _ _ _ _ _ _ _ _ ih => h _ ih)
    (fun _ hmem => nomatch hmem)
    (fun _ _ ihHead ihRest child hmem => by
      rcases List.mem_cons.1 hmem with rfl | hmem
      · exact ihHead
      · exact ihRest child hmem)
    item

/-- A property of statements holds of all if it passes from the operands of a statement and the
    arguments of its calls to the statement. -/
@[elab_as_elim]
theorem Statement.induction {P : Statement → Prop} (s : Statement)
    (h : ∀ s : Statement, (∀ operand ∈ s.operands, P operand) →
      (∀ step ∈ s.calls, ∀ argument ∈ step.arguments, P argument) → P s) : P s :=
  -- one motive each for statements, steps, and lists of both
  Statement.rec (motive_1 := P)
    (motive_2 := fun step => ∀ argument ∈ step.arguments, P argument)
    (motive_3 := fun statements => ∀ s ∈ statements, P s)
    (motive_4 := fun steps => ∀ step ∈ steps, ∀ argument ∈ step.arguments, P argument)
    (fun _ _ _ _ ihOperands ihCalls => h _ ihOperands ihCalls)
    (fun _ _ ih => ih)
    (fun _ hmem => nomatch hmem)
    (fun _ _ ihHead ihRest s hmem => by
      rcases List.mem_cons.1 hmem with rfl | hmem
      · exact ihHead
      · exact ihRest s hmem)
    (fun _ hmem => nomatch hmem)
    (fun _ _ ihHead ihRest step hmem => by
      rcases List.mem_cons.1 hmem with rfl | hmem
      · exact ihHead
      · exact ihRest step hmem)
    s

end Flowchart
