import Flowchart.Proofs.Success
import Flowchart.CompileError

set_option autoImplicit false

/-! # Renamed blocks and results that follow

Blocks can be given other identifiers, and an error then speaks of the other identifiers too. One
result *follows* another one, under a renaming of blocks, if it succeeds where the other succeeds
and fails with the renamed error where the other fails; the second half can be waived. A chain of
checks follows another chain if each check follows its counterpart. -/

namespace Flowchart

/-! ## Blocks -/

/-- A connection to the block of another identifier. -/
def Connection.rename (f : Uuid → Uuid) (c : Connection) : Connection :=
  { c with target := f c.target }

/-- Connections to blocks of other identifiers, at the same sides and in the same order. -/
def Connections.rename (f : Uuid → Uuid) (c : Connections) : Connections where
  top := c.top.map (·.map (Connection.rename f))
  bottom := c.bottom.map (·.map (Connection.rename f))
  left := c.left.map (·.map (Connection.rename f))
  right := c.right.map (·.map (Connection.rename f))

/-- A block with another identifier, connected to blocks of other identifiers. -/
def Block.rename (f : Uuid → Uuid) (b : Block) : Block :=
  { b with id := f b.id, connections := b.connections.rename f }

section

variable {f : Uuid → Uuid}

theorem Connections.on_rename (c : Connections) (side : Side) :
    (c.rename f).on side = (c.on side).map (Connection.rename f) := by
  have hget : (c.rename f).get? side = (c.get? side).map (·.map (Connection.rename f)) := by
    cases side <;> rfl
  rw [on, on, hget]
  cases c.get? side with
  | none => rfl
  | some connections => rfl

theorem Connections.all_rename (c : Connections) :
    (c.rename f).all = c.all.map (Connection.rename f) := by
  simp only [all, List.map_flatMap, ← on_rename]

namespace Block

@[simp]
theorem id_rename (b : Block) : (b.rename f).id = f b.id := rfl

@[simp]
theorem kind_rename (b : Block) : (b.rename f).kind = b.kind := rfl

@[simp]
theorem statement?_rename (b : Block) : (b.rename f).statement? = b.statement? := rfl

@[simp]
theorem target?_rename (b : Block) : (b.rename f).target? = b.target? := rfl

theorem successors_rename (b : Block) :
    (b.rename f).successors = b.successors.map (Connection.rename f) :=
  b.connections.all_rename

theorem branch_rename (b : Block) (side : Side) :
    (b.rename f).branch side = (b.branch side).map (Connection.rename f) :=
  b.connections.on_rename side

end Block

/-- Nothing changes if all identifiers stay. -/
theorem rename_id (b : Block) : b.rename id = b := by
  have hconnection : Connection.rename id = id := rfl
  have hconnections : b.connections.rename id = b.connections := by
    simp [Connections.rename, hconnection]
  simp only [Block.rename, hconnections, id_eq]

theorem map_rename_id (blocks : List Block) : blocks.map (Block.rename id) = blocks := by
  rw [funext rename_id, List.map_id']

end

/-! ## Errors -/

namespace CompileError

/-- An error with other identifiers of blocks. -/
def renameBlocks (f : Uuid → Uuid) : CompileError → CompileError
  | .missingSuccessor block kind => .missingSuccessor (f block) kind
  | .ambiguousSuccessor block kind count => .ambiguousSuccessor (f block) kind count
  | .blockNotFound missing source => .blockNotFound (f missing) (f source)
  | .decisionWithoutBranches block => .decisionWithoutBranches (f block)
  | .incompleteDecision block function returnType =>
    .incompleteDecision (f block) function returnType
  | .missingStatement block kind => .missingStatement (f block) kind
  | .missingVariable block kind => .missingVariable (f block) kind
  | .cycleDetected block => .cycleDetected (f block)
  | .statement block source => .statement (f block) (source.renameBlocks f)
  | .duplicateBlock block => .duplicateBlock (f block)
  | .unsupportedInputType block typeName => .unsupportedInputType (f block) typeName
  | .unexpectedReturnValue block function => .unexpectedReturnValue (f block) function
  | .missingReturnValue block function returnType =>
    .missingReturnValue (f block) function returnType
  | .declaration item source => .declaration item (source.renameBlocks f)
  | e => e

theorem renameBlocks_id (e : CompileError) : e.renameBlocks id = e := by
  induction e with
  | statement block source ih => rw [renameBlocks, ih, id_eq]
  | declaration item source ih => rw [renameBlocks, ih]
  | _ => rfl

theorem map_renameBlocks_id (errors : List CompileError) :
    errors.map (·.renameBlocks id) = errors := by
  rw [funext renameBlocks_id, List.map_id']

end CompileError

/-! ## Results -/

section

variable {α α' β β' : Type}

/-- What a second result is if a first one is known: it succeeds with a related value where the
    first succeeds, and fails with the renamed error where the first fails. Unless it is to be
    exact, it may be anything where the first fails. -/
inductive Follows (exact : Prop) (f : Uuid → Uuid) (R : α → α' → Prop) :
    Except CompileError α → Except CompileError α' → Prop
  | ok {a : α} {a' : α'} (related : R a a') : Follows exact f R (.ok a) (.ok a')
  | error (e : CompileError) : Follows exact f R (.error e) (.error (e.renameBlocks f))
  | waived {e : CompileError} {y : Except CompileError α'} (inexact : ¬ exact) :
      Follows exact f R (.error e) y

namespace Follows

variable {exact : Prop} {f : Uuid → Uuid} {R : α → α' → Prop} {S : β → β' → Prop}
  {x : Except CompileError α} {y : Except CompileError α'}

theorem bind {k : α → Except CompileError β} {k' : α' → Except CompileError β'}
    (h : Follows exact f R x y) (hk : ∀ a a', R a a' → Follows exact f S (k a) (k' a')) :
    Follows exact f S (x >>= k) (y >>= k') := by
  cases h with
  | ok related => exact hk _ _ related
  | error e => exact .error e
  | waived inexact => exact .waived inexact

/-- If the values are the same, what is made of them may only depend on the value. -/
theorem bind_eq {x y : Except CompileError α} {k : α → Except CompileError β}
    {k' : α → Except CompileError β'} (h : Follows exact f Eq x y)
    (hk : ∀ a, Follows exact f S (k a) (k' a)) : Follows exact f S (x >>= k) (y >>= k') :=
  h.bind fun a _ heq => heq ▸ hk a

theorem map {g : α → β} {g' : α' → β'} (h : Follows exact f R x y)
    (hg : ∀ a a', R a a' → S (g a) (g' a')) : Follows exact f S (x.map g) (y.map g') := by
  cases h with
  | ok related => exact .ok (hg _ _ related)
  | error e => exact .error e
  | waived inexact => exact .waived inexact

/-- Errors are put into contexts that differ by the renaming alone. -/
theorem mapError {wrap wrap' : CompileError → CompileError}
    (hwrap : ∀ e, wrap' (e.renameBlocks f) = (wrap e).renameBlocks f) (h : Follows exact f R x y) :
    Follows exact f R (x.mapError wrap) (y.mapError wrap') := by
  cases h with
  | ok related => exact .ok related
  | error e =>
    rw [Except.mapError, Except.mapError, hwrap]
    exact .error _
  | waived inexact => exact .waived inexact

/-- The related values are those of the two results. -/
theorem remember (h : Follows exact f R x y) :
    Follows exact f (fun a a' => R a a' ∧ x = .ok a ∧ y = .ok a') x y := by
  cases h with
  | ok related => exact .ok ⟨related, rfl, rfl⟩
  | error e => exact .error e
  | waived inexact => exact .waived inexact

/-! ### What is known of the second result -/

theorem eq_ok {x y : Except CompileError α} (h : Follows exact f Eq x y) {a : α}
    (hx : x = .ok a) : y = .ok a := by
  cases h with
  | ok related => rw [← related, hx]
  | error | waived => cases hx

theorem exists_ok (h : Follows exact f R x y) {a : α} (hx : x = .ok a) :
    ∃ a', y = .ok a' ∧ R a a' := by
  cases h with
  | ok related =>
    cases hx
    exact ⟨_, rfl, related⟩
  | error | waived => cases hx

theorem eq_error (hexact : exact) (h : Follows exact f R x y) {e : CompileError}
    (hx : x = .error e) : y = .error (e.renameBlocks f) := by
  cases h with
  | ok related => cases hx
  | error e =>
    cases hx
    rfl
  | waived inexact => exact absurd hexact inexact

/-- If no identifiers change, nothing changes. -/
theorem eq_of_id {x y : Except CompileError α} {R : α → α → Prop} (h : Follows True id R x y)
    (heq : ∀ a a', R a a' → a = a') : x = y := by
  cases h with
  | ok related => rw [heq _ _ related]
  | error e => rw [CompileError.renameBlocks_id]
  | waived inexact => exact absurd trivial inexact

theorem of_map_eq {g : α → β} {x y : Except CompileError α} (h : x.map g = y.map g) :
    Follows True id (fun a a' => g a = g a') x y := by
  cases x with
  | ok a =>
    cases y with
    | ok a' => exact .ok (Except.ok.inj h)
    | error e => cases h
  | error e =>
    cases y with
    | ok a' => cases h
    | error e' =>
      cases h
      have hsame : Follows True id (fun a a' => g a = g a') (.error e) _ := .error e
      rwa [CompileError.renameBlocks_id] at hsame

end Follows

end

end Flowchart
