import Flowchart.ProjectFile.Conversion
import Flowchart.Proofs.EntryPoints
import Mathlib.Data.List.Nodup

set_option autoImplicit false

/-! # Conversion of project files

A project file becomes a tree exactly if only functions own blocks and every call step has a target,
wherever the step is nested. The offences of a file are listed in the order in which they are looked
for, so that a file is rejected for the first of them, and a tree that a file becomes mirrors it
node for node. -/

namespace Flowchart

/-! ## Computations that fail with the first offence -/

section

variable {ε α β : Type} {x : Except ε α} {offences more : List ε}

/-- A computation fails exactly if there are offences, and then with the first of them. -/
def FailsFirst (x : Except ε α) (offences : List ε) : Prop :=
  ∀ e, x = .error e ↔ offences.head? = some e

namespace FailsFirst

theorem ok {a : α} : FailsFirst (.ok a : Except ε α) [] := fun e => by simp

theorem error {e : ε} : FailsFirst (.error e : Except ε α) (e :: more) := fun e => by simp

theorem exists_ok_iff (h : FailsFirst x offences) : (∃ a, x = .ok a) ↔ offences = [] := by
  rw [← List.head?_eq_none_iff, Option.eq_none_iff_forall_ne_some]
  simp only [ne_eq, ← h _]
  cases x with
  | error e => simp
  | ok a => simp

/-- The offences of a first step come before those of a second one. -/
theorem bind {f : α → Except ε β} (h : FailsFirst x offences)
    (hf : ∀ a, x = .ok a → FailsFirst (f a) more) : FailsFirst (x >>= f) (offences ++ more) := by
  cases x with
  | error e =>
    have hhead := (h e).1 rfl
    intro e'
    rw [List.head?_append, hhead]
    show Except.error e = Except.error e' ↔ some e = some e'
    rw [Except.error.injEq, Option.some_inj]
  | ok a =>
    rw [h.exists_ok_iff.1 ⟨a, rfl⟩, List.nil_append]
    exact hf a rfl

theorem pure_bind {f : α → β} (h : FailsFirst x offences) :
    FailsFirst (x >>= fun a => pure (f a)) offences := by
  have hpure : ∀ a, x = .ok a → FailsFirst (pure (f a) : Except ε β) [] := fun _ _ => .ok
  have hbind := h.bind hpure
  rwa [List.append_nil] at hbind

theorem mapM {f : α → Except ε β} {offencesOf : α → List ε} {as : List α}
    (h : ∀ a ∈ as, FailsFirst (f a) (offencesOf a)) :
    FailsFirst (as.mapM f) (as.flatMap offencesOf) := by
  induction as with
  | nil => exact .ok
  | cons a rest ih =>
    obtain ⟨ha, hrest⟩ := List.forall_mem_cons.1 h
    rw [List.mapM_cons, List.flatMap_cons]
    exact ha.bind fun _ _ => (ih hrest).pure_bind

end FailsFirst

theorem mapM_eq_ok_iff {f : α → Except ε β} {as : List α} {bs : List β} :
    as.mapM f = .ok bs ↔ List.Forall₂ (fun a b => f a = .ok b) as bs := by
  induction as generalizing bs with
  | nil => rw [List.mapM_nil, pure_eq_ok, List.forall₂_nil_left_iff, eq_comm]
  | cons a rest ih =>
    simp only [List.mapM_cons, bind_eq_ok, pure_eq_ok, ih, List.forall₂_cons_left_iff]
    constructor
    · rintro ⟨b, hb, others, hothers, rfl⟩
      exact ⟨b, others, hb, hothers, rfl⟩
    · rintro ⟨b, others, hb, hothers, rfl⟩
      exact ⟨b, hb, others, hothers, rfl⟩

end

namespace ProjectFile

/-! ## Induction over files -/

/-- A property of statements holds of all if it passes from the operands of a statement and the
    arguments of its calls to the statement. -/
@[elab_as_elim]
theorem StatementRecord.induction {P : StatementRecord → Prop} (r : StatementRecord)
    (h : ∀ r : StatementRecord, (∀ operand ∈ r.operands, P operand) →
      (∀ step ∈ r.calls, ∀ argument ∈ step.arguments, P argument) → P r) : P r :=
  -- one motive each for statements, steps, and lists of both
  StatementRecord.rec (motive_1 := P)
    (motive_2 := fun step => ∀ argument ∈ step.arguments, P argument)
    (motive_3 := fun statements => ∀ r ∈ statements, P r)
    (motive_4 := fun steps => ∀ step ∈ steps, ∀ argument ∈ step.arguments, P argument)
    (fun _ _ _ _ ihOperands ihCalls => h _ ihOperands ihCalls)
    (fun _ _ ih => ih)
    (fun _ hmem => nomatch hmem)
    (fun _ _ ihHead ihRest => List.forall_mem_cons.2 ⟨ihHead, ihRest⟩)
    (fun _ hmem => nomatch hmem)
    (fun _ _ ihHead ihRest => List.forall_mem_cons.2 ⟨ihHead, ihRest⟩)
    r

/-- A property of items holds of all if it passes from the children of an item to the item. -/
@[elab_as_elim]
theorem ItemRecord.induction {P : ItemRecord → Prop} (r : ItemRecord)
    (h : ∀ r : ItemRecord, (∀ child ∈ r.children, P child) → P r) : P r :=
  ItemRecord.rec (motive_1 := P) (motive_2 := fun records => ∀ child ∈ records, P child)
    (fun _ _ _ _ _ _ _ _ ih => h _ ih)
    (fun _ hmem => nomatch hmem)
    (fun _ _ ihHead ihRest => List.forall_mem_cons.2 ⟨ihHead, ihRest⟩)
    r

/-! ## Conversion step by step -/

/-- The call step of a record. -/
def CallRecord.convert (c : CallRecord) : Except ConversionError CallStep :=
  match c.target with
  | none => .error .missingTarget
  | some target => do return { target, arguments := ← c.arguments.mapM StatementRecord.convert }

theorem convertStatements_eq (records : List StatementRecord) :
    convertStatements records = records.mapM StatementRecord.convert := by
  induction records with
  | nil => rfl
  | cons r rest ih => rw [convertStatements, ih, List.mapM_cons]

theorem convertCalls_eq (records : List CallRecord) :
    convertCalls records = records.mapM CallRecord.convert := by
  induction records with
  | nil => rfl
  | cons c rest ih =>
    obtain ⟨target | target, arguments⟩ := c
    · rw [List.mapM_cons]
      rfl
    · rw [List.mapM_cons, ← ih, CallRecord.convert, ← convertStatements_eq, bind_assoc]
      rfl

theorem StatementRecord.convert_eq (r : StatementRecord) :
    r.convert = r.operands.mapM StatementRecord.convert >>= fun operands =>
      r.calls.mapM CallRecord.convert >>= fun calls =>
        pure { kind := r.kind, value := presentValue r.value, operands, calls } := by
  obtain ⟨kind, value, operands, calls⟩ := r
  rw [convert, convertStatements_eq, convertCalls_eq]

theorem convertBlocks_eq (records : List BlockRecord) :
    convertBlocks records = records.mapM BlockRecord.convert := by
  induction records with
  | nil => rfl
  | cons r rest ih => rw [convertBlocks, ih, List.mapM_cons]

theorem convertItems_eq (records : List ItemRecord) :
    convertItems records = records.mapM ItemRecord.convert := by
  induction records with
  | nil => rfl
  | cons r rest ih => rw [convertItems, ih, List.mapM_cons]

/-- Only functions can own blocks. -/
def ItemRecord.IsOwner (r : ItemRecord) : Prop := r.blocks ≠ [] → r.kind = .function

instance (r : ItemRecord) : Decidable r.IsOwner := inferInstanceAs (Decidable (_ → _))

theorem ItemRecord.convert_eq (r : ItemRecord) :
    r.convert = if r.IsOwner then
        r.children.mapM ItemRecord.convert >>= fun children =>
          r.blocks.mapM BlockRecord.convert >>= fun blocks =>
            pure { name := r.name, kind := r.kind, id := r.id, comments := r.comments.getD ""
                   children, typeName := r.typeName, returnType := r.returnType, blocks }
      else .error (.strayBlocks r.kind r.name) := by
  obtain ⟨name, comments, kind, id, children, typeName, returnType, blocks⟩ := r
  rw [convert, convertItems_eq, convertBlocks_eq]
  have hstray : (!blocks.isEmpty && kind != .function) = true
      ↔ ¬ IsOwner ⟨name, comments, kind, id, children, typeName, returnType, blocks⟩ := by
    simp [IsOwner]
  by_cases howner : IsOwner ⟨name, comments, kind, id, children, typeName, returnType, blocks⟩
  · rw [if_neg (hstray.not.2 (not_not.2 howner)), if_pos howner]
  · rw [if_pos (hstray.2 howner), if_neg howner]

/-! ## Offences in the order in which they are looked for -/

mutual

/-- The offences in a statement: those in its operands, and then those in its calls. -/
def StatementRecord.offences : StatementRecord → List ConversionError
  | ⟨_, _, operands, calls⟩ => statementOffences operands ++ callOffences calls

/-- The offences in statements, one after the other. -/
def statementOffences : List StatementRecord → List ConversionError
  | [] => []
  | r :: rest => r.offences ++ statementOffences rest

/-- The offences in call steps, one after the other: a target that is missing comes before the
    offences in the arguments. -/
def callOffences : List CallRecord → List ConversionError
  | [] => []
  | ⟨target, arguments⟩ :: rest =>
    (if target = none then [.missingTarget] else []) ++ statementOffences arguments
      ++ callOffences rest

end

/-- The statement that a block holds, if there is one. -/
def BlockRecord.statement? (r : BlockRecord) : Option StatementRecord :=
  r.content.bind (·.statement)

/-- The offences in the statement of a block. -/
def BlockRecord.offences (r : BlockRecord) : List ConversionError :=
  r.statement?.toList.flatMap StatementRecord.offences

mutual

/-- The offences in an item: its own, then those in its children, then those in its blocks. -/
def ItemRecord.offences : ItemRecord → List ConversionError
  | ⟨name, _, kind, _, children, _, _, blocks⟩ =>
    (if blocks ≠ [] ∧ kind ≠ .function then [.strayBlocks kind name] else [])
      ++ itemOffences children ++ blocks.flatMap BlockRecord.offences

/-- The offences in items, one after the other. -/
def itemOffences : List ItemRecord → List ConversionError
  | [] => []
  | r :: rest => r.offences ++ itemOffences rest

end

/-- The offences in a call step. -/
def CallRecord.offences (c : CallRecord) : List ConversionError :=
  (if c.target = none then [.missingTarget] else []) ++ c.arguments.flatMap StatementRecord.offences

theorem statementOffences_eq (records : List StatementRecord) :
    statementOffences records = records.flatMap StatementRecord.offences := by
  induction records with
  | nil => rfl
  | cons r rest ih => rw [statementOffences, ih, List.flatMap_cons]

theorem callOffences_eq (records : List CallRecord) :
    callOffences records = records.flatMap CallRecord.offences := by
  induction records with
  | nil => rfl
  | cons c rest ih =>
    obtain ⟨target, arguments⟩ := c
    rw [callOffences, ih, statementOffences_eq, List.flatMap_cons, CallRecord.offences]

theorem StatementRecord.offences_eq (r : StatementRecord) :
    r.offences
      = r.operands.flatMap StatementRecord.offences ++ r.calls.flatMap CallRecord.offences := by
  obtain ⟨kind, value, operands, calls⟩ := r
  rw [offences, statementOffences_eq, callOffences_eq]

theorem itemOffences_eq (records : List ItemRecord) :
    itemOffences records = records.flatMap ItemRecord.offences := by
  induction records with
  | nil => rfl
  | cons r rest ih => rw [itemOffences, ih, List.flatMap_cons]

theorem ItemRecord.offences_eq (r : ItemRecord) :
    r.offences = (if r.IsOwner then [] else [.strayBlocks r.kind r.name])
      ++ r.children.flatMap ItemRecord.offences ++ r.blocks.flatMap BlockRecord.offences := by
  obtain ⟨name, comments, kind, id, children, typeName, returnType, blocks⟩ := r
  have hstray : (blocks ≠ [] ∧ kind ≠ .function)
      ↔ ¬ IsOwner ⟨name, comments, kind, id, children, typeName, returnType, blocks⟩ := by
    rw [IsOwner, Classical.not_imp]
  rw [offences, itemOffences_eq]
  simp only [hstray, ite_not]

/-! ## The first offence -/

theorem CallRecord.failsFirst {c : CallRecord}
    (h : ∀ argument ∈ c.arguments, FailsFirst argument.convert argument.offences) :
    FailsFirst c.convert c.offences := by
  rw [convert, offences]
  cases c.target with
  | none => exact .error
  | some target => exact (FailsFirst.mapM h).pure_bind

theorem StatementRecord.failsFirst (r : StatementRecord) : FailsFirst r.convert r.offences := by
  induction r using StatementRecord.induction with
  | h r ihOperands ihCalls =>
    rw [convert_eq, offences_eq]
    refine (FailsFirst.mapM ihOperands).bind fun _ _ => ?_
    exact (FailsFirst.mapM fun step hstep => CallRecord.failsFirst (ihCalls step hstep)).pure_bind

theorem BlockRecord.failsFirst (r : BlockRecord) : FailsFirst r.convert r.offences := by
  obtain ⟨id, kind, connections, content⟩ := r
  match content with
  | none => exact .ok
  | some ⟨none, target⟩ => exact .ok
  | some ⟨some statement, target⟩ =>
    show FailsFirst _ ([statement].flatMap StatementRecord.offences)
    rw [List.flatMap_singleton]
    exact statement.failsFirst.pure_bind.pure_bind

/-- A file is rejected for its first offence. -/
theorem ItemRecord.failsFirst (r : ItemRecord) : FailsFirst r.convert r.offences := by
  induction r using ItemRecord.induction with
  | h r ih =>
    rw [convert_eq, offences_eq]
    split
    · rw [List.nil_append]
      refine (FailsFirst.mapM ih).bind fun _ _ => ?_
      exact (FailsFirst.mapM fun b _ => b.failsFirst).pure_bind
    · exact .error

/-! ## Parts of files -/

/-- A statement is another one, or somewhere in its operands or in the arguments of its calls. -/
inductive StatementRecord.Has : StatementRecord → StatementRecord → Prop
  | here {r : StatementRecord} : Has r r
  | operand {r operand part : StatementRecord} (mem : operand ∈ r.operands)
      (has : Has operand part) : Has r part
  | argument {r argument part : StatementRecord} {step : CallRecord} (step_mem : step ∈ r.calls)
      (mem : argument ∈ step.arguments) (has : Has argument part) : Has r part

/-- An item is another one, or somewhere below it. -/
inductive ItemRecord.Has : ItemRecord → ItemRecord → Prop
  | here {r : ItemRecord} : Has r r
  | child {r child part : ItemRecord} (mem : child ∈ r.children) (has : Has child part) : Has r part

/-- Every call step in a statement has a target. -/
def StatementRecord.IsTargeted (r : StatementRecord) : Prop :=
  ∀ part, r.Has part → ∀ step ∈ part.calls, step.target ≠ none

/-- What a file has to be to become a tree. -/
structure ItemRecord.IsConvertible (r : ItemRecord) : Prop where
  /-- Only functions own blocks. -/
  owner : ∀ part, r.Has part → part.blocks ≠ [] → part.kind = .function
  /-- Every call step has a target. -/
  targeted : ∀ part, r.Has part → ∀ b ∈ part.blocks, ∀ statement, b.statement? = some statement →
    statement.IsTargeted

theorem StatementRecord.isTargeted_iff {r : StatementRecord} :
    r.IsTargeted ↔ (∀ operand ∈ r.operands, operand.IsTargeted)
      ∧ ∀ step ∈ r.calls,
        step.target ≠ none ∧ ∀ argument ∈ step.arguments, argument.IsTargeted := by
  constructor
  · intro h
    exact ⟨fun operand hoperand part hpart => h part (.operand hoperand hpart),
      fun step hstep => ⟨h r .here step hstep,
        fun argument hargument part hpart => h part (.argument hstep hargument hpart)⟩⟩
  · rintro ⟨hoperands, hcalls⟩ part hpart
    cases hpart with
    | here => exact fun step hstep => (hcalls step hstep).1
    | operand mem has => exact hoperands _ mem part has
    | argument step_mem mem has => exact (hcalls _ step_mem).2 _ mem part has

theorem StatementRecord.offences_eq_nil_iff {r : StatementRecord} :
    r.offences = [] ↔ r.IsTargeted := by
  induction r using StatementRecord.induction with
  | h r ihOperands ihCalls =>
    rw [offences_eq, isTargeted_iff, List.append_eq_nil_iff, List.flatMap_eq_nil_iff,
      List.flatMap_eq_nil_iff]
    refine and_congr (forall₂_congr ihOperands) (forall₂_congr fun step hstep => ?_)
    rw [CallRecord.offences, List.append_eq_nil_iff, List.flatMap_eq_nil_iff]
    refine and_congr ?_ (forall₂_congr (ihCalls step hstep))
    split
    · next hnone => simp [hnone]
    · next htarget => simp [htarget]

theorem BlockRecord.offences_eq_nil_iff {r : BlockRecord} :
    r.offences = [] ↔ ∀ statement, r.statement? = some statement → statement.IsTargeted := by
  simp only [offences, List.flatMap_eq_nil_iff, Option.mem_toList,
    StatementRecord.offences_eq_nil_iff]

theorem ItemRecord.isConvertible_iff {r : ItemRecord} :
    r.IsConvertible ↔ r.IsOwner ∧ (∀ child ∈ r.children, child.IsConvertible)
      ∧ ∀ b ∈ r.blocks, ∀ statement, b.statement? = some statement → statement.IsTargeted := by
  constructor
  · rintro ⟨howner, htargeted⟩
    exact ⟨howner r .here, fun child hchild => ⟨fun part hpart => howner part (.child hchild hpart),
      fun part hpart => htargeted part (.child hchild hpart)⟩, htargeted r .here⟩
  · rintro ⟨howner, hchildren, hblocks⟩
    constructor
    · intro part hpart
      cases hpart with
      | here => exact howner
      | child mem has => exact (hchildren _ mem).owner part has
    · intro part hpart
      cases hpart with
      | here => exact hblocks
      | child mem has => exact (hchildren _ mem).targeted part has

/-- There are no offences in a file exactly if every part of it is as it should be. -/
theorem ItemRecord.offences_eq_nil_iff {r : ItemRecord} : r.offences = [] ↔ r.IsConvertible := by
  induction r using ItemRecord.induction with
  | h r ih =>
    rw [offences_eq, isConvertible_iff, List.append_eq_nil_iff, List.append_eq_nil_iff,
      List.flatMap_eq_nil_iff, List.flatMap_eq_nil_iff, and_assoc]
    refine and_congr ?_ (and_congr (forall₂_congr ih)
      (forall₂_congr fun b _ => BlockRecord.offences_eq_nil_iff))
    split
    · next howner => simp [howner]
    · next howner => simp [howner]

/-! ## Trees that mirror files -/

mutual

/-- A statement mirrors a record: the same kind, the value if it is not null, and operands and calls
    that mirror those of the record one by one. -/
inductive StatementRecord.Mirrors : StatementRecord → Statement → Prop
  | mk {r : StatementRecord} {s : Statement} (kind_eq : s.kind = r.kind)
      (value_iff : ∀ v, s.value = some v ↔ r.value = some v ∧ v ≠ .null)
      (operands : List.Forall₂ StatementRecord.Mirrors r.operands s.operands)
      (calls : List.Forall₂ CallRecord.Mirrors r.calls s.calls) : StatementRecord.Mirrors r s

/-- A call step mirrors a record: the same target, and arguments that mirror those of the record. -/
inductive CallRecord.Mirrors : CallRecord → CallStep → Prop
  | mk {r : CallRecord} {step : CallStep} (target_eq : r.target = some step.target)
      (arguments : List.Forall₂ StatementRecord.Mirrors r.arguments step.arguments) :
      CallRecord.Mirrors r step

end

/-- The content of a block mirrors a record. -/
structure ContentRecord.Mirrors (r : ContentRecord) (content : BlockContent) : Prop where
  statement : Option.Rel StatementRecord.Mirrors r.statement content.statement
  target_eq : content.target = r.target

/-- The connections of one side mirror the targets in a file: they are the same, in ascending order
    and without repetition. -/
structure TargetMap.Mirrors (targets : TargetMap) (connections : List Connection) : Prop where
  increasing : (connections.map (·.target)).Pairwise fun a b => a.lt b = true
  nodup : (connections.map (·.target)).Nodup
  mem_iff : ∀ target side, ⟨target, side⟩ ∈ connections ↔ targets.get? target = some side

/-- A block mirrors a record. The sides that are mentioned are the same. -/
structure BlockRecord.Mirrors (r : BlockRecord) (b : Block) : Prop where
  id_eq : b.id = r.id
  kind_eq : b.kind = r.kind
  content : Option.Rel ContentRecord.Mirrors r.content b.content
  connections : ∀ side, Option.Rel TargetMap.Mirrors (r.connections.get? side)
    (b.connections.get? side)

/-- An item mirrors a record, node for node in order. Missing comments are empty. -/
inductive ItemRecord.Mirrors : ItemRecord → Item → Prop
  | mk {r : ItemRecord} {item : Item} (name_eq : item.name = r.name) (kind_eq : item.kind = r.kind)
      (id_eq : item.id = r.id) (comments_eq : item.comments = r.comments.getD "")
      (typeName_eq : item.typeName = r.typeName) (returnType_eq : item.returnType = r.returnType)
      (children : List.Forall₂ ItemRecord.Mirrors r.children item.children)
      (blocks : List.Forall₂ BlockRecord.Mirrors r.blocks item.blocks) : ItemRecord.Mirrors r item

theorem presentValue_eq_iff {value found : Option Json} :
    presentValue found = value ↔ ∀ v, value = some v ↔ found = some v ∧ v ≠ .null := by
  have hpresent : ∀ v, presentValue found = some v ↔ found = some v ∧ v ≠ .null := by
    intro v
    rw [presentValue.eq_def]
    split
    · refine ⟨nofun, fun h => ?_⟩
      exact absurd (Option.some_inj.1 h.1).symm h.2
    · next hnull =>
      refine ⟨fun h => ⟨h, ?_⟩, And.left⟩
      rintro rfl
      exact hnull h
  constructor
  · rintro rfl v
    exact hpresent v
  · intro h
    exact Option.ext fun v => (hpresent v).trans (h v).symm

theorem StatementRecord.mirrors_iff {r : StatementRecord} {s : Statement} :
    r.Mirrors s ↔ s.kind = r.kind ∧ s.value = presentValue r.value
      ∧ List.Forall₂ Mirrors r.operands s.operands
      ∧ List.Forall₂ CallRecord.Mirrors r.calls s.calls := by
  rw [eq_comm (b := presentValue r.value), presentValue_eq_iff]
  constructor
  · rintro ⟨kind_eq, value_iff, operands, calls⟩
    exact ⟨kind_eq, value_iff, operands, calls⟩
  · rintro ⟨kind_eq, value_iff, operands, calls⟩
    exact ⟨kind_eq, value_iff, operands, calls⟩

theorem CallRecord.mirrors_iff {r : CallRecord} {step : CallStep} :
    r.Mirrors step ↔ r.target = some step.target
      ∧ List.Forall₂ StatementRecord.Mirrors r.arguments step.arguments := by
  constructor
  · rintro ⟨target_eq, arguments⟩
    exact ⟨target_eq, arguments⟩
  · rintro ⟨target_eq, arguments⟩
    exact ⟨target_eq, arguments⟩

theorem ItemRecord.mirrors_iff {r : ItemRecord} {item : Item} :
    r.Mirrors item ↔ item = { name := r.name, kind := r.kind, id := r.id
                              comments := r.comments.getD "", children := item.children
                              typeName := r.typeName, returnType := r.returnType
                              blocks := item.blocks }
      ∧ List.Forall₂ Mirrors r.children item.children
      ∧ List.Forall₂ BlockRecord.Mirrors r.blocks item.blocks := by
  constructor
  · rintro ⟨name_eq, kind_eq, id_eq, comments_eq, typeName_eq, returnType_eq, children, blocks⟩
    refine ⟨?_, children, blocks⟩
    rw [← name_eq, ← kind_eq, ← id_eq, ← comments_eq, ← typeName_eq, ← returnType_eq]
    cases item
    rfl
  · rintro ⟨heq, children, blocks⟩
    rw [heq]
    exact ⟨rfl, rfl, rfl, rfl, rfl, rfl, children, blocks⟩

/-! ## Conversion gives the tree that mirrors a file -/

theorem CallRecord.convert_eq_ok_iff {r : CallRecord} {step : CallStep}
    (h : ∀ argument ∈ r.arguments, ∀ s, argument.convert = .ok s ↔ argument.Mirrors s) :
    r.convert = .ok step ↔ r.Mirrors step := by
  obtain ⟨target, arguments⟩ := step
  rw [mirrors_iff, ← forall₂_congr_of_mem h, ← mapM_eq_ok_iff, convert]
  cases r.target with
  | none =>
    refine ⟨nofun, fun htarget => ?_⟩
    cases htarget.1
  | some found =>
    simp only [bind_eq_ok, pure_eq_ok, CallStep.mk.injEq, Option.some_inj]
    constructor
    · rintro ⟨_, harguments, rfl, rfl⟩
      exact ⟨rfl, harguments⟩
    · rintro ⟨rfl, harguments⟩
      exact ⟨_, harguments, rfl, rfl⟩

theorem StatementRecord.convert_eq_ok_iff {r : StatementRecord} {s : Statement} :
    r.convert = .ok s ↔ r.Mirrors s := by
  induction r using StatementRecord.induction generalizing s with
  | h r ihOperands ihCalls =>
    have hcalls : ∀ step ∈ r.calls, ∀ b, step.convert = .ok b ↔ step.Mirrors b :=
      fun step hstep b => CallRecord.convert_eq_ok_iff fun argument hargument s =>
        ihCalls step hstep argument hargument
    obtain ⟨kind, value, operands, calls⟩ := s
    rw [mirrors_iff, ← forall₂_congr_of_mem fun o ho _ => ihOperands o ho,
      ← forall₂_congr_of_mem hcalls, ← mapM_eq_ok_iff, ← mapM_eq_ok_iff, convert_eq]
    simp only [bind_eq_ok, pure_eq_ok, Statement.mk.injEq]
    constructor
    · rintro ⟨_, hoperands, _, hcalls, rfl, rfl, rfl, rfl⟩
      exact ⟨rfl, rfl, hoperands, hcalls⟩
    · rintro ⟨rfl, rfl, hoperands, hcalls⟩
      exact ⟨_, hoperands, _, hcalls, rfl, rfl, rfl, rfl⟩

theorem ContentRecord.convert_eq_ok_iff {r : ContentRecord} {content : BlockContent} :
    r.convert = .ok content ↔ r.Mirrors content := by
  obtain ⟨statement, target⟩ := content
  have hmirrors : r.Mirrors ⟨statement, target⟩
      ↔ Option.Rel StatementRecord.Mirrors r.statement statement ∧ target = r.target :=
    ⟨fun h => ⟨h.statement, h.target_eq⟩, fun h => ⟨h.1, h.2⟩⟩
  rw [convert, hmirrors]
  cases r.statement with
  | none =>
    rw [pure_eq_ok]
    constructor
    · rintro ⟨⟩
      exact ⟨.none, rfl⟩
    · rintro ⟨⟨⟩, rfl⟩
      rfl
  | some found =>
    simp only [bind_eq_ok, pure_eq_ok, StatementRecord.convert_eq_ok_iff]
    constructor
    · rintro ⟨s, hs, ⟨⟩⟩
      exact ⟨.some hs, rfl⟩
    · rintro ⟨⟨hs⟩, rfl⟩
      exact ⟨_, hs, rfl⟩

theorem Uuid.lt_asymm {a b : Uuid} (hab : a.lt b = true) : ¬ b.lt a = true := by
  simp only [Uuid.lt, decide_eq_true_eq] at hab ⊢
  omega

/-- Ascending identifiers are different. -/
theorem nodup_of_increasing {ids : List Uuid} (h : ids.Pairwise fun a b => a.lt b = true) :
    ids.Nodup := by
  refine h.imp fun {a b} hlt => ?_
  rintro rfl
  exact Uuid.lt_asymm hlt hlt

theorem TargetMap.mirrors_connections (targets : TargetMap) :
    TargetMap.Mirrors targets (TargetMap.connections targets) := by
  have hkeys : (TargetMap.connections targets).map (·.target) = targets.keys := by
    rw [TargetMap.connections, List.map_map]
    rfl
  have hincreasing : targets.keys.Pairwise fun a b => a.lt b = true := targets.ascending
  have hnodup := nodup_of_increasing hincreasing
  refine ⟨hkeys ▸ hincreasing, hkeys ▸ hnodup, fun target side => ?_⟩
  rw [OrderedMap.get?_eq_some_iff hnodup, TargetMap.connections, List.mem_map]
  constructor
  · rintro ⟨⟨target, side⟩, hmem, ⟨⟩⟩
    exact hmem
  · intro hmem
    exact ⟨(target, side), hmem, rfl⟩

/-- What mirrors the targets of one side is determined, since it is ascending. -/
theorem TargetMap.mirrors_iff {targets : TargetMap} {connections : List Connection} :
    TargetMap.Mirrors targets connections ↔ connections = TargetMap.connections targets := by
  constructor
  · intro h
    have hown := mirrors_connections targets
    refine List.Perm.eq_of_pairwise ?_ (List.pairwise_map.1 h.increasing)
      (List.pairwise_map.1 hown.increasing) ?_
    · exact fun a b _ _ hab hba => absurd hba (Uuid.lt_asymm hab)
    · have hnodup := List.Nodup.of_map _ h.nodup
      have hnodup' := List.Nodup.of_map _ hown.nodup
      refine (List.perm_ext_iff_of_nodup hnodup hnodup').2 fun connection => ?_
      exact (h.mem_iff _ _).trans (hown.mem_iff _ _).symm
  · rintro rfl
    exact mirrors_connections targets

theorem ConnectionsRecord.convert_eq_iff {r : ConnectionsRecord} {connections : Connections} :
    r.convert = connections
      ↔ ∀ side, Option.Rel TargetMap.Mirrors (r.get? side) (connections.get? side) := by
  have hrel : ∀ (found : Option TargetMap) (side : Option (List Connection)),
      Option.Rel TargetMap.Mirrors found side ↔ found.map TargetMap.connections = side := by
    intro found side
    cases found <;> cases side <;> simp [TargetMap.mirrors_iff, eq_comm]
  obtain ⟨top, bottom, left, right⟩ := connections
  simp only [hrel, convert, Connections.mk.injEq]
  constructor
  · rintro ⟨rfl, rfl, rfl, rfl⟩ side
    cases side <;> rfl
  · intro h
    exact ⟨h .top, h .bottom, h .left, h .right⟩

theorem BlockRecord.convert_eq_ok_iff {r : BlockRecord} {b : Block} :
    r.convert = .ok b ↔ r.Mirrors b := by
  obtain ⟨id, kind, content, connections⟩ := b
  have hmirrors : r.Mirrors ⟨id, kind, content, connections⟩
      ↔ id = r.id ∧ kind = r.kind ∧ Option.Rel ContentRecord.Mirrors r.content content
        ∧ r.connections.convert = connections := by
    rw [ConnectionsRecord.convert_eq_iff]
    exact ⟨fun h => ⟨h.id_eq, h.kind_eq, h.content, h.connections⟩,
      fun h => ⟨h.1, h.2.1, h.2.2.1, h.2.2.2⟩⟩
  rw [convert, hmirrors]
  cases r.content with
  | none =>
    constructor
    · rintro ⟨⟩
      exact ⟨rfl, rfl, .none, rfl⟩
    · rintro ⟨rfl, rfl, ⟨⟩, rfl⟩
      rfl
  | some found =>
    simp only [bind_eq_ok, pure_eq_ok, ContentRecord.convert_eq_ok_iff]
    constructor
    · rintro ⟨content, hcontent, ⟨⟩⟩
      exact ⟨rfl, rfl, .some hcontent, rfl⟩
    · rintro ⟨rfl, rfl, ⟨hcontent⟩, rfl⟩
      exact ⟨_, hcontent, rfl⟩

/-- What a file is converted to is what mirrors it, if there is nothing to complain about. -/
theorem ItemRecord.convert_eq_ok_iff {r : ItemRecord} {item : Item} :
    r.convert = .ok item ↔ r.IsConvertible ∧ r.Mirrors item := by
  induction r using ItemRecord.induction generalizing item with
  | h r ih =>
    have hchildren : ∀ {items}, List.Forall₂ (fun child item => child.convert = .ok item)
        r.children items ↔ (∀ child ∈ r.children, child.IsConvertible)
          ∧ List.Forall₂ Mirrors r.children items := by
      intro items
      rw [← List.forall₂_and_left]
      exact forall₂_congr_of_mem fun child hchild _ => ih child hchild
    have hblocks : ∀ {blocks}, List.Forall₂ (fun b block => b.convert = .ok block) r.blocks blocks
        ↔ List.Forall₂ BlockRecord.Mirrors r.blocks blocks :=
      forall₂_congr_of_mem fun b _ _ => BlockRecord.convert_eq_ok_iff
    constructor
    · intro h
      have hconvertible := offences_eq_nil_iff.1 (r.failsFirst.exists_ok_iff.1 ⟨item, h⟩)
      refine ⟨hconvertible, ?_⟩
      rw [convert_eq, if_pos (isConvertible_iff.1 hconvertible).1] at h
      simp only [bind_eq_ok, pure_eq_ok, mapM_eq_ok_iff] at h
      obtain ⟨items, hitems, blocks, hmade, rfl⟩ := h
      exact .mk rfl rfl rfl rfl rfl rfl (hchildren.1 hitems).2 (hblocks.1 hmade)
    · rintro ⟨hconvertible, hmirrors⟩
      obtain ⟨howner, hinside, -⟩ := isConvertible_iff.1 hconvertible
      obtain ⟨heq, hitems, hmade⟩ := mirrors_iff.1 hmirrors
      rw [convert_eq, if_pos howner]
      simp only [bind_eq_ok, pure_eq_ok, mapM_eq_ok_iff]
      exact ⟨_, hchildren.2 ⟨hinside, hitems⟩, _, hblocks.2 hmade, heq.symm⟩

/-- A file can be converted exactly if only functions own blocks and every call step has a target,
    at any depth. Then it becomes the tree that mirrors it, and otherwise it is rejected for its
    first offence. -/
theorem ItemRecord.convert_exact (r : ItemRecord) :
    ((∃ item, r.convert = .ok item) ↔ r.IsConvertible)
      ∧ (∀ item, r.convert = .ok item ↔ r.IsConvertible ∧ r.Mirrors item)
      ∧ ∀ error, r.convert = .error error ↔ r.offences.head? = some error :=
  ⟨r.failsFirst.exists_ok_iff.trans offences_eq_nil_iff, fun _ => convert_eq_ok_iff, r.failsFirst⟩

/-- A call step without a target is found in an argument of a call in an operand. -/
example : StatementRecord.convert ⟨.add, none, [⟨.call, none, [],
    [⟨some "Demo.f", [⟨.call, none, [], [⟨none, []⟩]⟩]⟩]⟩], []⟩ = .error .missingTarget := rfl

end ProjectFile

end Flowchart
