import Flowchart.Lowering.Expression
import Flowchart.Proofs.Table

set_option autoImplicit false

/-! # What statements become

When a statement can be compiled, and where the names in its expression come from. A *head* is a
name from which an access starts: it stands alone, or first in a chain. The heads of an expression
are exactly the first steps of the chains of calls that were compiled with it. -/

namespace Flowchart

/-! ## Heads of expressions -/

namespace JavaExpr

mutual

/-- The names from which an expression starts its accesses. -/
def heads : JavaExpr → List String
  | .number _ | .boolean _ | .text _ => []
  | .new _ arguments => headsAll arguments
  | .name n => [n]
  | .invoke _ arguments => headsAll arguments
  | .chain steps => headsChain steps
  | .operation _ operands => headsAll operands
  | .not operand | .length operand | .stringOf operand | .group operand => operand.heads
  | .objectsEqual left right => left.heads ++ right.heads

/-- The heads of several expressions. -/
def headsAll : List JavaExpr → List String
  | [] => []
  | e :: rest => e.heads ++ headsAll rest

/-- The heads of the steps of a chain; a name that is not the first step is no head. -/
def headsChain : List JavaExpr → List String
  | [] => []
  | first :: rest => first.heads ++ headsBehind rest

/-- The heads of the steps behind the first one. -/
def headsBehind : List JavaExpr → List String
  | [] => []
  | .name _ :: rest => headsBehind rest
  | e :: rest => e.heads ++ headsBehind rest

end

variable {n : String}

theorem mem_headsAll {es : List JavaExpr} : n ∈ headsAll es ↔ ∃ e ∈ es, n ∈ e.heads := by
  induction es with
  | nil => simp [headsAll]
  | cons e rest ih => simp [headsAll, ih]

/-- A property that operators neither add nor lose: a compound expression has it exactly if one of
    its operands does. -/
structure Inherited (P : JavaExpr → Prop) : Prop where
  operation {operator : String} {operands : List JavaExpr} :
    P (.operation operator operands) ↔ ∃ e ∈ operands, P e
  not {operand : JavaExpr} : P (.not operand) ↔ P operand
  length {operand : JavaExpr} : P (.length operand) ↔ P operand
  stringOf {operand : JavaExpr} : P (.stringOf operand) ↔ P operand
  objectsEqual {left right : JavaExpr} : P (.objectsEqual left right) ↔ P left ∨ P right
  group {operand : JavaExpr} : P (.group operand) ↔ P operand

theorem inherited_heads : Inherited (n ∈ heads ·) where
  operation := by simp [heads, mem_headsAll]
  not := by simp [heads]
  length := by simp [heads]
  stringOf := by simp [heads]
  objectsEqual := by simp [heads]
  group := by simp [heads]

end JavaExpr

namespace SymbolTable

open JavaExpr (heads headsAll headsChain headsBehind mem_headsAll)

variable {t : SymbolTable} {n : String}

/-! ## Lists of statements and steps -/

theorem lowerAll_eq_ok_iff {statements : List Statement} {es : List JavaExpr} :
    t.lowerAll statements = .ok es
      ↔ List.Forall₂ (fun s e => t.lower s = .ok e) statements es := by
  induction statements generalizing es with
  | nil => rw [lowerAll, List.forall₂_nil_left_iff, Except.ok.injEq, eq_comm]
  | cons s rest ih =>
    simp only [lowerAll, bind_eq_ok, pure_eq_ok, List.forall₂_cons_left_iff, ih]
    constructor
    · rintro ⟨e, he, others, hothers, rfl⟩
      exact ⟨e, others, he, hothers, rfl⟩
    · rintro ⟨e, others, he, hothers, rfl⟩
      exact ⟨e, he, others, hothers, rfl⟩

/-- What one step of a chain becomes. -/
inductive StepsTo (t : SymbolTable) (step : CallStep) : JavaExpr → Prop
  | name {v : Symbol} (found : t.find? step.target = some v)
      (kind : v.item.kind = .variable ∨ v.item.kind = .parameter) :
      StepsTo t step (.name v.reference)
  | invoke {f : Symbol} {arguments : List JavaExpr} (found : t.find? step.target = some f)
      (kind : f.item.kind = .function) (lowered : t.lowerAll step.arguments = .ok arguments) :
      StepsTo t step (.invoke f.reference arguments)

theorem lowerCalls_cons_eq_ok_iff {call : CallStep} {rest : List CallStep} {steps : List JavaExpr} :
    t.lowerCalls (call :: rest) = .ok steps
      ↔ ∃ step others, t.StepsTo call step ∧ t.lowerCalls rest = .ok others
        ∧ steps = step :: others := by
  obtain ⟨target, arguments⟩ := call
  simp only [lowerCalls, bind_eq_ok, resolve_eq_ok_iff]
  constructor
  · rintro ⟨symbol, hfound, h⟩
    split at h
    · next kind =>
        obtain ⟨step, hstep, h⟩ := bind_eq_ok.1 h
        obtain ⟨others, hothers, h⟩ := bind_eq_ok.1 h
        cases hstep
        exact ⟨_, others, .name hfound (Or.inl kind), hothers, (pure_eq_ok.1 h).symm⟩
    · next kind =>
        obtain ⟨step, hstep, h⟩ := bind_eq_ok.1 h
        obtain ⟨others, hothers, h⟩ := bind_eq_ok.1 h
        cases hstep
        exact ⟨_, others, .name hfound (Or.inr kind), hothers, (pure_eq_ok.1 h).symm⟩
    · next kind =>
        obtain ⟨lowered, hlowered, h⟩ := bind_eq_ok.1 h
        obtain ⟨step, hstep, h⟩ := bind_eq_ok.1 h
        obtain ⟨others, hothers, h⟩ := bind_eq_ok.1 h
        cases hstep
        exact ⟨_, others, .invoke hfound kind hlowered, hothers, (pure_eq_ok.1 h).symm⟩
    · cases h
  · rintro ⟨_, others, hstep, hothers, rfl⟩
    cases hstep with
    | @name v found kind =>
      refine ⟨v, found, ?_⟩
      rcases kind with kind | kind
      · simp only [kind, hothers]
        rfl
      · simp only [kind, hothers]
        rfl
    | @invoke f lowered found kind hlowered =>
      refine ⟨f, found, ?_⟩
      simp only [kind, hlowered, hothers]
      rfl

theorem lowerCalls_eq_ok_iff {calls : List CallStep} {steps : List JavaExpr} :
    t.lowerCalls calls = .ok steps ↔ List.Forall₂ t.StepsTo calls steps := by
  induction calls generalizing steps with
  | nil => rw [lowerCalls, List.forall₂_nil_left_iff, Except.ok.injEq, eq_comm]
  | cons call rest ih =>
    simp only [lowerCalls_cons_eq_ok_iff, List.forall₂_cons_left_iff, ih]

/-! ## The three sorts of statements -/

theorem lower_operator {s : Statement} {operator : Operator}
    (h : Operator.ofKind? s.kind = some operator) {e : JavaExpr} :
    t.lower s = .ok e
      ↔ operator.arity.accepts s.operands.length = true ∧ checkOperands operator s.operands = .ok ()
        ∧ ∃ es, t.lowerAll s.operands = .ok es ∧ combine operator es = .ok e := by
  obtain ⟨kind, value, operands, calls⟩ := s
  simp only at h
  simp only [lower, h, bind_eq_ok]
  constructor
  · rintro ⟨⟨⟩, hcheck, hcombine⟩
    refine ⟨?_, hcheck, hcombine⟩
    rw [checkOperands] at hcheck
    split at hcheck
    · next harity => exact harity
    · cases hcheck
  · rintro ⟨-, hcheck, hcombine⟩
    exact ⟨(), hcheck, hcombine⟩

theorem lower_call {s : Statement} (h : s.kind = .call) {e : JavaExpr} :
    t.lower s = .ok e ↔ ∃ steps, t.lowerCalls s.calls = .ok steps ∧ chainSteps steps = .ok e := by
  obtain ⟨kind, value, operands, calls⟩ := s
  cases h
  simp only [lower, Operator.ofKind?, if_true, bind_eq_ok]

theorem lower_literal {s : Statement} (hoperator : Operator.ofKind? s.kind = none)
    (hcall : s.kind ≠ .call) : t.lower s = t.lowerLiteral s.kind s.value := by
  obtain ⟨kind, value, operands, calls⟩ := s
  simp only at hoperator hcall
  simp only [lower, hoperator, if_neg hcall]

/-! ## What operators pass on -/

/-- Operators that compare their operands take at least two. -/
theorem two_le_of_accepts {operator : Operator} {count : Nat}
    (h : operator.arity.accepts count = true) (hnot : operator.form ≠ .not)
    (hlength : operator.form ≠ .length) : 2 ≤ count := by
  have hleast : operator.arity.least = 2 := by
    cases operator with
    | not => exact absurd rfl hnot
    | length => exact absurd rfl hlength
    | _ => rfl
  rw [Arity.accepts, hleast, Bool.and_eq_true, decide_eq_true_eq] at h
  exact h.1

section

variable {P : JavaExpr → Prop} (hP : JavaExpr.Inherited P)

include hP

theorem inherited_conjunction {comparisons : List JavaExpr} :
    P (conjunction comparisons) ↔ ∃ e ∈ comparisons, P e := by
  unfold conjunction
  split
  · simp
  · exact hP.operation

theorem inherited_equalityTest (negated : Bool) (a b : JavaExpr) :
    P (equalityTest negated a b) ↔ P a ∨ P b := by
  cases negated with
  | true => exact hP.not.trans hP.objectsEqual
  | false => exact hP.group.trans hP.objectsEqual

omit hP in
/-- Comparing each operand with the next one leaves none out, if there are two. -/
theorem inherited_consecutive {compare : JavaExpr → JavaExpr → JavaExpr}
    (hcompare : ∀ a b, P (compare a b) ↔ P a ∨ P b) {operands : List JavaExpr}
    (hlength : 2 ≤ operands.length) :
    (∃ e ∈ consecutive compare operands, P e) ↔ ∃ e ∈ operands, P e := by
  induction operands with
  | nil => simp at hlength
  | cons a rest ih =>
    cases rest with
    | nil => simp at hlength
    | cons b others =>
      -- from three operands on, the first comparison shares one with the others
      cases others with
      | nil => simp [consecutive, hcompare]
      | cons c others =>
        rw [consecutive, List.exists_mem_cons_iff, ih (by simp), hcompare, or_assoc,
          List.exists_mem_cons_iff (l := b :: c :: others)]
        refine or_congr_right ?_
        constructor
        · rintro (hb | h)
          · exact ⟨b, List.mem_cons_self, hb⟩
          · exact h
        · exact Or.inr

/-- An operator passes on what its operands have. -/
theorem inherited_combine {operator : Operator} {operands : List JavaExpr} {e : JavaExpr}
    (harity : operator.arity.accepts operands.length = true)
    (h : combine operator operands = .ok e) : P e ↔ ∃ o ∈ operands, P o := by
  have htwo := two_le_of_accepts harity
  unfold combine at h
  split at h
  · cases h
    exact hP.operation
  · cases h
    simp [hP.operation, hP.stringOf]
  · split at h
    · cases h
      simp [hP.not]
    · cases h
  · split at h
    · cases h
      simp [hP.length]
    · cases h
  · next token hform =>
      cases h
      rw [inherited_conjunction hP, inherited_consecutive]
      · simp [hP.operation]
      · exact htwo (by simp [hform]) (by simp [hform])
  · next negated hform =>
      cases h
      rw [inherited_conjunction hP, inherited_consecutive]
      · exact inherited_equalityTest hP negated
      · exact htwo (by simp [hform]) (by simp [hform])

end

/-! ## Heads of chains -/

theorem heads_chainSteps {steps : List JavaExpr} {e : JavaExpr} (h : chainSteps steps = .ok e) :
    e.heads = headsChain steps := by
  unfold chainSteps at h
  split at h
  · cases h
  · cases h
    simp [headsChain, headsBehind]
  · cases h
    rw [heads]

theorem heads_lowerNumber {value : Json} {e : JavaExpr} (h : lowerNumber value = .ok e) :
    e.heads = [] := by
  unfold lowerNumber at h
  split at h
  · cases h
    rfl
  · cases h

theorem heads_lowerTruth {value : Json} {e : JavaExpr} (h : lowerTruth value = .ok e) :
    e.heads = [] := by
  unfold lowerTruth at h
  split at h
  · cases h
    rfl
  · split at h
    · cases h
      rfl
    · cases h
  · cases h

theorem heads_lowerText {value : Json} {e : JavaExpr} (h : lowerText value = .ok e) :
    e.heads = [] := by
  unfold lowerText at h
  split at h
  · cases h
    rfl
  · cases h
    rfl
  · cases h
    rfl
  · cases h

theorem heads_lowerObject {value : Json} {e : JavaExpr} (h : t.lowerObject value = .ok e) :
    e.heads = [] := by
  unfold lowerObject at h
  split at h
  · obtain ⟨type, -, h⟩ := bind_eq_ok.1 h
    cases h
    rfl
  · cases h

/-- A literal has no heads. -/
theorem heads_lowerLiteral {kind : StatementKind} {value : Option Json} {e : JavaExpr}
    (h : t.lowerLiteral kind value = .ok e) : e.heads = [] := by
  unfold lowerLiteral at h
  split at h
  · cases h
  · split at h
    · exact heads_lowerNumber h
    · exact heads_lowerTruth h
    · exact heads_lowerText h
    · exact heads_lowerObject h

/-- A step of a chain starts an access with its own name, or with what its arguments do. -/
theorem StepsTo.mem_heads_iff {step : CallStep} {e : JavaExpr} (h : t.StepsTo step e) :
    n ∈ e.heads
      ↔ e = .name n ∨ ∃ f arguments, e = .invoke f arguments ∧ n ∈ headsAll arguments := by
  cases h with
  | name found kind => simp [heads, eq_comm]
  | invoke found kind lowered => simp [heads]

theorem mem_headsBehind {calls : List CallStep} {steps : List JavaExpr}
    (h : List.Forall₂ t.StepsTo calls steps) :
    n ∈ headsBehind steps
      ↔ ∃ f arguments, .invoke f arguments ∈ steps ∧ n ∈ headsAll arguments := by
  induction h with
  | nil => simp [headsBehind]
  | cons he _ ih =>
    cases he with
    | name found kind => simp [headsBehind, ih]
    | invoke found kind lowered => simp [headsBehind, heads, ih, or_and_right, exists_or]

/-- A name heads a chain as its first step, or within the arguments of one of its calls. -/
theorem mem_headsChain {calls : List CallStep} {steps : List JavaExpr}
    (h : List.Forall₂ t.StepsTo calls steps) :
    n ∈ headsChain steps
      ↔ steps.head? = some (.name n)
        ∨ ∃ f arguments, .invoke f arguments ∈ steps ∧ n ∈ headsAll arguments := by
  cases h with
  | nil => simp [headsChain]
  | cons he hrest =>
    rw [headsChain, List.mem_append, he.mem_heads_iff, mem_headsBehind hrest, or_assoc,
      List.head?_cons, Option.some_inj]
    simp only [List.mem_cons, or_and_right, exists_or, eq_comm]

/-! ## Chains of a statement -/

/-- The chains of calls that are compiled with a statement: its own, those of its operands, and
    those of the arguments of the functions it calls. -/
inductive Contains (t : SymbolTable) : Statement → List CallStep → Prop
  | here {s : Statement} (kind : s.kind = .call) : Contains t s s.calls
  | operand {s operand : Statement} {calls : List CallStep} {operator : Operator}
      (kind : Operator.ofKind? s.kind = some operator) (mem : operand ∈ s.operands)
      (inside : Contains t operand calls) : Contains t s calls
  | argument {s argument : Statement} {step : CallStep} {f : Symbol} {calls : List CallStep}
      (kind : s.kind = .call) (step_mem : step ∈ s.calls) (found : t.find? step.target = some f)
      (function : f.item.kind = .function) (mem : argument ∈ step.arguments)
      (inside : Contains t argument calls) : Contains t s calls

/-- A chain in the statement starts with a variable or parameter, and is compiled to a chain that
    starts with a name. -/
def Reads (t : SymbolTable) (s : Statement) (v : Symbol) (n : String) : Prop :=
  ∃ first rest steps, t.Contains s (first :: rest) ∧ t.find? first.target = some v
    ∧ (v.item.kind = .variable ∨ v.item.kind = .parameter)
    ∧ t.lowerCalls (first :: rest) = .ok (.name n :: steps)

theorem Reads.of_contained {s s' : Statement} {v : Symbol}
    (hcontains : ∀ {calls}, t.Contains s calls → t.Contains s' calls) (h : t.Reads s v n) :
    t.Reads s' v n := by
  obtain ⟨first, rest, steps, hin, hfound, hkind, hlower⟩ := h
  exact ⟨first, rest, steps, hcontains hin, hfound, hkind, hlower⟩

/-- A variable is referred to in one way only. -/
theorem Reads.eq_reference {s : Statement} {v : Symbol} (h : t.Reads s v n) : n = v.reference := by
  obtain ⟨first, rest, steps, -, hfound, -, hlower⟩ := h
  obtain ⟨step, others, hstep, -, heq⟩ := lowerCalls_cons_eq_ok_iff.1 hlower
  cases heq
  cases hstep with
  | name found kind =>
    rw [hfound] at found
    cases found
    rfl

/-- The first name of a compiled chain is a head of the whole expression. -/
theorem Contains.mem_heads {s : Statement} {calls : List CallStep} (h : t.Contains s calls)
    {e : JavaExpr} (he : t.lower s = .ok e) {steps : List JavaExpr}
    (hcalls : t.lowerCalls calls = .ok (.name n :: steps)) : n ∈ e.heads := by
  -- on the way down to the chain; what is compiled around it keeps its heads
  induction h generalizing e with
  | here kind =>
    obtain ⟨all, hall, hchain⟩ := (lower_call kind).1 he
    rw [hcalls] at hall
    cases hall
    rw [heads_chainSteps hchain, headsChain, heads]
    exact List.mem_append_left _ (List.mem_singleton_self n)
  | operand kind mem inside ih =>
    obtain ⟨harity, -, es, hes, hcombine⟩ := (lower_operator kind).1 he
    have hrelated := lowerAll_eq_ok_iff.1 hes
    obtain ⟨o, ho, hlower⟩ := exists_right_of_forall₂ hrelated mem
    rw [hrelated.length_eq] at harity
    exact (inherited_combine JavaExpr.inherited_heads harity hcombine).2 ⟨o, ho, ih hlower hcalls⟩
  | argument kind step_mem found function mem inside ih =>
    obtain ⟨all, hall, hchain⟩ := (lower_call kind).1 he
    have hsteps := lowerCalls_eq_ok_iff.1 hall
    obtain ⟨step, hstep, hsteps_to⟩ := exists_right_of_forall₂ hsteps step_mem
    rw [heads_chainSteps hchain, mem_headsChain hsteps]
    cases hsteps_to with
    | name found' kind' =>
      rw [found] at found'
      cases found'
      simp [function] at kind'
    | invoke found' kind' lowered =>
      obtain ⟨a, ha, hlower⟩ := exists_right_of_forall₂ (lowerAll_eq_ok_iff.1 lowered) mem
      exact Or.inr ⟨_, _, hstep, mem_headsAll.2 ⟨a, ha, ih hlower hcalls⟩⟩

/-- A chain that becomes a name, and more behind it, starts with a variable or parameter. -/
theorem exists_reads_of_head? {s : Statement} (hkind : s.kind = .call) {steps : List JavaExpr}
    (hlower : t.lowerCalls s.calls = .ok steps) (hfirst : steps.head? = some (.name n)) :
    ∃ v, t.Reads s v n := by
  have hcontains : t.Contains s s.calls := .here hkind
  have hsteps := lowerCalls_eq_ok_iff.1 hlower
  generalize s.calls = all at hcontains hlower hsteps
  cases hsteps with
  | nil => cases hfirst
  | @cons first e calls others hstep _ =>
    cases hfirst
    cases hstep with
    | @name v found kind => exact ⟨v, first, calls, others, hcontains, found, kind, hlower⟩

/-- Every head of an expression is the first step of a chain that was compiled with it. -/
theorem exists_reads_of_mem_heads {s : Statement} {e : JavaExpr} (he : t.lower s = .ok e)
    (hn : n ∈ e.heads) : ∃ v, t.Reads s v n := by
  induction s using Statement.induction generalizing e with
  | h s ihOperands ihCalls =>
    cases hoperator : Operator.ofKind? s.kind with
    | some operator =>
      obtain ⟨harity, -, es, hes, hcombine⟩ := (lower_operator hoperator).1 he
      have hrelated := lowerAll_eq_ok_iff.1 hes
      rw [hrelated.length_eq] at harity
      obtain ⟨o, ho, hn⟩ := (inherited_combine JavaExpr.inherited_heads harity hcombine).1 hn
      obtain ⟨operand, hmem, hlower⟩ := exists_left_of_forall₂ hrelated ho
      obtain ⟨v, hv⟩ := ihOperands operand hmem hlower hn
      exact ⟨v, hv.of_contained (.operand hoperator hmem)⟩
    | none =>
      by_cases hkind : s.kind = .call
      · obtain ⟨steps, hlower, hchain⟩ := (lower_call hkind).1 he
        have hsteps := lowerCalls_eq_ok_iff.1 hlower
        rw [heads_chainSteps hchain, mem_headsChain hsteps] at hn
        rcases hn with hfirst | ⟨f, arguments, hinvoke, hn⟩
        · exact exists_reads_of_head? hkind hlower hfirst
        · obtain ⟨step, hmem, hstep⟩ := exists_left_of_forall₂ hsteps hinvoke
          cases hstep with
          | invoke found kind lowered =>
            obtain ⟨a, ha, hn⟩ := mem_headsAll.1 hn
            obtain ⟨argument, hargument, hlower⟩ :=
              exists_left_of_forall₂ (lowerAll_eq_ok_iff.1 lowered) ha
            obtain ⟨v, hv⟩ := ihCalls step hmem argument hargument hlower hn
            exact ⟨v, hv.of_contained (.argument hkind hmem found kind hargument)⟩
      · rw [lower_literal hoperator hkind] at he
        rw [heads_lowerLiteral he] at hn
        cases hn

/-- The heads of an expression are the variables and parameters that the statement reads. -/
theorem mem_heads_lower_iff {s : Statement} {e : JavaExpr} (he : t.lower s = .ok e) :
    n ∈ e.heads ↔ ∃ v, t.Reads s v n := by
  constructor
  · exact exists_reads_of_mem_heads he
  · rintro ⟨v, first, rest, steps, hcontains, -, -, hlower⟩
    exact hcontains.mem_heads he hlower

end SymbolTable

end Flowchart
