import Flowchart.Proofs.Errors
import Flowchart.Proofs.Readability

set_option autoImplicit false

/-! # Well-formed statements

The statements that can be compiled: their literals have fitting values, their operators have
operands in number and type as they demand, and the steps of their calls name something that can be
read or called. Whatever they become has operands and steps enough: no operation joins fewer than
two operands, and no chain fewer than two steps. -/

namespace Flowchart

/-! ## Ample expressions -/

/-- An expression in which no operation has fewer than two operands, and no chain fewer than two
    steps. -/
inductive JavaExpr.Ample : JavaExpr → Prop
  | number (d : Double) : Ample (.number d)
  | boolean (b : Bool) : Ample (.boolean b)
  | text (s : String) : Ample (.text s)
  | new {type : JavaType} {arguments : List JavaExpr} (ample : ∀ e ∈ arguments, Ample e) :
      Ample (.new type arguments)
  | name (n : String) : Ample (.name n)
  | invoke {function : String} {arguments : List JavaExpr} (ample : ∀ e ∈ arguments, Ample e) :
      Ample (.invoke function arguments)
  | chain {steps : List JavaExpr} (two_le : 2 ≤ steps.length) (ample : ∀ e ∈ steps, Ample e) :
      Ample (.chain steps)
  | operation {operator : String} {operands : List JavaExpr} (two_le : 2 ≤ operands.length)
      (ample : ∀ e ∈ operands, Ample e) : Ample (.operation operator operands)
  | not {operand : JavaExpr} (ample : Ample operand) : Ample (.not operand)
  | length {operand : JavaExpr} (ample : Ample operand) : Ample (.length operand)
  | stringOf {operand : JavaExpr} (ample : Ample operand) : Ample (.stringOf operand)
  | objectsEqual {left right : JavaExpr} (ample_left : Ample left) (ample_right : Ample right) :
      Ample (.objectsEqual left right)
  | group {operand : JavaExpr} (ample : Ample operand) : Ample (.group operand)

namespace SymbolTable

open JavaExpr (Ample)

variable {t : SymbolTable}

/-! ## Which statements are well-formed -/

/-- The values that literals of each kind may have, with the expressions they stand for. -/
inductive Literal (t : SymbolTable) : StatementKind → Json → JavaExpr → Prop
  | number {n : JsonNumber} : Literal t .number (.number n) (.number n.toDouble)
  | numeral {s : String} {d : Double} (reads : Double.read? (Text.trim s) = some d) :
      Literal t .number (.string s) (.number d)
  | boolean {b : Bool} : Literal t .boolean (.bool b) (.boolean b)
  | yes : Literal t .boolean (.string "true") (.boolean true)
  | no : Literal t .boolean (.string "false") (.boolean false)
  | text {s : String} : Literal t .text (.string s) (.text s)
  | writtenNumber {n : JsonNumber} : Literal t .text (.number n) (.text (Json.number n).compact)
  | writtenTruth {b : Bool} : Literal t .text (.bool b) (.text (Json.bool b).compact)
  | object {typeName : String} {type : JavaType} (names : t.NamesType typeName type) :
      Literal t .object (.string typeName) (.new type [])

/-- The number and the known types of operands are what an operator demands. -/
structure Fits (operator : Operator) (operands : List Statement) : Prop where
  least_le : operator.arity.least ≤ operands.length
  le_greatest : ∀ greatest, operator.arity.greatest = some greatest → operands.length ≤ greatest
  typed : ∀ expected, operator.operandType? = some expected →
    ∀ operand ∈ operands, ∀ found, operand.valueType? = some found → found = expected

/-- The kinds of items that can be steps of a call. -/
def IsCallable (kind : ItemKind) : Prop := kind = .variable ∨ kind = .parameter ∨ kind = .function

/-- A statement that can be compiled. Nothing is said of what the compiler does not look at: the
    arguments of variables and parameters, and whatever belongs to other kinds of statements. -/
inductive WellFormed (t : SymbolTable) : Statement → Prop
  | literal {s : Statement} {value : Json} {e : JavaExpr} (some : s.value = some value)
      (literal : t.Literal s.kind value e) : WellFormed t s
  | operation {s : Statement} {operator : Operator}
      (kind : Operator.ofKind? s.kind = some operator) (fits : Fits operator s.operands)
      (operands : ∀ operand ∈ s.operands, WellFormed t operand) : WellFormed t s
  | call {s : Statement} (kind : s.kind = .call) (ne_nil : s.calls ≠ [])
      (targets : ∀ step ∈ s.calls, ∃ v, t.find? step.target = some v ∧ IsCallable v.item.kind)
      (arguments : ∀ step ∈ s.calls, ∀ f, t.find? step.target = some f →
        f.item.kind = .function → ∀ argument ∈ step.arguments, WellFormed t argument) :
      WellFormed t s

/-! ## Literals -/

theorem Literal.isLiteral {kind : StatementKind} {value : Json} {e : JavaExpr}
    (h : t.Literal kind value e) : Operator.ofKind? kind = none ∧ kind ≠ .call := by
  cases h <;> exact ⟨rfl, nofun⟩

theorem Literal.ample {kind : StatementKind} {value : Json} {e : JavaExpr}
    (h : t.Literal kind value e) : e.Ample := by
  cases h with
  | number | numeral => exact .number _
  | boolean | yes | no => exact .boolean _
  | text | writtenNumber | writtenTruth => exact .text _
  | object => exact .new nofun

theorem literal_of_lowerNumber {value : Json} {e : JavaExpr} (h : lowerNumber value = .ok e) :
    t.Literal .number value e := by
  unfold lowerNumber numberValue? at h
  split at h
  · next hd =>
      cases h
      split at hd
      · cases hd
        exact .number
      · exact .numeral hd
      · cases hd
  · cases h

theorem literal_of_lowerTruth {value : Json} {e : JavaExpr} (h : lowerTruth value = .ok e) :
    t.Literal .boolean value e := by
  unfold lowerTruth readTruth? at h
  split at h
  · cases h
    exact .boolean
  · split at h
    · next hb =>
        cases h
        split at hb
        · next htrue =>
            cases hb
            exact htrue ▸ .yes
        split at hb
        · next hfalse =>
            cases hb
            exact hfalse ▸ .no
        · cases hb
    · cases h
  · cases h

theorem literal_of_lowerText {value : Json} {e : JavaExpr} (h : lowerText value = .ok e) :
    t.Literal .text value e := by
  unfold lowerText at h
  split at h
  · cases h
    exact .text
  · cases h
    exact .writtenNumber
  · cases h
    exact .writtenTruth
  · cases h

theorem literal_of_lowerObject {value : Json} {e : JavaExpr} (h : t.lowerObject value = .ok e) :
    t.Literal .object value e := by
  unfold lowerObject at h
  split at h
  · obtain ⟨type, htype, h⟩ := bind_eq_ok.1 h
    cases h
    exact .object (resolveType_eq_ok_iff.1 htype)
  · cases h

/-- A literal is compiled exactly if it may have its value. -/
theorem lowerLiteral_eq_ok_iff {kind : StatementKind} {value : Option Json} {e : JavaExpr}
    (hoperator : Operator.ofKind? kind = none) (hcall : kind ≠ .call) :
    t.lowerLiteral kind value = .ok e ↔ ∃ v, value = some v ∧ t.Literal kind v e := by
  constructor
  · intro h
    cases value with
    | none => cases h
    | some value =>
      refine ⟨value, rfl, ?_⟩
      cases kind with
      | number => exact literal_of_lowerNumber h
      | boolean => exact literal_of_lowerTruth h
      | text => exact literal_of_lowerText h
      | object => exact literal_of_lowerObject h
      | call => exact absurd rfl hcall
      | _ => cases hoperator
  · rintro ⟨value, rfl, h⟩
    cases h with
    | numeral reads => simp only [lowerLiteral, lowerNumber, numberValue?, reads]
    | object names =>
      simp only [lowerLiteral, lowerObject, resolveType_eq_ok_iff.2 names]
      rfl
    | _ => rfl

/-! ## Operators -/

theorem firstMistyped_eq_none_of_forall {expected : ValueType} {position : Nat}
    {operands : List Statement}
    (h : ∀ operand ∈ operands, ∀ found, operand.valueType? = some found → found = expected) :
    firstMistyped expected position operands = none := by
  induction operands generalizing position with
  | nil => rfl
  | cons first rest ih =>
    rw [List.forall_mem_cons] at h
    rw [firstMistyped]
    split
    · next found hfound => rw [if_pos (h.1 found hfound), ih h.2]
    · exact ih h.2

theorem accepts_of_fits {operator : Operator} {operands : List Statement}
    (h : Fits operator operands) : operator.arity.accepts operands.length = true := by
  simp only [Arity.accepts, Bool.and_eq_true, decide_eq_true_eq, Option.all_eq_true]
  exact ⟨h.least_le, h.le_greatest⟩

/-- The checks of an operator are passed by the operands that fit. -/
theorem checkOperands_eq_ok_iff {operator : Operator} {operands : List Statement} :
    checkOperands operator operands = .ok () ↔ Fits operator operands := by
  constructor
  · intro h
    unfold checkOperands at h
    split at h
    · next harity =>
        simp only [Arity.accepts, Bool.and_eq_true, decide_eq_true_eq, Option.all_eq_true] at harity
        refine ⟨harity.1, harity.2, ?_⟩
        intro expected hexpected operand hoperand found hfound
        simp only [hexpected] at h
        split at h
        · cases h
        · next hnone => exact firstMistyped_eq_none hnone hoperand hfound
    · cases h
  · intro h
    rw [checkOperands, if_pos (accepts_of_fits h)]
    cases hexpected : operator.operandType? with
    | none => rfl
    | some expected => simp only [firstMistyped_eq_none_of_forall (h.typed expected hexpected)]

/-- A single comparison stands for itself, and several are joined. -/
theorem conjunction_cases {comparisons : List JavaExpr} (hne : comparisons ≠ []) :
    comparisons = [conjunction comparisons]
      ∨ 2 ≤ comparisons.length ∧ conjunction comparisons = .operation "&&" comparisons := by
  match comparisons with
  | [] => exact absurd rfl hne
  | [comparison] => exact Or.inl rfl
  | _ :: _ :: _ => exact Or.inr ⟨by simp, rfl⟩

theorem consecutive_ne_nil {compare : JavaExpr → JavaExpr → JavaExpr} {es : List JavaExpr}
    (htwo : 2 ≤ es.length) : consecutive compare es ≠ [] := by
  rw [← List.length_pos_iff, length_consecutive]
  omega

theorem ample_comparisons {compare : JavaExpr → JavaExpr → JavaExpr} {es : List JavaExpr}
    (htwo : 2 ≤ es.length) (h : ∀ a ∈ es, ∀ b ∈ es, Ample (compare a b)) :
    Ample (conjunction (consecutive compare es)) := by
  have hall := forall_consecutive h
  rcases conjunction_cases (consecutive_ne_nil htwo) with hone | ⟨hmany, heq⟩
  · rw [hone, List.forall_mem_singleton] at hall
    exact hall
  · rw [heq]
    exact .operation hmany hall

theorem ample_combine {operator : Operator} {es : List JavaExpr} {e : JavaExpr}
    (harity : operator.arity.accepts es.length = true) (hes : ∀ e ∈ es, Ample e)
    (h : combine operator es = .ok e) : Ample e := by
  have htwo := two_le_of_accepts harity
  unfold combine at h
  split at h
  · next token hform =>
      cases h
      exact .operation (htwo (by simp [hform]) (by simp [hform])) hes
  · next hform =>
      cases h
      refine .operation ?_ (List.forall_mem_map.2 fun e he => .stringOf (hes e he))
      simpa using htwo (by simp [hform]) (by simp [hform])
  · split at h
    · cases h
      exact .not (hes _ (by simp))
    · cases h
  · split at h
    · cases h
      exact .length (hes _ (by simp))
    · cases h
  · next token hform =>
      cases h
      refine ample_comparisons (htwo (by simp [hform]) (by simp [hform])) fun a ha b hb => ?_
      exact .operation (by simp) (by simp [hes a ha, hes b hb])
  · next negated hform =>
      cases h
      refine ample_comparisons (htwo (by simp [hform]) (by simp [hform])) fun a ha b hb => ?_
      cases negated with
      | true => exact .not (.objectsEqual (hes a ha) (hes b hb))
      | false => exact .group (.objectsEqual (hes a ha) (hes b hb))

theorem exists_singleton_of_accepts {operator : Operator} {es : List JavaExpr}
    (hone : operator.arity = .exactly 1) (harity : operator.arity.accepts es.length = true) :
    ∃ e, es = [e] := by
  simp only [hone, Arity.accepts, Arity.exactly, Bool.and_eq_true, decide_eq_true_eq,
    Option.all_some] at harity
  exact List.length_eq_one_iff.1 (by omega)

/-- Operands in the right number can always be combined. -/
theorem exists_combine {operator : Operator} {es : List JavaExpr}
    (harity : operator.arity.accepts es.length = true) : ∃ e, combine operator es = .ok e := by
  cases operator with
  | not | length =>
    obtain ⟨e, rfl⟩ := exists_singleton_of_accepts rfl harity
    exact ⟨_, rfl⟩
  | _ => exact ⟨_, rfl⟩

/-! ## Calls -/

theorem exists_chainSteps_iff {steps : List JavaExpr} :
    (∃ e, chainSteps steps = .ok e) ↔ steps ≠ [] := by
  match steps with
  | [] => simp [chainSteps]
  | [step] => simp [chainSteps]
  | _ :: _ :: _ => simp [chainSteps]

theorem ample_chainSteps {steps : List JavaExpr} {e : JavaExpr} (hsteps : ∀ s ∈ steps, Ample s)
    (h : chainSteps steps = .ok e) : Ample e := by
  match steps with
  | [] => cases h
  | [step] =>
    cases h
    exact hsteps e (by simp)
  | _ :: _ :: _ =>
    cases h
    exact .chain (by simp) hsteps

theorem exists_lowerAll_iff {statements : List Statement} :
    (∃ es, t.lowerAll statements = .ok es) ↔ ∀ s ∈ statements, ∃ e, t.lower s = .ok e := by
  simp only [lowerAll_eq_ok_iff, exists_forall₂_iff]

/-- A step is compiled exactly if it names something callable, and a function is given arguments
    that can be compiled. -/
theorem exists_stepsTo_iff {step : CallStep} :
    (∃ e, t.StepsTo step e) ↔ ∃ v, t.find? step.target = some v ∧ IsCallable v.item.kind
      ∧ (v.item.kind = .function → ∀ argument ∈ step.arguments, ∃ e, t.lower argument = .ok e) := by
  constructor
  · rintro ⟨e, h⟩
    cases h with
    | @name v found kind =>
      refine ⟨v, found, ?_, ?_⟩
      · rw [IsCallable, ← or_assoc]
        exact Or.inl kind
      · intro hfunction
        rw [hfunction] at kind
        simp at kind
    | @invoke f arguments found kind lowered =>
      exact ⟨f, found, Or.inr (Or.inr kind), fun _ => exists_lowerAll_iff.1 ⟨_, lowered⟩⟩
  · rintro ⟨v, found, kind, harguments⟩
    rcases kind with kind | kind | kind
    · exact ⟨_, .name found (Or.inl kind)⟩
    · exact ⟨_, .name found (Or.inr kind)⟩
    · obtain ⟨lowered, hlowered⟩ := exists_lowerAll_iff.2 (harguments kind)
      exact ⟨_, .invoke found kind hlowered⟩

/-- A call is compiled exactly if it has a step, and all of its steps are. -/
theorem exists_lower_call_iff {s : Statement} (kind : s.kind = .call) :
    (∃ e, t.lower s = .ok e) ↔ s.calls ≠ [] ∧ ∀ step ∈ s.calls, ∃ e, t.StepsTo step e := by
  simp only [lower_call kind, lowerCalls_eq_ok_iff, ← exists_forall₂_iff]
  constructor
  · rintro ⟨e, steps, hsteps, hchain⟩
    refine ⟨fun hnil => ?_, steps, hsteps⟩
    rw [hnil, List.forall₂_nil_left_iff] at hsteps
    exact exists_chainSteps_iff.1 ⟨e, hchain⟩ hsteps
  · rintro ⟨hne, steps, hsteps⟩
    have hsome : steps ≠ [] := by
      rintro rfl
      exact hne (List.forall₂_nil_right_iff.1 hsteps)
    obtain ⟨e, he⟩ := exists_chainSteps_iff.2 hsome
    exact ⟨e, steps, hsteps, he⟩

/-! ## Statements -/

theorem wellFormed_operator {s : Statement} {operator : Operator}
    (kind : Operator.ofKind? s.kind = some operator) :
    t.WellFormed s ↔ Fits operator s.operands ∧ ∀ operand ∈ s.operands, t.WellFormed operand := by
  constructor
  · intro h
    cases h with
    | literal some literal =>
      rw [literal.isLiteral.1] at kind
      cases kind
    | operation kind' fits operands =>
      cases kind.symm.trans kind'
      exact ⟨fits, operands⟩
    | call hcall =>
      rw [hcall] at kind
      cases kind
  · rintro ⟨fits, operands⟩
    exact .operation kind fits operands

theorem wellFormed_call {s : Statement} (kind : s.kind = .call) :
    t.WellFormed s ↔ s.calls ≠ []
      ∧ ∀ step ∈ s.calls, ∃ v, t.find? step.target = some v ∧ IsCallable v.item.kind
        ∧ (v.item.kind = .function → ∀ argument ∈ step.arguments, t.WellFormed argument) := by
  constructor
  · intro h
    cases h with
    | literal some literal => exact absurd kind literal.isLiteral.2
    | operation hoperator =>
      rw [kind] at hoperator
      cases hoperator
    | call kind ne_nil targets arguments =>
      refine ⟨ne_nil, fun step hstep => ?_⟩
      obtain ⟨v, hv, hcallable⟩ := targets step hstep
      exact ⟨v, hv, hcallable, arguments step hstep v hv⟩
  · rintro ⟨ne_nil, hsteps⟩
    refine .call kind ne_nil (fun step hstep => ?_) fun step hstep f hf hfunction => ?_
    · obtain ⟨v, hv, hcallable, -⟩ := hsteps step hstep
      exact ⟨v, hv, hcallable⟩
    · obtain ⟨v, hv, -, harguments⟩ := hsteps step hstep
      cases hf.symm.trans hv
      exact harguments hfunction

theorem wellFormed_literal {s : Statement} (hoperator : Operator.ofKind? s.kind = none)
    (hcall : s.kind ≠ .call) :
    t.WellFormed s ↔ ∃ e value, s.value = some value ∧ t.Literal s.kind value e := by
  constructor
  · intro h
    cases h with
    | literal some literal => exact ⟨_, _, some, literal⟩
    | operation kind =>
      rw [hoperator] at kind
      cases kind
    | call kind => exact absurd kind hcall
  · rintro ⟨e, value, some, literal⟩
    exact .literal some literal

theorem exists_lower_iff {s : Statement} : (∃ e, t.lower s = .ok e) ↔ t.WellFormed s := by
  induction s using Statement.induction with
  | h s ihOperands ihCalls =>
    cases hoperator : Operator.ofKind? s.kind with
    | some operator =>
      rw [wellFormed_operator hoperator]
      simp only [lower_operator hoperator, checkOperands_eq_ok_iff]
      constructor
      · rintro ⟨e, -, hfits, es, hes, -⟩
        have hoperands := exists_lowerAll_iff.1 ⟨es, hes⟩
        exact ⟨hfits, fun operand hmem => (ihOperands operand hmem).1 (hoperands operand hmem)⟩
      · rintro ⟨hfits, hoperands⟩
        obtain ⟨es, hes⟩ := exists_lowerAll_iff.2 fun operand hmem =>
          (ihOperands operand hmem).2 (hoperands operand hmem)
        have harity := accepts_of_fits hfits
        rw [(lowerAll_eq_ok_iff.1 hes).length_eq] at harity
        obtain ⟨e, he⟩ := exists_combine harity
        exact ⟨e, accepts_of_fits hfits, hfits, es, hes, he⟩
    | none =>
      by_cases hcall : s.kind = .call
      · rw [wellFormed_call hcall, exists_lower_call_iff hcall]
        refine and_congr_right fun _ => forall₂_congr fun step hstep => ?_
        rw [exists_stepsTo_iff]
        refine exists_congr fun v => and_congr_right fun _ => and_congr_right fun _ => ?_
        exact forall_congr' fun _ => forall₂_congr (ihCalls step hstep)
      · rw [wellFormed_literal hoperator hcall, lower_literal hoperator hcall]
        exact exists_congr fun e => lowerLiteral_eq_ok_iff hoperator hcall

theorem ample_lower {s : Statement} {e : JavaExpr} (h : t.lower s = .ok e) : e.Ample := by
  induction s using Statement.induction generalizing e with
  | h s ihOperands ihCalls =>
    cases hoperator : Operator.ofKind? s.kind with
    | some operator =>
      obtain ⟨harity, -, es, hes, hcombine⟩ := (lower_operator hoperator).1 h
      have hoperands := lowerAll_eq_ok_iff.1 hes
      rw [hoperands.length_eq] at harity
      refine ample_combine harity (fun e he => ?_) hcombine
      obtain ⟨operand, hoperand, hlower⟩ := exists_left_of_forall₂ hoperands he
      exact ihOperands operand hoperand hlower
    | none =>
      by_cases hcall : s.kind = .call
      · obtain ⟨steps, hsteps, hchain⟩ := (lower_call hcall).1 h
        refine ample_chainSteps (fun e he => ?_) hchain
        obtain ⟨step, hstep, hto⟩ := exists_left_of_forall₂ (lowerCalls_eq_ok_iff.1 hsteps) he
        cases hto with
        | name => exact .name _
        | invoke found kind lowered =>
          refine .invoke fun a ha => ?_
          obtain ⟨argument, hargument, hlower⟩ :=
            exists_left_of_forall₂ (lowerAll_eq_ok_iff.1 lowered) ha
          exact ihCalls step hstep argument hargument hlower
      · rw [lower_literal hoperator hcall] at h
        obtain ⟨value, -, hliteral⟩ := (lowerLiteral_eq_ok_iff hoperator hcall).1 h
        exact hliteral.ample

/-- Exactly the well-formed statements can be compiled, and what they become has operands and steps
    enough. -/
theorem lower_isOk_iff (t : SymbolTable) (s : Statement) :
    ((∃ e, t.lower s = .ok e) ↔ t.WellFormed s) ∧ ∀ e, t.lower s = .ok e → e.Ample :=
  ⟨exists_lower_iff, fun _ => ample_lower⟩

end SymbolTable

/-! ## A number with blanks around it -/

/-- Whether three numbers, one of them written as a text, are in order. -/
def orderTest : Statement :=
  .operation .lessThan [
    .literal .number (.number (.integer 0)),
    .literal .number (.string " 1 "),
    .operation .length [.text "two"]]

theorem orderTest_ample :
    ∃ e, SymbolTable.lower ⟨[], []⟩ orderTest = .ok e ∧ e.Ample
      ∧ SymbolTable.WellFormed ⟨[], []⟩ orderTest := by
  obtain ⟨e, he⟩ := exists_eq_ok (x := SymbolTable.lower ⟨[], []⟩ orderTest) (by decide)
  have haccepted := SymbolTable.lower_isOk_iff ⟨[], []⟩ orderTest
  exact ⟨e, he, haccepted.2 e he, haccepted.1.1 ⟨e, he⟩⟩

end Flowchart
