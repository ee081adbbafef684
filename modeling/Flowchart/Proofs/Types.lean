import Flowchart.Proofs.Statements

set_option autoImplicit false

/-! # Types of expressions

The types that Java gives to expressions, if the types of their calls are given. Checking the known
types of operands is enough for an expression to have a type: the one its statement is known to
have. Nothing is checked of calls, so they need the types that the operators around them demand. -/

namespace Flowchart

/-! ## Types by the rules of Java -/

namespace JavaType

/-- A type, if it is one of values. -/
def value? (type : JavaType) : Option JavaType := if type = .void then none else some type

/-- The type of two operands with an operator between them: arithmetic and ordering are for numbers,
    connectives for truth values, and whatever is added to a string becomes part of it. -/
def binary? (operator : String) (left right : JavaType) : Option JavaType :=
  if operator ∈ ["+", "-", "*", "/", "%"] ∧ left = .double ∧ right = .double then some .double
  else if operator = "+" ∧ (left = .string ∨ right = .string) then some .string
  else if operator ∈ [">", "<", ">=", "<="] ∧ left = .double ∧ right = .double then some .boolean
  else if operator ∈ ["&&", "||"] ∧ left = .boolean ∧ right = .boolean then some .boolean
  else none

/-- The type of operands with an operator between them, which groups to the left. -/
def operation? (operator : String) : List JavaType → Option JavaType
  | [] => none
  | first :: rest => rest.foldlM (binary? operator) first

end JavaType

namespace JavaExpr

/-- The types of the names, calls and chains that an expression contains. -/
abbrev Calls := JavaExpr → JavaType

mutual

/-- The type of an expression, if it has one. -/
def type? (Γ : Calls) : JavaExpr → Option JavaType
  | .number _ => some .double
  | .boolean _ => some .boolean
  | .text _ => some .string
  | .new (.class className) arguments => do
    let _ ← valueTypes? Γ arguments
    return .class className
  | .new _ _ => none
  | .name n => some (Γ (.name n))
  | .invoke function arguments => do
    let _ ← valueTypes? Γ arguments
    return Γ (.invoke function arguments)
  | .chain steps => do
    let _ ← valueTypes? Γ steps
    return Γ (.chain steps)
  | .operation operator operands => do JavaType.operation? operator (← valueTypes? Γ operands)
  | .not operand => if type? Γ operand = some .boolean then some .boolean else none
  | .length operand => if type? Γ operand = some .string then some .double else none
  | .stringOf operand => do
    let _ ← (← type? Γ operand).value?
    return .string
  | .objectsEqual left right => do
    let _ ← (← type? Γ left).value?
    let _ ← (← type? Γ right).value?
    return .boolean
  | .group operand => type? Γ operand

/-- The types of several expressions, if all of them have values. -/
def valueTypes? (Γ : Calls) : List JavaExpr → Option (List JavaType)
  | [] => some []
  | e :: rest => do
    let type ← (← type? Γ e).value?
    return type :: (← valueTypes? Γ rest)

end

/-! ## Single expressions -/

variable {Γ : Calls} {τ : JavaType} {e left right : JavaExpr} {es : List JavaExpr}

/-- An expression has a type and that is not `void`. -/
def HasValue (Γ : Calls) (e : JavaExpr) : Prop := ∃ τ, type? Γ e = some τ ∧ τ ≠ .void

theorem value?_of_ne_void (h : τ ≠ .void) : τ.value? = some τ := if_neg h

theorem exists_valueTypes? (h : ∀ e ∈ es, HasValue Γ e) :
    ∃ types, valueTypes? Γ es = some types := by
  induction es with
  | nil => exact ⟨[], rfl⟩
  | cons e rest ih =>
    rw [List.forall_mem_cons] at h
    obtain ⟨⟨τ, hτ, hvoid⟩, hrest⟩ := h
    obtain ⟨types, htypes⟩ := ih hrest
    exact ⟨τ :: types, by simp [valueTypes?, hτ, value?_of_ne_void hvoid, htypes]⟩

theorem valueTypes?_eq_replicate (hvoid : τ ≠ .void) (h : ∀ e ∈ es, type? Γ e = some τ) :
    valueTypes? Γ es = some (List.replicate es.length τ) := by
  induction es with
  | nil => rfl
  | cons e rest ih =>
    rw [List.forall_mem_cons] at h
    simp [valueTypes?, h.1, value?_of_ne_void hvoid, ih h.2, List.replicate_succ]

/-- Operands of one type stay of that type if the operator is closed on it. -/
theorem operation?_replicate {operator : String} (hbinary : JavaType.binary? operator τ τ = some τ)
    {n : Nat} (hn : n ≠ 0) : JavaType.operation? operator (List.replicate n τ) = some τ := by
  obtain ⟨n, rfl⟩ := Nat.exists_eq_succ_of_ne_zero hn
  rw [List.replicate_succ, JavaType.operation?]
  clear hn
  induction n with
  | zero => rfl
  | succ n ih => simpa [List.replicate_succ, hbinary] using ih

theorem type?_operation {operator : String} (hbinary : JavaType.binary? operator τ τ = some τ)
    (hvoid : τ ≠ .void) (htwo : 2 ≤ es.length) (h : ∀ e ∈ es, type? Γ e = some τ) :
    type? Γ (.operation operator es) = some τ := by
  simp only [type?, valueTypes?_eq_replicate hvoid h, Option.bind_eq_bind, Option.bind_some]
  exact operation?_replicate hbinary (by omega)

theorem type?_comparison {token : String} (htoken : token ∈ [">", "<", ">=", "<="])
    (hleft : type? Γ left = some .double) (hright : type? Γ right = some .double) :
    type? Γ (.operation token [left, right]) = some .boolean := by
  have hbinary : JavaType.binary? token .double .double = some .boolean := by
    simp only [List.mem_cons, List.not_mem_nil, or_false] at htoken
    rcases htoken with rfl | rfl | rfl | rfl <;> decide
  simp [type?, valueTypes?, hleft, hright, JavaType.value?, JavaType.operation?, hbinary]

theorem type?_stringOf (h : HasValue Γ e) : type? Γ (.stringOf e) = some .string := by
  obtain ⟨τ, hτ, hvoid⟩ := h
  simp [type?, hτ, value?_of_ne_void hvoid]

theorem type?_objectsEqual (hleft : HasValue Γ left) (hright : HasValue Γ right) :
    type? Γ (.objectsEqual left right) = some .boolean := by
  obtain ⟨τ, hτ, hvoid⟩ := hleft
  obtain ⟨τ', hτ', hvoid'⟩ := hright
  simp [type?, hτ, hτ', value?_of_ne_void hvoid, value?_of_ne_void hvoid']

end JavaExpr

/-! ## Types that are known -/

/-- The Java type of the values of a type; objects are of many classes. -/
def ValueType.basic? : ValueType → Option JavaType
  | .number => some .double
  | .boolean => some .boolean
  | .text => some .string
  | .object => none

theorem ValueType.ne_void_of_basic? {T : ValueType} {τ : JavaType} (h : T.basic? = some τ) :
    τ ≠ .void := by
  rintro rfl
  cases T <;> cases h

namespace SymbolTable

open JavaExpr (Calls HasValue type? valueTypes?)

variable {t : SymbolTable} {Γ : Calls}

/-- A Java type is the known type of a statement. For an object it is the class the statement
    names. -/
inductive Realizes (t : SymbolTable) (s : Statement) : ValueType → JavaType → Prop
  | basic {T : ValueType} {τ : JavaType} (basic : T.basic? = some τ) : Realizes t s T τ
  | object {typeName name : String} (value : s.value = some (.string typeName))
      (names : t.NamesType typeName (.class name)) : Realizes t s .object (.class name)

/-- The statements that are compiled with a statement: itself, its operands, the arguments of the
    functions it calls, and what is compiled with these. -/
inductive Visits (t : SymbolTable) : Statement → Statement → Prop
  | self {s : Statement} : Visits t s s
  | operand {s operand s' : Statement} {operator : Operator}
      (kind : Operator.ofKind? s.kind = some operator) (mem : operand ∈ s.operands)
      (inside : Visits t operand s') : Visits t s s'
  | argument {s argument s' : Statement} {step : CallStep} {f : Symbol}
      (kind : s.kind = .call) (step_mem : step ∈ s.calls) (found : t.find? step.target = some f)
      (function : f.item.kind = .function) (mem : argument ∈ step.arguments)
      (inside : Visits t argument s') : Visits t s s'

/-- All objects in a statement are of classes. -/
def CreatesClasses (t : SymbolTable) (s : Statement) : Prop :=
  ∀ object, t.Visits s object → object.kind = .object →
    ∀ typeName, object.value = some (.string typeName) → ∃ name, t.NamesType typeName (.class name)

/-- Types of calls that suit a statement: all calls have values, and those that are operands have
    the types that their operators demand. -/
structure Suits (t : SymbolTable) (Γ : Calls) (s : Statement) : Prop where
  ne_void : ∀ e, Γ e ≠ .void
  demanded : ∀ s', t.Visits s s' → ∀ operator, Operator.ofKind? s'.kind = some operator →
    ∀ T, operator.operandType? = some T → ∀ call ∈ s'.operands, call.kind = .call →
    ∀ e, t.lower call = .ok e → T.basic? = some (Γ e)

theorem CreatesClasses.inside {s s' : Statement} (h : t.CreatesClasses s)
    (hinside : ∀ {s''}, t.Visits s' s'' → t.Visits s s'') : t.CreatesClasses s' :=
  fun object hvisits => h object (hinside hvisits)

theorem Suits.inside {s s' : Statement} (h : t.Suits Γ s)
    (hinside : ∀ {s''}, t.Visits s' s'' → t.Visits s s'') : t.Suits Γ s' where
  ne_void := h.ne_void
  demanded s'' hvisits := h.demanded s'' (hinside hvisits)

/-! ## Operators -/

theorem type?_equalityTest (negated : Bool) {left right : JavaExpr} (hleft : HasValue Γ left)
    (hright : HasValue Γ right) : type? Γ (equalityTest negated left right) = some .boolean := by
  have hequal := JavaExpr.type?_objectsEqual hleft hright
  cases negated with
  | true =>
    show (if type? Γ (.objectsEqual left right) = some .boolean then _ else _) = _
    rw [if_pos hequal]
  | false => exact hequal

theorem type?_comparisons {compare : JavaExpr → JavaExpr → JavaExpr} {es : List JavaExpr}
    (htwo : 2 ≤ es.length) (h : ∀ a ∈ es, ∀ b ∈ es, type? Γ (compare a b) = some .boolean) :
    type? Γ (conjunction (consecutive compare es)) = some .boolean := by
  have hall := forall_consecutive (P := fun e => type? Γ e = some .boolean) h
  rcases conjunction_cases (consecutive_ne_nil htwo) with hone | ⟨hmany, heq⟩
  · rw [hone, List.forall_mem_singleton] at hall
    exact hall
  · rw [heq]
    exact JavaExpr.type?_operation (by decide) nofun hmany hall

/-- Operands of the types that an operator demands are combined to an expression of the type of its
    results. -/
theorem type?_combine {operator : Operator} {es : List JavaExpr} {e : JavaExpr}
    (harity : operator.arity.accepts es.length = true) (hvalues : ∀ e ∈ es, HasValue Γ e)
    (hdemanded : ∀ T, operator.operandType? = some T → ∀ e ∈ es, type? Γ e = T.basic?)
    (h : combine operator es = .ok e) :
    type? Γ e = operator.kind.valueType?.bind ValueType.basic? := by
  have htwo := two_le_of_accepts harity
  cases operator with
  | add | subtract | multiply | divide | modulo =>
    cases h
    exact JavaExpr.type?_operation (by decide) nofun (htwo nofun nofun) (hdemanded .number rfl)
  | and | or =>
    cases h
    exact JavaExpr.type?_operation (by decide) nofun (htwo nofun nofun) (hdemanded .boolean rfl)
  | concat =>
    cases h
    refine JavaExpr.type?_operation (by decide) nofun ?_ ?_
    · rw [List.length_map]
      exact htwo nofun nofun
    · exact List.forall_mem_map.2 fun e he => JavaExpr.type?_stringOf (hvalues e he)
  | not =>
    obtain ⟨operand, rfl⟩ := exists_singleton_of_accepts rfl harity
    cases h
    exact if_pos (hdemanded .boolean rfl operand (by simp))
  | length =>
    obtain ⟨operand, rfl⟩ := exists_singleton_of_accepts rfl harity
    cases h
    exact if_pos (hdemanded .text rfl operand (by simp))
  | greaterThan | lessThan | greaterOrEqualThan | lessOrEqualThan =>
    cases h
    refine type?_comparisons (htwo nofun nofun) fun a ha b hb => ?_
    have hdouble := hdemanded .number rfl
    exact JavaExpr.type?_comparison (by decide) (hdouble a ha) (hdouble b hb)
  | equals | notEquals =>
    cases h
    refine type?_comparisons (htwo nofun nofun) fun a ha b hb => ?_
    exact type?_equalityTest _ (hvalues a ha) (hvalues b hb)

/-! ## Statements -/

/-- What is said of the expression of a statement: it has a value, of the type that the statement is
    known to have, and if the statement is a call, of the type that was given. -/
def IsTyped (t : SymbolTable) (Γ : Calls) (s : Statement) (e : JavaExpr) : Prop :=
  ∃ τ, type? Γ e = some τ ∧ τ ≠ .void ∧ (∀ T, s.valueType? = some T → t.Realizes s T τ)
    ∧ (s.kind = .call → τ = Γ e)

theorem kind_eq_call {s : Statement} (h : s.valueType? = none) : s.kind = .call := by
  obtain ⟨kind, value, operands, calls⟩ := s
  cases kind with
  | call => rfl
  | _ => cases h

theorem ne_object_of_operandType? {operator : Operator} (h : operator.operandType? = some .object) :
    False := by
  cases operator <;> cases h

theorem exists_basic_of_operator (operator : Operator) :
    ∃ T τ, operator.kind.valueType? = some T ∧ T.basic? = some τ := by
  cases operator <;> exact ⟨_, _, rfl, rfl⟩

/-- An operand has the type that is demanded of it, be it known or given. -/
theorem IsTyped.type?_eq {operator : Operator} {operand : Statement} {e : JavaExpr} {T : ValueType}
    (h : t.IsTyped Γ operand e) (hT : operator.operandType? = some T)
    (hknown : ∀ found, operand.valueType? = some found → found = T)
    (hcall : operand.kind = .call → T.basic? = some (Γ e)) : type? Γ e = T.basic? := by
  obtain ⟨τ, hτ, -, hrealizes, hgiven⟩ := h
  rw [hτ]
  cases hfound : operand.valueType? with
  | none =>
    have kind := kind_eq_call hfound
    rw [hcall kind, hgiven kind]
  | some found =>
    obtain rfl := hknown found hfound
    cases hrealizes found hfound with
    | basic basic => exact basic.symm
    | object => exact (ne_object_of_operandType? hT).elim

theorem Literal.isTyped {s : Statement} {value : Json} {e : JavaExpr}
    (hobjects : t.CreatesClasses s) (hvalue : s.value = some value)
    (h : t.Literal s.kind value e) : t.IsTyped Γ s e := by
  obtain ⟨kind, value, operands, calls⟩ := s
  cases hvalue
  cases h with
  | number | numeral =>
    refine ⟨.double, rfl, nofun, ?_, nofun⟩
    rintro _ ⟨⟩
    exact .basic rfl
  | boolean | yes | no =>
    refine ⟨.boolean, rfl, nofun, ?_, nofun⟩
    rintro _ ⟨⟩
    exact .basic rfl
  | text | writtenNumber | writtenTruth =>
    refine ⟨.string, rfl, nofun, ?_, nofun⟩
    rintro _ ⟨⟩
    exact .basic rfl
  | object names =>
    obtain ⟨name, hname⟩ := hobjects _ .self rfl _ rfl
    obtain rfl := names.unique hname
    refine ⟨.class name, rfl, nofun, ?_, nofun⟩
    rintro _ ⟨⟩
    exact .object rfl hname

/-- Calls have the types they are given, if their arguments have values. -/
theorem type?_chainSteps {steps : List JavaExpr} {e : JavaExpr}
    (hsteps : ∀ step ∈ steps, type? Γ step = some (Γ step)) (hΓ : ∀ e, Γ e ≠ .void)
    (h : chainSteps steps = .ok e) : type? Γ e = some (Γ e) := by
  match steps with
  | [] => cases h
  | [step] =>
    cases h
    exact hsteps e (by simp)
  | first :: second :: rest =>
    cases h
    obtain ⟨types, htypes⟩ := JavaExpr.exists_valueTypes? fun step hstep =>
      ⟨Γ step, hsteps step hstep, hΓ step⟩
    simp only [type?, htypes]
    rfl

theorem isTyped_operator {s : Statement} {operator : Operator} {e : JavaExpr}
    (kind : Operator.ofKind? s.kind = some operator) (h : t.lower s = .ok e) (hsuits : t.Suits Γ s)
    (hoperands : ∀ operand ∈ s.operands, ∀ e, t.lower operand = .ok e → t.IsTyped Γ operand e) :
    t.IsTyped Γ s e := by
  obtain ⟨harity, hcheck, es, hes, hcombine⟩ := (lower_operator kind).1 h
  have hfits := checkOperands_eq_ok_iff.1 hcheck
  have hrelated := lowerAll_eq_ok_iff.1 hes
  rw [hrelated.length_eq] at harity
  have hvalues : ∀ e ∈ es, HasValue Γ e := by
    intro e he
    obtain ⟨operand, hmem, hlower⟩ := exists_left_of_forall₂ hrelated he
    obtain ⟨τ, hτ, hvoid, -⟩ := hoperands operand hmem e hlower
    exact ⟨τ, hτ, hvoid⟩
  have hdemanded : ∀ T, operator.operandType? = some T → ∀ e ∈ es, type? Γ e = T.basic? := by
    intro T hT e he
    obtain ⟨operand, hmem, hlower⟩ := exists_left_of_forall₂ hrelated he
    have hoperand := hoperands operand hmem e hlower
    refine hoperand.type?_eq hT (hfits.typed T hT operand hmem) fun hcall => ?_
    exact hsuits.demanded s .self operator kind T hT operand hmem hcall e hlower
  have htype := type?_combine harity hvalues hdemanded hcombine
  obtain ⟨T, τ, hT, hbasic⟩ := exists_basic_of_operator operator
  rw [hT, Option.bind_some, hbasic] at htype
  have hkind := (Operator.ofKind?_eq_some_iff s.kind operator).1 kind
  refine ⟨τ, htype, ValueType.ne_void_of_basic? hbasic, fun found hfound => ?_, fun hcall => ?_⟩
  · rw [Statement.valueType?, ← hkind, hT] at hfound
    cases hfound
    exact .basic hbasic
  · rw [hcall] at kind
    cases kind

theorem isTyped_call {s : Statement} {e : JavaExpr} (kind : s.kind = .call) (h : t.lower s = .ok e)
    (hsuits : t.Suits Γ s)
    (harguments : ∀ step ∈ s.calls, ∀ f, t.find? step.target = some f → f.item.kind = .function →
      ∀ argument ∈ step.arguments, ∀ e, t.lower argument = .ok e → t.IsTyped Γ argument e) :
    t.IsTyped Γ s e := by
  obtain ⟨steps, hsteps, hchain⟩ := (lower_call kind).1 h
  have htypes : ∀ step ∈ steps, type? Γ step = some (Γ step) := by
    intro step hstep
    obtain ⟨call, hmem, hto⟩ := exists_left_of_forall₂ (lowerCalls_eq_ok_iff.1 hsteps) hstep
    cases hto with
    | name => rfl
    | @invoke f arguments found function lowered =>
      have hvalues : ∀ a ∈ arguments, HasValue Γ a := by
        intro a ha
        obtain ⟨argument, hargument, hlower⟩ :=
          exists_left_of_forall₂ (lowerAll_eq_ok_iff.1 lowered) ha
        obtain ⟨τ, hτ, hvoid, -⟩ :=
          harguments call hmem f found function argument hargument a hlower
        exact ⟨τ, hτ, hvoid⟩
      obtain ⟨types, htypes⟩ := JavaExpr.exists_valueTypes? hvalues
      simp only [type?, htypes]
      rfl
  refine ⟨Γ e, type?_chainSteps htypes hsuits.ne_void hchain, hsuits.ne_void e, ?_, fun _ => rfl⟩
  intro T hT
  rw [Statement.valueType?, kind] at hT
  cases hT

theorem isTyped_lower {s : Statement} {e : JavaExpr} (h : t.lower s = .ok e)
    (hobjects : t.CreatesClasses s) (hsuits : t.Suits Γ s) : t.IsTyped Γ s e := by
  induction s using Statement.induction generalizing e with
  | h s ihOperands ihCalls =>
    cases hoperator : Operator.ofKind? s.kind with
    | some operator =>
      refine isTyped_operator hoperator h hsuits fun operand hmem e hlower => ?_
      exact ihOperands operand hmem hlower (hobjects.inside (.operand hoperator hmem))
        (hsuits.inside (.operand hoperator hmem))
    | none =>
      by_cases hcall : s.kind = .call
      · refine isTyped_call hcall h hsuits fun step hstep f found function argument hmem e he => ?_
        exact ihCalls step hstep argument hmem he
          (hobjects.inside (.argument hcall hstep found function hmem))
          (hsuits.inside (.argument hcall hstep found function hmem))
      · rw [lower_literal hoperator hcall] at h
        obtain ⟨value, hvalue, hliteral⟩ := (lowerLiteral_eq_ok_iff hoperator hcall).1 h
        exact hliteral.isTyped hobjects hvalue

/-- A compiled expression has a type if its calls have suitable types, and its type is the one that
    the statement is known to have. -/
theorem lower_typed {s : Statement} {e : JavaExpr} (h : t.lower s = .ok e)
    (hobjects : t.CreatesClasses s) (hsuits : t.Suits Γ s) :
    ∃ τ, type? Γ e = some τ ∧ τ ≠ .void ∧ ∀ T, s.valueType? = some T → t.Realizes s T τ := by
  obtain ⟨τ, hτ, hvoid, hrealizes, -⟩ := isTyped_lower h hobjects hsuits
  exact ⟨τ, hτ, hvoid, hrealizes⟩

end SymbolTable

/-! ## The length of a static variable -/

/-- The table of a project with a class and one static variable. -/
def thingTable : SymbolTable where
  symbols := [
    ⟨{ name := "Thing", kind := .classItem }, "Demo.Thing", some .project⟩,
    ⟨{ name := "label", kind := .«variable» }, "Demo.label", some .project⟩]
  blocks := []

/-- The value of the variable. -/
def thingLabel : Statement := .call [⟨"Demo.label", []⟩]

/-- Whether an object and the length of the variable are the same. -/
def thingTest : Statement :=
  .operation .equals [.object "Demo.Thing", .operation .length [thingLabel]]

/-- The test as it is compiled. -/
def thingExpr : JavaExpr :=
  .group (.objectsEqual (.new (.class "Demo.Thing") []) (.length (.name "Demo.label.label")))

theorem thing_visits {s : Statement} (h : thingTable.Visits thingTest s) :
    s = thingTest ∨ s = .object "Demo.Thing" ∨ s = .operation .length [thingLabel]
      ∨ s = thingLabel := by
  cases h with
  | self => exact Or.inl rfl
  | argument kind => cases kind
  | operand _ mem inside =>
    change _ ∈ [_, _] at mem
    simp only [List.mem_cons, List.not_mem_nil, or_false] at mem
    rcases mem with rfl | rfl
    · cases inside with
      | self => exact Or.inr (Or.inl rfl)
      | operand kind => cases kind
      | argument kind => cases kind
    · cases inside with
      | self => exact Or.inr (Or.inr (Or.inl rfl))
      | argument kind => cases kind
      | operand _ mem inside =>
        cases List.mem_singleton.1 mem
        cases inside with
        | self => exact Or.inr (Or.inr (Or.inr rfl))
        | operand kind => cases kind
        | argument _ mem _ _ mem' =>
          cases List.mem_singleton.1 mem
          cases mem'

theorem thing_createsClasses : thingTable.CreatesClasses thingTest := by
  intro s hs kind typeName hvalue
  rcases thing_visits hs with rfl | rfl | rfl | rfl
  · cases kind
  · cases hvalue
    exact ⟨"Demo.Thing", SymbolTable.resolveType_eq_ok_iff.1 rfl⟩
  · cases kind
  · cases kind

/-- The only demand is that of the length, which is for a string. -/
theorem thing_suits : thingTable.Suits (fun _ => .string) thingTest where
  ne_void := nofun
  demanded := by
    intro s hs operator hoperator T hT call hcall kind e he
    rcases thing_visits hs with rfl | rfl | rfl | rfl
    · cases hoperator
      cases hT
    · cases hoperator
    · cases hoperator
      cases hT
      rfl
    · cases hoperator

theorem thing_typed :
    thingTable.lower thingTest = .ok thingExpr
      ∧ ∃ τ, thingExpr.type? (fun _ => .string) = some τ ∧ τ ≠ .void
        ∧ ∀ T, thingTest.valueType? = some T → thingTable.Realizes thingTest T τ :=
  have hlower : thingTable.lower thingTest = .ok thingExpr := rfl
  ⟨hlower, SymbolTable.lower_typed hlower thing_createsClasses thing_suits⟩

end Flowchart
