import Flowchart.Proofs.Expressions

set_option autoImplicit false

/-! # What expressions mean

A statement has a value of its own, and so has the expression it is compiled to. Whatever the names,
functions and operations mean, the two are the same: operands are combined from the left, texts are
joined, comparisons hold between all neighbours, and the steps of a chain follow each other. -/

namespace Flowchart

universe u v

/-! ## Primitives -/

/-- What names, functions and operations mean, over values and texts of any types. All that is known
    of them is how the Java operators act on values that are made from truth values and texts:
    `&&` and `!` are conjunction and negation, and `+` joins texts. -/
structure Primitives (α : Type u) (τ : Type v) where
  number : Double → α
  truth : Bool → α
  text : τ → α
  /-- The text of a literal. -/
  written : String → τ
  create : JavaType → List α → α
  /-- A variable by its name, of an object if there is one. -/
  access : Option α → String → α
  /-- A function by its name, of an object if there is one. -/
  call : Option α → String → List α → α
  add : α → α → α
  subtract : α → α → α
  multiply : α → α → α
  divide : α → α → α
  modulo : α → α → α
  and : α → α → α
  or : α → α → α
  not : α → α
  greater : α → α → Bool
  less : α → α → Bool
  greaterOrEqual : α → α → Bool
  lessOrEqual : α → α → Bool
  equal : α → α → Bool
  textOf : α → τ
  concat : τ → τ → τ
  length : α → α
  and_truth : ∀ p q, and (truth p) (truth q) = truth (p && q)
  not_truth : ∀ p, not (truth p) = truth (!p)
  add_text : ∀ x y, add (text x) (text y) = text (concat x y)

/-- Combines values from the left; without any there is no result. -/
def foldLeft? {α : Type u} (op : α → α → α) : List α → Option α
  | [] => none
  | first :: rest => some (rest.foldl op first)

theorem exists_foldLeft? {α : Type u} {op : α → α → α} {values : List α} (hne : values ≠ []) :
    ∃ value, foldLeft? op values = some value := by
  cases values with
  | nil => exact absurd rfl hne
  | cons first rest => exact ⟨_, rfl⟩

/-- Whether a relation holds between every value and the one behind it. -/
def betweenNeighbours {α : Type u} (related : α → α → Bool) (values : List α) : Bool :=
  decide (values.IsChain fun a b => related a b)

namespace Primitives

variable {α : Type u} {τ : Type v} (J : Primitives α τ)

/-- The operation between operands that a Java operator stands for. -/
def binary? (operator : String) : Option (α → α → α) :=
  match operator with
  | "+" => some J.add
  | "-" => some J.subtract
  | "*" => some J.multiply
  | "/" => some J.divide
  | "%" => some J.modulo
  | "&&" => some J.and
  | "||" => some J.or
  | ">" => some fun a b => J.truth (J.greater a b)
  | "<" => some fun a b => J.truth (J.less a b)
  | ">=" => some fun a b => J.truth (J.greaterOrEqual a b)
  | "<=" => some fun a b => J.truth (J.lessOrEqual a b)
  | _ => none

/-- What the operator of a statement makes of the values of its operands. -/
def combined? : Operator → List α → Option α
  | .add, values => foldLeft? J.add values
  | .subtract, values => foldLeft? J.subtract values
  | .multiply, values => foldLeft? J.multiply values
  | .divide, values => foldLeft? J.divide values
  | .modulo, values => foldLeft? J.modulo values
  | .and, values => foldLeft? J.and values
  | .or, values => foldLeft? J.or values
  | .concat, values => (foldLeft? J.concat (values.map J.textOf)).map J.text
  | .greaterThan, values => some (J.truth (betweenNeighbours J.greater values))
  | .lessThan, values => some (J.truth (betweenNeighbours J.less values))
  | .greaterOrEqualThan, values => some (J.truth (betweenNeighbours J.greaterOrEqual values))
  | .lessOrEqualThan, values => some (J.truth (betweenNeighbours J.lessOrEqual values))
  | .equals, values => some (J.truth (betweenNeighbours J.equal values))
  | .notEquals, values => some (J.truth (betweenNeighbours (fun a b => !J.equal a b) values))
  | .not, [value] => some (J.not value)
  | .length, [value] => some (J.length value)
  | .not, _ | .length, _ => none

end Primitives

/-! ## Values of Java expressions -/

namespace JavaExpr

variable {α : Type u} {τ : Type v} (J : Primitives α τ)

mutual

/-- The value of an expression; operators group their operands to the left. -/
def eval : JavaExpr → Option α
  | .number d => some (J.number d)
  | .boolean b => some (J.truth b)
  | .text s => some (J.text (J.written s))
  | .new type arguments => do return J.create type (← evalAll arguments)
  | .name n => some (J.access none n)
  | .invoke f arguments => do return J.call none f (← evalAll arguments)
  | .chain steps => evalChain steps none
  | .operation operator operands => do
    let op ← J.binary? operator
    foldLeft? op (← evalAll operands)
  | .not operand => do return J.not (← operand.eval)
  | .length operand => do return J.length (← operand.eval)
  | .stringOf operand => do return J.text (J.textOf (← operand.eval))
  | .objectsEqual left right => do return J.truth (J.equal (← left.eval) (← right.eval))
  | .group operand => operand.eval

/-- The values of expressions, in order. -/
def evalAll : List JavaExpr → Option (List α)
  | [] => some []
  | e :: rest => do
    let value ← e.eval
    return value :: (← evalAll rest)

/-- The value behind the steps of a chain, each taken from the value of the one before it. -/
def evalChain : List JavaExpr → Option α → Option α
  | [], receiver => receiver
  | .name n :: rest, receiver => evalChain rest (some (J.access receiver n))
  | .invoke f arguments :: rest, receiver => do
    evalChain rest (some (J.call receiver f (← evalAll arguments)))
  | e :: rest, none => do evalChain rest (some (← e.eval))
  | _ :: _, some _ => none

end

end JavaExpr

/-! ## Values of statements -/

namespace Statement

variable {α : Type u} {τ : Type v} (t : SymbolTable) (J : Primitives α τ)

/-- The value of a literal. -/
def literalValue? : StatementKind → Option Json → Option α
  | .number, some value => (numberValue? value).map J.number
  | .boolean, some (.bool b) => some (J.truth b)
  | .boolean, some (.string s) => (readTruth? s).map J.truth
  | .text, some (.string s) => some (J.text (J.written s))
  | .text, some (.number n) => some (J.text (J.written (Json.number n).compact))
  | .text, some (.bool b) => some (J.text (J.written (Json.bool b).compact))
  | .object, some (.string typeName) => (t.resolveType typeName).toOption.map (J.create · [])
  | _, _ => none

mutual

/-- The value of a statement. -/
def value? : Statement → Option α
  | { kind, value, operands, calls } =>
    match Operator.ofKind? kind with
    | some operator => do J.combined? operator (← values? operands)
    | none => if kind = .call then chainValue? calls none else literalValue? t J kind value

/-- The values of statements, in order. -/
def values? : List Statement → Option (List α)
  | [] => some []
  | s :: rest => do
    let value ← value? s
    return value :: (← values? rest)

/-- The value behind calls, each made on the value of the one before it. -/
def chainValue? : List CallStep → Option α → Option α
  | [], receiver => receiver
  | { target, arguments } :: rest, receiver =>
    match t.find? target with
    | none => none
    | some symbol =>
      match symbol.item.kind with
      | .variable | .parameter => chainValue? rest (some (J.access receiver symbol.reference))
      | .function => do
        chainValue? rest (some (J.call receiver symbol.reference (← values? arguments)))
      | _ => none

end

variable {t J} {s : Statement}

theorem value?_operator {operator : Operator} (h : Operator.ofKind? s.kind = some operator) :
    s.value? t J = (values? t J s.operands).bind (J.combined? operator) := by
  obtain ⟨kind, value, operands, calls⟩ := s
  simp only at h
  simp only [value?, h, Option.bind_eq_bind]

theorem value?_call (h : s.kind = .call) : s.value? t J = chainValue? t J s.calls none := by
  obtain ⟨kind, value, operands, calls⟩ := s
  cases h
  simp only [value?, Operator.ofKind?, if_true]

theorem value?_literal (hoperator : Operator.ofKind? s.kind = none) (hcall : s.kind ≠ .call) :
    s.value? t J = literalValue? t J s.kind s.value := by
  obtain ⟨kind, value, operands, calls⟩ := s
  simp only at hoperator hcall
  simp only [value?, hoperator, if_neg hcall]

end Statement

namespace JavaExpr

variable {α : Type u} {τ : Type v} {J : Primitives α τ} {es : List JavaExpr} {values : List α}

/-! ## Values of operators -/

theorem evalAll_cons {e : JavaExpr} {value : α} (he : e.eval J = some value)
    (hes : evalAll J es = some values) : evalAll J (e :: es) = some (value :: values) := by
  rw [evalAll, he, hes]
  rfl

theorem evalAll_cons_eq_some_iff {e : JavaExpr} :
    evalAll J (e :: es) = some values
      ↔ ∃ value, e.eval J = some value ∧ ∃ rest, evalAll J es = some rest
        ∧ value :: rest = values := by
  simp only [evalAll, Option.bind_eq_bind, Option.bind_eq_some_iff, Option.pure_def,
    Option.some_inj]

theorem length_evalAll (hes : evalAll J es = some values) : values.length = es.length := by
  induction es generalizing values with
  | nil =>
    cases hes
    rfl
  | cons e rest ih =>
    obtain ⟨value, -, others, hothers, rfl⟩ := evalAll_cons_eq_some_iff.1 hes
    rw [List.length_cons, List.length_cons, ih hothers]

theorem eval_operation {operator : String} {op : α → α → α} (hop : J.binary? operator = some op)
    (hes : evalAll J es = some values) :
    (JavaExpr.operation operator es).eval J = foldLeft? op values := by
  rw [eval, hop, hes]
  rfl

/-- The conjunction of truth values, from the left. -/
theorem foldl_and (p : Bool) (truths : List Bool) :
    (truths.map J.truth).foldl J.and (J.truth p) = J.truth (p && truths.all id) := by
  induction truths generalizing p with
  | nil => simp
  | cons q rest ih =>
    rw [List.map_cons, List.foldl_cons, J.and_truth, ih, List.all_cons, Bool.and_assoc]
    rfl

/-- Comparisons together are true if each of them is. -/
theorem eval_conjunction {truths : List Bool} (hne : truths ≠ [])
    (hes : evalAll J es = some (truths.map J.truth)) :
    (SymbolTable.conjunction es).eval J = some (J.truth (truths.all id)) := by
  cases truths with
  | nil => exact absurd rfl hne
  | cons p rest =>
    unfold SymbolTable.conjunction
    split
    · -- a single comparison stands for itself
      next only =>
        obtain ⟨value, honly, others, hothers, heq⟩ := evalAll_cons_eq_some_iff.1 hes
        cases hothers
        obtain ⟨rfl, hrest⟩ := List.cons.inj heq
        rw [List.map_eq_nil_iff.1 hrest.symm]
        simpa using honly
    · rw [eval_operation rfl hes, List.map_cons, foldLeft?, foldl_and, List.all_cons]
      rfl

/-- Comparing each of several operands with the next one gives one truth value for each pair of
    neighbours. -/
theorem evalAll_consecutive {compare : JavaExpr → JavaExpr → JavaExpr} {related : α → α → Bool}
    (hcompare : ∀ {a b : JavaExpr} {x y : α}, a.eval J = some x → b.eval J = some y →
      (compare a b).eval J = some (J.truth (related x y)))
    (htwo : 2 ≤ es.length) (hes : evalAll J es = some values) :
    ∃ truths : List Bool, truths ≠ []
      ∧ evalAll J (SymbolTable.consecutive compare es) = some (truths.map J.truth)
      ∧ truths.all id = betweenNeighbours related values := by
  induction es generalizing values with
  | nil => simp at htwo
  | cons a rest ih =>
    obtain ⟨x, ha, xs, hrest, rfl⟩ := evalAll_cons_eq_some_iff.1 hes
    cases rest with
    | nil => simp at htwo
    | cons b others =>
      obtain ⟨y, hb, ys, hothers, rfl⟩ := evalAll_cons_eq_some_iff.1 hrest
      have hfirst := hcompare ha hb
      cases others with
      | nil =>
        cases hothers
        refine ⟨[related x y], by simp, evalAll_cons hfirst rfl, ?_⟩
        simp [betweenNeighbours]
      | cons c others =>
        obtain ⟨truths, -, htruths, hall⟩ := ih (by simp) hrest
        refine ⟨related x y :: truths, by simp, evalAll_cons hfirst htruths, ?_⟩
        rw [List.all_cons, hall]
        simp [betweenNeighbours]

theorem eval_comparisons {compare : JavaExpr → JavaExpr → JavaExpr} {related : α → α → Bool}
    (hcompare : ∀ {a b : JavaExpr} {x y : α}, a.eval J = some x → b.eval J = some y →
      (compare a b).eval J = some (J.truth (related x y)))
    (htwo : 2 ≤ es.length) (hes : evalAll J es = some values) :
    (SymbolTable.conjunction (SymbolTable.consecutive compare es)).eval J
      = some (J.truth (betweenNeighbours related values)) := by
  obtain ⟨truths, hne, htruths, hall⟩ := evalAll_consecutive hcompare htwo hes
  rw [eval_conjunction hne htruths, hall]

theorem eval_comparison {operator : String} {related : α → α → Bool}
    (hop : J.binary? operator = some fun a b => J.truth (related a b)) {a b : JavaExpr} {x y : α}
    (ha : a.eval J = some x) (hb : b.eval J = some y) :
    (JavaExpr.operation operator [a, b]).eval J = some (J.truth (related x y)) := by
  have hoperands : evalAll J [a, b] = some [x, y] := evalAll_cons ha (evalAll_cons hb rfl)
  rw [eval_operation hop hoperands]
  rfl

theorem eval_equalityTest (negated : Bool) {a b : JavaExpr} {x y : α} (ha : a.eval J = some x)
    (hb : b.eval J = some y) :
    (SymbolTable.equalityTest negated a b).eval J
      = some (J.truth (if negated then !J.equal x y else J.equal x y)) := by
  have hequal : (JavaExpr.objectsEqual a b).eval J = some (J.truth (J.equal x y)) := by
    rw [eval, ha, hb]
    rfl
  cases negated with
  | false => exact hequal
  | true =>
    show (JavaExpr.not (.objectsEqual a b)).eval J = _
    rw [eval, hequal]
    exact congrArg some (J.not_truth _)

/-- Joined texts are a text. -/
theorem foldLeft?_text {texts : List τ} :
    foldLeft? J.add (texts.map J.text) = (foldLeft? J.concat texts).map J.text := by
  cases texts with
  | nil => rfl
  | cons first rest =>
    rw [List.map_cons, foldLeft?, foldLeft?, Option.map_some, List.foldl_map]
    exact congrArg some (List.foldl_hom J.text J.add_text)

theorem evalAll_stringOf (hes : evalAll J es = some values) :
    evalAll J (es.map .stringOf) = some ((values.map J.textOf).map J.text) := by
  induction es generalizing values with
  | nil =>
    cases hes
    rfl
  | cons e rest ih =>
    obtain ⟨value, he, others, hothers, rfl⟩ := evalAll_cons_eq_some_iff.1 hes
    refine evalAll_cons ?_ (ih hothers)
    rw [eval, he]
    rfl

/-- No operator does without operands. -/
theorem pos_of_accepts {operator : Operator} {count : Nat}
    (h : operator.arity.accepts count = true) : 0 < count := by
  have hleast : 0 < operator.arity.least := by cases operator <;> decide
  rw [Arity.accepts, Bool.and_eq_true, decide_eq_true_eq] at h
  exact Nat.lt_of_lt_of_le hleast h.1

/-- The expression of an operator means what the operator does with the values of its operands. -/
theorem eval_combine {operator : Operator} {e : JavaExpr}
    (harity : operator.arity.accepts es.length = true) (hes : evalAll J es = some values)
    (h : SymbolTable.combine operator es = .ok e) :
    ∃ value, J.combined? operator values = some value ∧ e.eval J = some value := by
  have htwo := SymbolTable.two_le_of_accepts harity
  have hne : values ≠ [] := by
    rw [← List.length_pos_iff, length_evalAll hes]
    exact pos_of_accepts harity
  cases operator with
  | add | subtract | multiply | divide | modulo | and | or =>
    cases h
    obtain ⟨value, hvalue⟩ := exists_foldLeft? hne
    exact ⟨value, hvalue, (eval_operation rfl hes).trans hvalue⟩
  | concat =>
    cases h
    have htexts := evalAll_stringOf hes
    obtain ⟨text, htext⟩ := exists_foldLeft? (mt List.map_eq_nil_iff.1 hne)
    refine ⟨J.text text, ?_, ?_⟩
    · rw [Primitives.combined?, htext]
      rfl
    · rw [eval_operation rfl htexts, foldLeft?_text, htext]
      rfl
  | not | length =>
    unfold SymbolTable.combine at h
    simp only [Operator.form] at h
    split at h
    · cases h
      obtain ⟨value, hvalue, others, hothers, rfl⟩ := evalAll_cons_eq_some_iff.1 hes
      cases hothers
      refine ⟨_, rfl, ?_⟩
      rw [eval, hvalue]
      rfl
    · cases h
  | greaterThan | lessThan | greaterOrEqualThan | lessOrEqualThan =>
    cases h
    exact ⟨_, rfl, eval_comparisons (eval_comparison rfl) (htwo nofun nofun) hes⟩
  | equals | notEquals =>
    cases h
    exact ⟨_, rfl, eval_comparisons (eval_equalityTest _) (htwo nofun nofun) hes⟩

end JavaExpr

namespace SymbolTable

open JavaExpr (eval evalAll evalChain)
open Statement (values? chainValue? literalValue?)

variable {α : Type u} {τ : Type v} {t : SymbolTable} {J : Primitives α τ}

/-! ## Statements and their expressions -/

/-- A statement and an expression that have the same value. -/
def SameValue (t : SymbolTable) (J : Primitives α τ) (s : Statement) (e : JavaExpr) : Prop :=
  ∃ value, s.value? t J = some value ∧ e.eval J = some value

theorem sameValue_all {statements : List Statement} {es : List JavaExpr}
    (hall : ∀ s ∈ statements, ∀ e, t.lower s = .ok e → SameValue t J s e)
    (h : t.lowerAll statements = .ok es) :
    ∃ values, values? t J statements = some values ∧ evalAll J es = some values := by
  have hrelated := lowerAll_eq_ok_iff.1 h
  clear h
  induction hrelated with
  | nil => exact ⟨[], rfl, rfl⟩
  | @cons s e statements es he _ ih =>
    obtain ⟨value, hs, heval⟩ := hall s List.mem_cons_self e he
    obtain ⟨values, hvalues, hevals⟩ := ih fun s hs => hall s (List.mem_cons_of_mem _ hs)
    refine ⟨value :: values, ?_, JavaExpr.evalAll_cons heval hevals⟩
    rw [values?, hs, hvalues]
    rfl

/-- A chain of calls has the value of the steps it is compiled to, whatever object it starts from;
    without one it needs a step to start from. -/
theorem sameValue_chain {calls : List CallStep} {steps : List JavaExpr} {receiver : Option α}
    (hall : ∀ call ∈ calls, ∀ s ∈ call.arguments, ∀ e, t.lower s = .ok e → SameValue t J s e)
    (h : t.lowerCalls calls = .ok steps) (hstart : steps ≠ [] ∨ receiver.isSome) :
    ∃ value, chainValue? t J calls receiver = some value
      ∧ evalChain J steps receiver = some value := by
  have hsteps := lowerCalls_eq_ok_iff.1 h
  clear h
  -- every step hands its value on to the ones behind it
  induction hsteps generalizing receiver with
  | nil =>
    obtain ⟨value, rfl⟩ := Option.isSome_iff_exists.1 (hstart.resolve_left (absurd rfl))
    exact ⟨value, rfl, rfl⟩
  | @cons call step calls steps hstep _ ih =>
    obtain ⟨target, arguments⟩ := call
    have hbehind : ∀ value, ∃ result, chainValue? t J calls (some value) = some result
        ∧ evalChain J steps (some value) = some result := fun value =>
      ih (fun call hcall => hall call (List.mem_cons_of_mem _ hcall)) (Or.inr rfl)
    cases hstep with
    | @name symbol found kind =>
      obtain ⟨result, hresult, heval⟩ := hbehind (J.access receiver symbol.reference)
      refine ⟨result, ?_, by rwa [evalChain]⟩
      rcases kind with kind | kind
      · simpa only [chainValue?, found, kind] using hresult
      · simpa only [chainValue?, found, kind] using hresult
    | @invoke symbol lowered found kind hlowered =>
      obtain ⟨values, hvalues, hevals⟩ := sameValue_all (hall _ List.mem_cons_self) hlowered
      obtain ⟨result, hresult, heval⟩ := hbehind (J.call receiver symbol.reference values)
      refine ⟨result, ?_, ?_⟩
      · simp only [chainValue?, found, kind, hvalues]
        exact hresult
      · rw [evalChain, hevals]
        exact heval

/-- A single step is a chain by itself. -/
theorem StepsTo.evalChain_singleton {call : CallStep} {step : JavaExpr} (h : t.StepsTo call step) :
    evalChain J [step] none = step.eval J := by
  cases h with
  | name found kind => rfl
  | invoke found kind lowered =>
    rw [evalChain, eval]
    rfl

theorem eval_chainSteps {calls : List CallStep} {steps : List JavaExpr} {e : JavaExpr}
    (hcalls : t.lowerCalls calls = .ok steps) (h : chainSteps steps = .ok e) :
    steps ≠ [] ∧ e.eval J = evalChain J steps none := by
  have hsteps := lowerCalls_eq_ok_iff.1 hcalls
  unfold chainSteps at h
  split at h
  · cases h
  · next step =>
      cases h
      obtain ⟨call, -, hstep⟩ := exists_left_of_forall₂ hsteps (List.mem_singleton_self _)
      exact ⟨by simp, hstep.evalChain_singleton.symm⟩
  · next hne _ =>
      cases h
      exact ⟨hne, by rw [eval]⟩

/-- A literal denotes itself. -/
theorem sameValue_literal {kind : StatementKind} {value : Option Json} {e : JavaExpr}
    (hoperator : Operator.ofKind? kind = none) (hcall : kind ≠ .call)
    (h : t.lowerLiteral kind value = .ok e) :
    ∃ result, literalValue? t J kind value = some result ∧ e.eval J = some result := by
  cases value with
  | none => cases h
  | some value =>
    cases kind with
    | number =>
      change lowerNumber value = .ok e at h
      unfold lowerNumber at h
      split at h
      · next d hd =>
          cases h
          exact ⟨J.number d, by rw [literalValue?, hd]; rfl, rfl⟩
      · cases h
    | boolean =>
      change lowerTruth value = .ok e at h
      unfold lowerTruth at h
      split at h
      · cases h
        exact ⟨_, rfl, rfl⟩
      · split at h
        · next b hb =>
            cases h
            exact ⟨J.truth b, by rw [literalValue?, hb]; rfl, rfl⟩
        · cases h
      · cases h
    | text =>
      change lowerText value = .ok e at h
      unfold lowerText at h
      split at h
      · cases h
        exact ⟨_, rfl, rfl⟩
      · cases h
        exact ⟨_, rfl, rfl⟩
      · cases h
        exact ⟨_, rfl, rfl⟩
      · cases h
    | object =>
      change t.lowerObject value = .ok e at h
      unfold lowerObject at h
      split at h
      · next typeName =>
          obtain ⟨type, htype, h⟩ := bind_eq_ok.1 h
          cases h
          exact ⟨J.create type [], by rw [literalValue?, htype]; rfl, rfl⟩
      · cases h
    | call => exact absurd rfl hcall
    | _ => cases hoperator

/-- The expression of a statement has the value of the statement. -/
theorem lower_sameValue {s : Statement} {e : JavaExpr} (h : t.lower s = .ok e)
    (J : Primitives α τ) : ∃ value, s.value? t J = some value ∧ e.eval J = some value := by
  induction s using Statement.induction generalizing e with
  | h s ihOperands ihCalls =>
    cases hoperator : Operator.ofKind? s.kind with
    | some operator =>
      obtain ⟨harity, -, es, hes, hcombine⟩ := (lower_operator hoperator).1 h
      obtain ⟨values, hvalues, hevals⟩ := sameValue_all (fun s hs e he => ihOperands s hs he) hes
      rw [(lowerAll_eq_ok_iff.1 hes).length_eq] at harity
      rw [Statement.value?_operator hoperator, hvalues]
      exact JavaExpr.eval_combine harity hevals hcombine
    | none =>
      by_cases hcall : s.kind = .call
      · obtain ⟨steps, hsteps, hchain⟩ := (lower_call hcall).1 h
        obtain ⟨hne, heval⟩ := eval_chainSteps (J := J) hsteps hchain
        rw [Statement.value?_call hcall, heval]
        exact sameValue_chain (fun call hmem s hs e he => ihCalls call hmem s hs he) hsteps
          (Or.inl hne)
      · rw [lower_literal hoperator hcall] at h
        rw [Statement.value?_literal hoperator hcall]
        exact sameValue_literal hoperator hcall h

end SymbolTable

/-! ## A chained comparison -/

/-- Truth values, texts, and everything else as one. -/
inductive Datum where
  | truth (b : Bool)
  | text (s : String)
  | other
deriving DecidableEq

/-- Names that stand for their own texts, and numbers that nothing is known of. -/
def Datum.primitives : Primitives Datum String where
  number _ := .other
  truth := .truth
  text := .text
  written s := s
  create _ _ := .other
  access _ name := .text name
  call _ function _ := .text function
  add
    | .text a, .text b => .text (a ++ b)
    | _, _ => .other
  subtract _ _ := .other
  multiply _ _ := .other
  divide _ _ := .other
  modulo _ _ := .other
  and
    | .truth p, .truth q => .truth (p && q)
    | _, _ => .other
  or
    | .truth p, .truth q => .truth (p || q)
    | _, _ => .other
  not
    | .truth p => .truth (!p)
    | _ => .other
  greater _ _ := false
  less _ _ := false
  greaterOrEqual _ _ := false
  lessOrEqual _ _ := false
  equal a b := decide (a = b)
  textOf
    | .text s => s
    | .truth b => Java.booleanLiteral b
    | .other => ""
  concat a b := a ++ b
  length _ := .other
  and_truth _ _ := rfl
  not_truth _ := rfl
  add_text _ _ := rfl

/-- The table of a project with one static variable. -/
def labelTable : SymbolTable where
  symbols := [⟨{ name := "label", kind := .«variable» }, "Demo.label", some .project⟩]
  blocks := []

/-- Whether a variable, a joined text and a truth value are all the same. -/
def labelTest : Statement :=
  .operation .equals [
    .call [⟨"Demo.label", []⟩],
    .operation .concat [.text "Demo.", .text "label", .text ".label"],
    .boolean true]

/-- The test as two comparisons together. -/
def labelExpr : JavaExpr :=
  let label : JavaExpr := .name "Demo.label.label"
  let joined : JavaExpr := .operation "+"
    [.stringOf (.text "Demo."), .stringOf (.text "label"), .stringOf (.text ".label")]
  .operation "&&" [
    .group (.objectsEqual label joined),
    .group (.objectsEqual joined (.boolean true))]

theorem label_sameValue :
    labelTable.lower labelTest = .ok labelExpr
      ∧ ∃ value, labelTest.value? labelTable Datum.primitives = some value
        ∧ labelExpr.eval Datum.primitives = some value :=
  have hlower : labelTable.lower labelTest = .ok labelExpr := rfl
  ⟨hlower, SymbolTable.lower_sameValue hlower Datum.primitives⟩

/-- The first two are the same and the last two are not. Compared from the left, the truth of the
    first comparison would be the same as the truth value behind it. -/
example : labelExpr.eval Datum.primitives = some (.truth false) := by decide

end Flowchart
