import Flowchart.Project.Kind

set_option autoImplicit false

/-! # Operators

The operators that statements can apply: how many operands each takes, which type it demands of
them, and in which form their values are combined. -/

namespace Flowchart

/-- An operator. -/
inductive Operator where
  | add
  | subtract
  | multiply
  | divide
  | modulo
  | and
  | or
  | not
  | concat
  | length
  | greaterThan
  | lessThan
  | greaterOrEqualThan
  | lessOrEqualThan
  | equals
  | notEquals
deriving DecidableEq

/-- How the operands of an operator are combined. -/
inductive OperatorForm where
  /-- The operands with a token between them. -/
  | joined (token : String)
  /-- The texts of the operands, one after the other. -/
  | concat
  /-- Negation of the only operand. -/
  | not
  /-- Length of the only operand. -/
  | length
  /-- Each operand compared with the next, all comparisons together. -/
  | comparison (token : String)
  /-- Each operand tested for equality with the next, all tests together. -/
  | equality (negated : Bool)
deriving DecidableEq

/-- How many operands an operator takes. -/
structure Arity where
  least : Nat
  greatest : Option Nat
deriving DecidableEq

namespace Arity

/-- At least `n`. -/
def atLeast (n : Nat) : Arity := ⟨n, none⟩

/-- Exactly `n`. -/
def exactly (n : Nat) : Arity := ⟨n, some n⟩

/-- Whether a number of operands is allowed. -/
def accepts (a : Arity) (count : Nat) : Bool :=
  decide (a.least ≤ count) && a.greatest.all (fun greatest => decide (count ≤ greatest))

/-- The arity in words. -/
def describe (a : Arity) : String :=
  match a.greatest with
  | some n => if n = a.least then s!"exactly {n}" else s!"{a.least} to {n}"
  | none => s!"at least {a.least}"

end Arity

namespace Operator

/-- The operator that a kind of statement applies. -/
def ofKind? : StatementKind → Option Operator
  | .add => some .add
  | .subtract => some .subtract
  | .multiply => some .multiply
  | .divide => some .divide
  | .modulo => some .modulo
  | .and => some .and
  | .or => some .or
  | .not => some .not
  | .concat => some .concat
  | .length => some .length
  | .greaterThan => some .greaterThan
  | .lessThan => some .lessThan
  | .greaterOrEqualThan => some .greaterOrEqualThan
  | .lessOrEqualThan => some .lessOrEqualThan
  | .equals => some .equals
  | .notEquals => some .notEquals
  | .number | .boolean | .text | .object | .call => none

/-- The kind of statement that applies an operator. -/
def kind : Operator → StatementKind
  | .add => .add
  | .subtract => .subtract
  | .multiply => .multiply
  | .divide => .divide
  | .modulo => .modulo
  | .and => .and
  | .or => .or
  | .not => .not
  | .concat => .concat
  | .length => .length
  | .greaterThan => .greaterThan
  | .lessThan => .lessThan
  | .greaterOrEqualThan => .greaterOrEqualThan
  | .lessOrEqualThan => .lessOrEqualThan
  | .equals => .equals
  | .notEquals => .notEquals

/-- The written name. -/
def name (o : Operator) : String := o.kind.name

/-- How the operands are combined. -/
def form : Operator → OperatorForm
  | .add => .joined "+"
  | .subtract => .joined "-"
  | .multiply => .joined "*"
  | .divide => .joined "/"
  | .modulo => .joined "%"
  | .and => .joined "&&"
  | .or => .joined "||"
  | .not => .not
  | .concat => .concat
  | .length => .length
  | .greaterThan => .comparison ">"
  | .lessThan => .comparison "<"
  | .greaterOrEqualThan => .comparison ">="
  | .lessOrEqualThan => .comparison "<="
  | .equals => .equality false
  | .notEquals => .equality true

/-- How many operands are taken: one for negation and length, two or more for all others. -/
def arity : Operator → Arity
  | .not | .length => .exactly 1
  | _ => .atLeast 2

/-- The type every operand must have, if the operator demands one. -/
def operandType? : Operator → Option ValueType
  | .add | .subtract | .multiply | .divide | .modulo => some .number
  | .and | .or | .not => some .boolean
  | .length => some .text
  | .greaterThan | .lessThan | .greaterOrEqualThan | .lessOrEqualThan => some .number
  | .concat | .equals | .notEquals => none

theorem ofKind?_kind (o : Operator) : ofKind? o.kind = some o := by cases o <;> rfl

theorem ofKind?_eq_some_iff (k : StatementKind) (o : Operator) :
    ofKind? k = some o ↔ o.kind = k := by
  cases o <;> cases k <;> decide

end Operator

end Flowchart
