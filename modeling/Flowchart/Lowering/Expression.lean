import Flowchart.Typing

set_option autoImplicit false

/-! # From statements to Java expressions

A literal needs a fitting value, an operator the right number of operands of the right types, and a
call at least one step, each naming a variable, a parameter or a function. Of several faults the
first in reading order is reported; the number and the types of operands come before what the
operands contain. -/

namespace Flowchart

/-! ## Literals -/

/-- A number, or a text that reads as one once the blanks around it are gone. -/
def numberValue? : Json → Option Double
  | .number n => some n.toDouble
  | .string s => Double.read? (Text.trim s)
  | _ => none

/-- One of the words `true` and `false`. -/
def readTruth? (s : String) : Option Bool :=
  if s = "true" then some true else if s = "false" then some false else none

namespace SymbolTable

/-- The value of a number literal. -/
def lowerNumber (value : Json) : Except CompileError JavaExpr :=
  match numberValue? value with
  | some d => .ok (.number d)
  | none => .error (.invalidLiteral .number (.notNumber value))

/-- The value of a truth literal, or the text of one. -/
def lowerTruth (value : Json) : Except CompileError JavaExpr :=
  match value with
  | .bool b => .ok (.boolean b)
  | .string s =>
    match readTruth? s with
    | some b => .ok (.boolean b)
    | none => .error (.invalidLiteral .boolean (.notTruth s))
  | value => .error (.invalidLiteral .boolean (.notTruth value.compact))

/-- The value of a text literal; numbers and truth values are taken as their texts. -/
def lowerText (value : Json) : Except CompileError JavaExpr :=
  match value with
  | .string s => .ok (.text s)
  | .number n => .ok (.text (Json.number n).compact)
  | .bool b => .ok (.text (Json.bool b).compact)
  | value => .error (.invalidLiteral .text (.notText value))

/-- The new object of an object literal. -/
def lowerObject (t : SymbolTable) (value : Json) : Except CompileError JavaExpr :=
  match value with
  | .string typeName => do
    let type ← t.resolveType typeName
    return .new type []
  | _ => .error (.invalidLiteral .object .notTypeName)

/-- The expression of a literal. -/
def lowerLiteral (t : SymbolTable) (kind : StatementKind) (value : Option Json) :
    Except CompileError JavaExpr :=
  match value with
  | none => .error (.invalidLiteral kind .missing)
  | some value =>
    match kind with
    | .number => lowerNumber value
    | .boolean => lowerTruth value
    | .text => lowerText value
    | _ => t.lowerObject value

/-! ## Operators -/

/-- The first operand, counted from `position`, whose known type is not the expected one. -/
def firstMistyped (expected : ValueType) (position : Nat) :
    List Statement → Option (Nat × ValueType)
  | [] => none
  | s :: rest =>
    match s.valueType? with
    | some found =>
      if found = expected then firstMistyped expected (position + 1) rest
      else some (position, found)
    | none => firstMistyped expected (position + 1) rest

/-- Checks the number and the types of operands. -/
def checkOperands (operator : Operator) (operands : List Statement) : Except CompileError Unit :=
  if operator.arity.accepts operands.length then
    match operator.operandType? with
    | none => .ok ()
    | some expected =>
      match firstMistyped expected 0 operands with
      | some (position, found) => .error (.operandType operator position expected found)
      | none => .ok ()
  else .error (.arity operator operands.length)

/-- Each operand compared with the next one. -/
def consecutive (compare : JavaExpr → JavaExpr → JavaExpr) : List JavaExpr → List JavaExpr
  | a :: b :: rest => compare a b :: consecutive compare (b :: rest)
  | _ => []

/-- All comparisons together: a single one stands for itself. -/
def conjunction : List JavaExpr → JavaExpr
  | [comparison] => comparison
  | comparisons => .operation "&&" comparisons

/-- The test whether two values are equal, or whether they differ. -/
def equalityTest (negated : Bool) (a b : JavaExpr) : JavaExpr :=
  if negated then .not (.objectsEqual a b) else .group (.objectsEqual a b)

/-- Combines the operands of an operator. -/
def combine (operator : Operator) (operands : List JavaExpr) : Except CompileError JavaExpr :=
  match operator.form with
  | .joined token => .ok (.operation token operands)
  | .concat => .ok (.operation "+" (operands.map .stringOf))
  | .not =>
    match operands with
    | [operand] => .ok (.not operand)
    | operands => .error (.arity operator operands.length)
  | .length =>
    match operands with
    | [operand] => .ok (.length operand)
    | operands => .error (.arity operator operands.length)
  | .comparison token =>
    .ok (conjunction (consecutive (fun a b => .operation token [a, b]) operands))
  | .equality negated => .ok (conjunction (consecutive (equalityTest negated) operands))

/-! ## Statements -/

/-- The expression of a chain of steps. -/
def chainSteps : List JavaExpr → Except CompileError JavaExpr
  | [] => .error .emptyCall
  | [step] => .ok step
  | steps => .ok (.chain steps)

mutual

/-- The expression of a statement. -/
def lower (t : SymbolTable) : Statement → Except CompileError JavaExpr
  | { kind, value, operands, calls } =>
    match Operator.ofKind? kind with
    | some operator => do
      checkOperands operator operands
      combine operator (← lowerAll t operands)
    | none =>
      if kind = .call then do chainSteps (← lowerCalls t calls)
      else t.lowerLiteral kind value

/-- The expressions of statements, in order. -/
def lowerAll (t : SymbolTable) : List Statement → Except CompileError (List JavaExpr)
  | [] => .ok []
  | s :: rest => do
    let e ← lower t s
    return e :: (← lowerAll t rest)

/-- The expressions of call steps, in order. Only the arguments of functions are looked at. -/
def lowerCalls (t : SymbolTable) : List CallStep → Except CompileError (List JavaExpr)
  | [] => .ok []
  | { target, arguments } :: rest => do
    let symbol ← t.resolve target
    let step ←
      match symbol.item.kind with
      | .variable | .parameter => pure (.name symbol.reference)
      | .function => do pure (.invoke symbol.reference (← lowerAll t arguments))
      | kind => .error (.notCallable target kind)
    return step :: (← lowerCalls t rest)

end

end SymbolTable

end Flowchart
