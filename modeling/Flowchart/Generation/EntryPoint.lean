import Flowchart.Generation.Options
import Flowchart.Java.JavaClass
import Flowchart.Lowering.Expression

set_option autoImplicit false

/-! # The entry point

The method `main` that calls the entry function with the supplied values. The names of the values
have to be exactly those of the declared parameters, and each value has to fit the type of its
parameter. -/

namespace Flowchart.EntryPoint

/-- The values as they are compared: names in ascending order, repetitions kept. -/
def sortNames (names : List String) : List String := names.mergeSort (fun a b => decide (a ≤ b))

/-- The Java value of a supplied text. Blanks around numbers and truth values do not count. -/
def argument (parameter : Item) (value : String) : Except CompileError JavaExpr :=
  let invalid (fault : ArgumentFault) : Except CompileError JavaExpr :=
    .error (.invalidEntryArgument parameter.name value fault)
  match parameter.typeName with
  | none => .error (.missingType parameter.name)
  | some typeName =>
    if typeName = "NUMBER" then
      match Double.read? (Text.trim value) with
      | some d => .ok (.number d)
      | none => invalid .notNumber
    else if typeName = "BOOLEAN" then
      match readTruth? (Text.trim value) with
      | some b => .ok (.boolean b)
      | none => invalid .notTruth
    else if typeName = "TEXT" then .ok (.text value)
    else invalid (.unsupplied typeName)

/-- The values for the given parameters, in order. -/
def arguments (supplied : Bindings) : List Item → Except CompileError (List JavaExpr)
  | [] => .ok []
  | parameter :: rest => do
    let e ← argument parameter ((supplied.get? parameter.name).getD "")
    return e :: (← arguments supplied rest)

/-- Checks that exactly the declared parameters are supplied. -/
def checkNames (function : Item) (fullName : String) (supplied : Bindings) :
    Except CompileError Unit :=
  let declared := function.parameters.map (·.name)
  if sortNames declared = supplied.keys then .ok ()
  else .error (.entryParameterMismatch fullName declared supplied.keys)

/-- The method `main`, which calls the function with the supplied values in declared order. -/
def mainMethod (function : Item) (fullName : String) (supplied : Bindings) :
    Except CompileError JavaMethod := do
  checkNames function fullName supplied
  let arguments ← arguments supplied function.parameters
  return {
    doc := []
    modifiers := [.publicMember, .staticMember]
    returnType := .void
    name := "main"
    parameters := [{ type := .array .string, name := "args" }]
    body := [.expression (.invoke (fullName ++ "." ++ function.name) arguments)] }

end Flowchart.EntryPoint
