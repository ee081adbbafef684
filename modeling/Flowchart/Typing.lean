import Flowchart.Java.JavaExpr
import Flowchart.SymbolTable

set_option autoImplicit false

/-! # Types of items

The Java types that the type names of a project stand for, and what depends on the type alone: the
value a variable starts with and the way it is read from input. -/

namespace Flowchart

namespace SymbolTable

/-- The type of a value with the given type name: one of the three basic types, or a class. -/
def resolveType (t : SymbolTable) (typeName : String) : Except CompileError JavaType :=
  if typeName = "NUMBER" then .ok .double
  else if typeName = "BOOLEAN" then .ok .boolean
  else if typeName = "TEXT" then .ok .string
  else
    match t.find? typeName with
    | some s =>
      if s.item.kind = .classItem then .ok (.class s.fullName)
      else .error (.unresolvedType typeName)
    | none => .error (.unresolvedType typeName)

/-- The type a function returns, which may be nothing. -/
def resolveReturnType (t : SymbolTable) (typeName : String) : Except CompileError JavaType :=
  if typeName = "VOID" then .ok .void else t.resolveType typeName

/-- The declared type of a variable or parameter. -/
def resolveTypeOf (t : SymbolTable) (s : Symbol) : Except CompileError JavaType :=
  match s.item.typeName with
  | some typeName => t.resolveType typeName
  | none => .error (.missingType s.fullName)

/-- The declared return type of a function. -/
def resolveReturnTypeOf (t : SymbolTable) (s : Symbol) : Except CompileError JavaType :=
  match s.item.returnType with
  | some typeName => t.resolveReturnType typeName
  | none => .error (.missingType s.fullName)

end SymbolTable

namespace JavaType

/-- The value that fields and locals of a type start with. -/
def defaultValue : JavaType → Except CompileError JavaExpr
  | .double => .ok (.number Double.zero)
  | .boolean => .ok (.boolean false)
  | .string => .ok (.text "")
  | .class name => .ok (.new (.class name) [])
  | .void => .error (.noDefaultValue .void)
  | .array element => .error (.noDefaultValue (.array element))

/-- The method of the scanner that reads a value of a type. -/
def inputMethod? : JavaType → Option String
  | .double => some "nextDouble"
  | .boolean => some "nextBoolean"
  | .string => some "next"
  | .void | .class _ | .array _ => none

end JavaType

end Flowchart
