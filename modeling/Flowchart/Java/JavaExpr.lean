import Flowchart.Java.JavaType
import Flowchart.Java.Literal

set_option autoImplicit false

/-! # Java expressions

Every compound expression is written in its own parentheses, so what it means never depends on
operator precedence. -/

namespace Flowchart

/-- A Java expression. -/
inductive JavaExpr where
  | number (d : Double)
  | boolean (b : Bool)
  | text (s : String)
  | new (type : JavaType) (arguments : List JavaExpr)
  /-- A plain or dotted name. -/
  | name (text : String)
  | invoke (function : String) (arguments : List JavaExpr)
  /-- Steps joined by points. -/
  | chain (steps : List JavaExpr)
  /-- Operands with an operator between them. -/
  | operation (operator : String) (operands : List JavaExpr)
  | not (operand : JavaExpr)
  /-- The length of a string, as a `double`. -/
  | length (operand : JavaExpr)
  /-- The text of any value. -/
  | stringOf (operand : JavaExpr)
  /-- Equality of any two values. -/
  | objectsEqual (left right : JavaExpr)
  | group (operand : JavaExpr)

namespace JavaExpr

mutual

/-- The text of an expression. -/
def render : JavaExpr → String
  | .number d => Java.numberLiteral d
  | .boolean b => Java.booleanLiteral b
  | .text s => Java.stringLiteral s
  | .new type arguments =>
    "new " ++ type.render ++ "(" ++ String.intercalate ", " (renderAll arguments) ++ ")"
  | .name n => n
  | .invoke function arguments =>
    function ++ "(" ++ String.intercalate ", " (renderAll arguments) ++ ")"
  | .chain steps => String.intercalate "." (renderAll steps)
  | .operation operator operands =>
    "(" ++ String.intercalate (" " ++ operator ++ " ") (renderAll operands) ++ ")"
  | .not operand => "(!" ++ operand.render ++ ")"
  | .length operand => "((double) " ++ operand.render ++ ".length())"
  | .stringOf operand => "String.valueOf(" ++ operand.render ++ ")"
  | .objectsEqual left right =>
    "java.util.Objects.equals(" ++ left.render ++ ", " ++ right.render ++ ")"
  | .group operand => "(" ++ operand.render ++ ")"

/-- The texts of several expressions. -/
def renderAll : List JavaExpr → List String
  | [] => []
  | e :: rest => e.render :: renderAll rest

end

end JavaExpr

end Flowchart
