import Flowchart.Json.Value
import Flowchart.Project.Kind

set_option autoImplicit false

/-! # Statements

Expression trees as the editor stores them. Every statement has all four fields, whatever its kind;
which of them count is decided by the kind. -/

namespace Flowchart

mutual

/-- An expression tree. -/
structure Statement where
  kind : StatementKind
  /-- The value of a literal; for an object, the name of its type. -/
  value : Option Json
  /-- The operands of an operator. -/
  operands : List Statement
  /-- The steps of a chain of calls. -/
  calls : List CallStep

/-- One step of a chain of calls. -/
structure CallStep where
  /-- The full name of a variable, parameter or function. -/
  target : String
  arguments : List Statement

end

namespace Statement

/-- The literal of a kind. -/
def literal (kind : StatementKind) (value : Json) : Statement := ⟨kind, some value, [], []⟩

/-- A number. -/
def number (d : Double) : Statement := literal .number (Json.ofDouble d)

/-- A truth value. -/
def boolean (b : Bool) : Statement := literal .boolean (.bool b)

/-- A text. -/
def text (s : String) : Statement := literal .text (.string s)

/-- A new object of the named type. -/
def object (typeName : String) : Statement := literal .object (.string typeName)

/-- An operator applied to operands. -/
def operation (kind : StatementKind) (operands : List Statement) : Statement :=
  ⟨kind, none, operands, []⟩

/-- A chain of calls. -/
def call (steps : List CallStep) : Statement := ⟨.call, none, [], steps⟩

/-- The type the value is known to have. -/
def valueType? (s : Statement) : Option ValueType := s.kind.valueType?

end Statement

end Flowchart
