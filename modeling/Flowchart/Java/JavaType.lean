set_option autoImplicit false

/-! # Java types -/

namespace Flowchart

/-- A type as it is written in generated declarations. -/
inductive JavaType where
  | double
  | boolean
  | string
  | void
  /-- A reference type, by its full name. -/
  | class (name : String)
  | array (element : JavaType)
deriving DecidableEq

namespace JavaType

/-- The text of a type. -/
def render : JavaType → String
  | .double => "double"
  | .boolean => "boolean"
  | .string => "String"
  | .void => "void"
  | .class name => name
  | .array element => element.render ++ "[]"

end JavaType

end Flowchart
