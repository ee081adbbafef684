set_option autoImplicit false

/-! # Kinds

The closed vocabularies of a project: kinds of items, blocks and statements, the sides of a block,
and the types a statement's value can be known to have. Each has one written name per member, and
some statement kinds may be spelt without their underscores. -/

namespace Flowchart

/-! ## Items -/

/-- The kind of a node in the declaration tree. -/
inductive ItemKind where
  | project
  | package
  | classItem
  | function
  | variable
  | parameter
deriving DecidableEq

namespace ItemKind

/-- All kinds of items. -/
def all : List ItemKind := [.project, .package, .classItem, .function, .variable, .parameter]

/-- The written name. -/
def name : ItemKind → String
  | .project => "PROJECT"
  | .package => "PACKAGE"
  | .classItem => "CLASS"
  | .function => "FUNCTION"
  | .variable => "VARIABLE"
  | .parameter => "PARAMETER"

/-- The kind with a written name. -/
def ofName? (s : String) : Option ItemKind := all.find? (·.name == s)

/-- Projects and packages: what they contain is declared for all to see. -/
def isNamespace : ItemKind → Bool
  | .project | .package => true
  | _ => false

/-- Variables and parameters: what can be assigned to. -/
def isAssignable : ItemKind → Bool
  | .variable | .parameter => true
  | _ => false

end ItemKind

/-! ## Blocks -/

/-- The kind of a block in a flow graph. -/
inductive BlockKind where
  | start
  | stop
  | decision
  | call
  | assignment
  | input
  | output
deriving DecidableEq

namespace BlockKind

/-- All kinds of blocks. -/
def all : List BlockKind := [.start, .stop, .decision, .call, .assignment, .input, .output]

/-- The written name. -/
def name : BlockKind → String
  | .start => "START"
  | .stop => "END"
  | .decision => "DECISION"
  | .call => "CALL"
  | .assignment => "ASSIGNMENT"
  | .input => "INPUT"
  | .output => "OUTPUT"

/-- The kind with a written name. -/
def ofName? (s : String) : Option BlockKind := all.find? (·.name == s)

end BlockKind

/-- The side of a block at which a connection leaves or arrives. A decision goes on at the right
    when its condition is true, and at the left when it is false. -/
inductive Side where
  | top
  | bottom
  | left
  | right
deriving DecidableEq

namespace Side

/-- The sides in the order in which connections are listed. -/
def all : List Side := [.top, .bottom, .left, .right]

/-- The written name. -/
def name : Side → String
  | .top => "TOP"
  | .bottom => "BOTTOM"
  | .left => "LEFT"
  | .right => "RIGHT"

/-- The side with a written name. -/
def ofName? (s : String) : Option Side := all.find? (·.name == s)

end Side

/-! ## Statements -/

/-- The type a statement's value is known to have. -/
inductive ValueType where
  | number
  | boolean
  | text
  | object
deriving DecidableEq

namespace ValueType

/-- The written name. -/
def name : ValueType → String
  | .number => "NUMBER"
  | .boolean => "BOOLEAN"
  | .text => "TEXT"
  | .object => "OBJECT"

end ValueType

/-- What a statement is: a literal, an operator over operands, or a chain of calls. -/
inductive StatementKind where
  | number
  | boolean
  | text
  | object
  | add
  | and
  | concat
  | divide
  | equals
  | greaterOrEqualThan
  | greaterThan
  | length
  | lessOrEqualThan
  | lessThan
  | modulo
  | multiply
  | notEquals
  | not
  | or
  | subtract
  | call
deriving DecidableEq

namespace StatementKind

/-- All kinds of statements. -/
def all : List StatementKind :=
  [.number, .boolean, .text, .object, .add, .and, .concat, .divide, .equals, .greaterOrEqualThan,
    .greaterThan, .length, .lessOrEqualThan, .lessThan, .modulo, .multiply, .notEquals, .not, .or,
    .subtract, .call]

/-- The written name. -/
def name : StatementKind → String
  | .number => "NUMBER"
  | .boolean => "BOOLEAN"
  | .text => "TEXT"
  | .object => "OBJECT"
  | .add => "ADD"
  | .and => "AND"
  | .concat => "CONCAT"
  | .divide => "DIVIDE"
  | .equals => "EQUALS"
  | .greaterOrEqualThan => "GREATER_OR_EQUAL_THAN"
  | .greaterThan => "GREATER_THAN"
  | .length => "LENGTH"
  | .lessOrEqualThan => "LESS_OR_EQUAL_THAN"
  | .lessThan => "LESS_THAN"
  | .modulo => "MODULO"
  | .multiply => "MULTIPLY"
  | .notEquals => "NOT_EQUALS"
  | .not => "NOT"
  | .or => "OR"
  | .subtract => "SUBTRACT"
  | .call => "CALL"

/-- The second spelling that some kinds have in project files. -/
def alias? : StatementKind → Option String
  | .greaterOrEqualThan => some "GREATEROREQUALTHAN"
  | .greaterThan => some "GREATERTHAN"
  | .lessOrEqualThan => some "LESSOREQUALTHAN"
  | .lessThan => some "LESSTHAN"
  | .notEquals => some "NOTEQUALS"
  | _ => none

/-- The kind with a written name, in either spelling. -/
def ofName? (s : String) : Option StatementKind :=
  all.find? fun k => k.name == s || k.alias? == some s

/-- Whether statements of this kind carry a literal value. -/
def isLiteral : StatementKind → Bool
  | .number | .boolean | .text | .object => true
  | _ => false

/-- The type of the values of this kind; the type of a call depends on what it names. -/
def valueType? : StatementKind → Option ValueType
  | .number | .add | .subtract | .multiply | .divide | .modulo | .length => some .number
  | .boolean | .and | .or | .not | .equals | .notEquals | .greaterThan | .lessThan
  | .greaterOrEqualThan | .lessOrEqualThan => some .boolean
  | .text | .concat => some .text
  | .object => some .object
  | .call => none

end StatementKind

/-! ## Names determine kinds -/

theorem ItemKind.ofName?_name (k : ItemKind) : ItemKind.ofName? k.name = some k := by
  cases k <;> decide

theorem BlockKind.ofName?_name (k : BlockKind) : BlockKind.ofName? k.name = some k := by
  cases k <;> decide

theorem Side.ofName?_name (s : Side) : Side.ofName? s.name = some s := by
  cases s <;> decide

theorem StatementKind.ofName?_name (k : StatementKind) : StatementKind.ofName? k.name = some k := by
  cases k <;> decide

end Flowchart
