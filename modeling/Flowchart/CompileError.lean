import Flowchart.Java.JavaType
import Flowchart.Operator
import Flowchart.Project.Block

set_option autoImplicit false

/-! # Compile errors

Everything that can be wrong with a project, each cause with what is needed to describe it.
`CompileError.message` is the description, and `CompileError.rootCause` the error without the
contexts it happened in. -/

namespace Flowchart

/-- What is wrong with the value of a literal. -/
inductive LiteralFault where
  | missing
  | notNumber (value : Json)
  /-- The value as it is shown: a string as it is, anything else as compact JSON. -/
  | notTruth (shown : String)
  | notText (value : Json)
  | notTypeName

/-- The description of a fault. -/
def LiteralFault.message : LiteralFault → String
  | .missing => "missing value"
  | .notNumber value => "'" ++ value.compact ++ "' is not a number"
  | .notTruth shown => "'" ++ shown ++ "' is not true or false"
  | .notText value => "'" ++ value.compact ++ "' is not a text value"
  | .notTypeName => "object literals need a type name"

/-- Why an item cannot be where it is or be used as it is. -/
inductive ItemFault where
  | noFlowGraph (kind : ItemKind)
  | rootNotProject (kind : ItemKind)
  | projectWithoutId
  | parameterOutsideFunction
  | nestedProject
  | notADeclaration (kind : ItemKind)
  | notInClass (kind : ItemKind)
  | notInFunction (kind : ItemKind)
  | entryOutsidePackage
deriving DecidableEq

/-- The description of a fault. -/
def ItemFault.message : ItemFault → String
  | .noFlowGraph kind => s!"a {kind.name} has no flow graph"
  | .rootNotProject kind => s!"the root item must be a PROJECT, not a {kind.name}"
  | .projectWithoutId => "projects need an id"
  | .parameterOutsideFunction => "parameters can only be declared inside functions"
  | .nestedProject => "projects cannot be nested"
  | .notADeclaration kind => s!"a {kind.name} is not a declaration"
  | .notInClass kind => s!"a CLASS cannot contain a {kind.name}"
  | .notInFunction kind => s!"a FUNCTION cannot contain a {kind.name}"
  | .entryOutsidePackage => "the entry function must be declared in a package"

/-- Why a value cannot be passed to a parameter of the entry function. -/
inductive ArgumentFault where
  | notNumber
  | notTruth
  | unsupplied (typeName : String)
deriving DecidableEq

/-- The description of a fault. -/
def ArgumentFault.message : ArgumentFault → String
  | .notNumber => "expected a number"
  | .notTruth => "expected true or false"
  | .unsupplied typeName =>
    s!"parameters of type '{typeName}' cannot be supplied on the command line"

/-- Why a project, or a part of it, cannot be compiled. -/
inductive CompileError where
  | missingStartBlock (function : String)
  | multipleStartBlocks (function : String) (count : Nat)
  | missingSuccessor (block : Uuid) (kind : BlockKind)
  | ambiguousSuccessor (block : Uuid) (kind : BlockKind) (count : Nat)
  | blockNotFound (missing source : Uuid)
  | decisionWithoutBranches (block : Uuid)
  | incompleteDecision (block : Uuid) (function : String) (returnType : JavaType)
  | missingStatement (block : Uuid) (kind : BlockKind)
  | missingVariable (block : Uuid) (kind : BlockKind)
  | cycleDetected (block : Uuid)
  /-- An error in the statement of a block. -/
  | statement (block : Uuid) (source : CompileError)
  | unresolvedName (name : String)
  | unresolvedType (name : String)
  | duplicateName (name : String)
  | duplicateBlock (block : Uuid)
  | notCallable (name : String) (kind : ItemKind)
  | notAssignable (name : String) (kind : ItemKind)
  | emptyCall
  | arity (operator : Operator) (found : Nat)
  | operandType (operator : Operator) (position : Nat) (expected found : ValueType)
  | invalidLiteral (kind : StatementKind) (fault : LiteralFault)
  | unsupportedInputType (block : Uuid) (typeName : String)
  | missingType (name : String)
  | noDefaultValue (type : JavaType)
  | unexpectedReturnValue (block : Uuid) (function : String)
  | missingReturnValue (block : Uuid) (function : String) (returnType : JavaType)
  | invalidItem (name : String) (fault : ItemFault)
  | invalidIdentifier (name : String)
  | reservedName (name : String)
  | shadowsProject (name project : String)
  | entryFunctionNotFound (name : String)
  | entryParameterMismatch (function : String) (expected actual : List String)
  | invalidEntryArgument (parameter value : String) (fault : ArgumentFault)
  /-- An error in a declaration. -/
  | declaration (item : String) (source : CompileError)

namespace CompileError

/-- The description of an error. -/
def message : CompileError → String
  | .missingStartBlock function => s!"Function '{function}' has no START block"
  | .multipleStartBlocks function count =>
    s!"Function '{function}' has {count} START blocks, but exactly one is allowed"
  | .missingSuccessor block kind => s!"{kind.name} block '{block.text}' has no next block"
  | .ambiguousSuccessor block kind count =>
    s!"{kind.name} block '{block.text}' has {count} outgoing connections, "
      ++ "but exactly one is allowed"
  | .blockNotFound missing source =>
    s!"Block '{missing.text}' not found, which is required by a connection "
      ++ s!"from block '{source.text}'"
  | .decisionWithoutBranches block =>
    s!"DECISION block '{block.text}' has neither a true nor a false branch"
  | .incompleteDecision block function returnType =>
    s!"DECISION block '{block.text}' in function '{function}' has only one branch, "
      ++ s!"but a function returning {returnType.render} must end every path in a value"
  | .missingStatement block kind => s!"{kind.name} block '{block.text}' has no statement"
  | .missingVariable block kind => s!"{kind.name} block '{block.text}' has no target variable"
  | .cycleDetected block =>
    s!"Block '{block.text}' is reachable from itself, loops cannot be compiled"
  | .statement block source => s!"Invalid statement in block '{block.text}': " ++ source.message
  | .unresolvedName name => s!"Name '{name}' does not resolve to any item"
  | .unresolvedType name =>
    s!"Type '{name}' is neither NUMBER, BOOLEAN, TEXT nor a declared class"
  | .duplicateName name => s!"Name '{name}' is declared more than once"
  | .duplicateBlock block => s!"Block id '{block.text}' is used more than once"
  | .notCallable name kind => s!"'{name}' is a {kind.name} and cannot be called"
  | .notAssignable name kind => s!"'{name}' is a {kind.name} and cannot be assigned to"
  | .emptyCall => "CALL statement has no call steps"
  | .arity operator found =>
    s!"Operator '{operator.name}' requires {operator.arity.describe} operands, "
      ++ s!"but received {found}"
  | .operandType operator position expected found =>
    s!"Operator '{operator.name}' expects {expected.name} operands, "
      ++ s!"but operand {position} is {found.name}"
  | .invalidLiteral kind fault => s!"{kind.name} literal is invalid: {fault.message}"
  | .unsupportedInputType block typeName =>
    s!"INPUT block '{block.text}' reads into a variable of type '{typeName}', "
      ++ "only NUMBER, BOOLEAN and TEXT can be read"
  | .missingType name => s!"Item '{name}' has no declared type"
  | .noDefaultValue type => s!"Type '{type.render}' has no default value"
  | .unexpectedReturnValue block function =>
    s!"END block '{block.text}' returns a value from VOID function '{function}'"
  | .missingReturnValue block function returnType =>
    s!"END block '{block.text}' returns no value, but function '{function}' "
      ++ s!"returns {returnType.render}"
  | .invalidItem name fault => s!"Item '{name}' is invalid: {fault.message}"
  | .invalidIdentifier name => s!"'{name}' is not a valid Java identifier"
  | .reservedName name => s!"'{name}' is reserved by the generated Java code"
  | .shadowsProject name project =>
    s!"'{name}' would hide project '{project}' in qualified references"
  | .entryFunctionNotFound name => s!"Entry function '{name}' not found"
  | .entryParameterMismatch function expected actual =>
    s!"Entry function '{function}' expects parameters (" ++ String.intercalate ", " expected
      ++ "), but received (" ++ String.intercalate ", " actual ++ ")"
  | .invalidEntryArgument parameter value fault =>
    s!"Value '{value}' for entry parameter '{parameter}' is invalid: {fault.message}"
  | .declaration item source => s!"Failed to compile '{item}': " ++ source.message

/-- The error itself, without the block or declaration it happened in. -/
def rootCause : CompileError → CompileError
  | .statement _ source => source.rootCause
  | .declaration _ source => source.rootCause
  | e => e

/-- The error followed by what it wraps, down to the root cause. -/
def chain : CompileError → List CompileError
  | .statement block source => .statement block source :: source.chain
  | .declaration item source => .declaration item source :: source.chain
  | e => [e]

end CompileError

end Flowchart
