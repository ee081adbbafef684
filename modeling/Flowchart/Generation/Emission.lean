import Flowchart.Generation.Comments
import Flowchart.Generation.EntryPoint
import Flowchart.Generation.Layout
import Flowchart.Lowering.Body

set_option autoImplicit false

/-! # Emission

From declaration units to source files. A class becomes a Java class with its fields and methods; a
function or variable outside of classes becomes a class of its own name with one static member.
Names inside a declaration are checked as they come up. -/

namespace Flowchart

/-- What all units of one pass are emitted with. -/
structure Emitter where
  table : SymbolTable
  options : Options

namespace Emitter

variable (e : Emitter)

/-- The documentation of an item. -/
def doc (item : Item) : List String :=
  if e.options.includeComments then Comments.lines item.comments else []

/-- The scanner that the input blocks of a class read from. -/
def scannerField : JavaField where
  doc := []
  modifiers := [.privateMember, .staticMember, .finalMember]
  type := .class "java.util.Scanner"
  name := Java.inputScanner
  initializer := .new (.class "java.util.Scanner") [.name "System.in"]

/-- The scanner, if it is needed. -/
def scannerFields (readsInput : Bool) : List JavaField :=
  if readsInput then [scannerField] else []

/-! ## Members -/

/-- The type of the variable or parameter with a full name. -/
def typeOf (fullName : String) : Except CompileError JavaType := do
  e.table.resolveTypeOf (← e.table.resolve fullName)

/-- A field for a variable. -/
def field (item : Item) (fullName : String) (modifiers : List JavaModifier) :
    Except CompileError JavaField := do
  let type ← e.typeOf fullName
  let initializer ← type.defaultValue
  return { doc := e.doc item, modifiers, type, name := item.name, initializer }

/-- The documentation line of a parameter, if it has one. -/
def parameterDoc (item : Item) : List String :=
  if e.options.includeComments && !Text.isAllBlank item.comments then
    ["@param " ++ item.name ++ " " ++ String.intercalate " " (Comments.lines item.comments)]
  else []

/-- The declarations at the head of a method. -/
structure Signature where
  parameters : List JavaParameter := []
  parameterDocs : List String := []
  locals : List JavaStmt := []

/-- The parameters of a function and its locals with their first values. -/
def signature (fullName : String) : List Item → Except CompileError Signature
  | [] => .ok {}
  | child :: rest => do
    child.checkName (FullName.project fullName)
    let childName := FullName.join fullName child.name
    match child.kind with
    | .parameter =>
      let type ← e.typeOf childName
      let others ← signature fullName rest
      return { others with
        parameters := { type, name := child.name } :: others.parameters
        parameterDocs := e.parameterDoc child ++ others.parameterDocs }
    | .variable =>
      let type ← e.typeOf childName
      let initializer ← type.defaultValue
      let others ← signature fullName rest
      return { others with
        locals := .localVariable type child.name initializer :: others.locals }
    | kind => .error (.invalidItem childName (.notInFunction kind))

/-- The modifiers of a method. -/
def methodModifiers (isStatic : Bool) : List JavaModifier :=
  if isStatic then [.publicMember, .staticMember] else [.publicMember]

/-- The method of a function, and whether it reads input. -/
def method (function : Item) (fullName : String) (isStatic : Bool) :
    Except CompileError (JavaMethod × Bool) := do
  match function.returnType with
  | none => .error (.missingType fullName)
  | some typeName =>
    let returnType ← e.table.resolveReturnType typeName
    let signature ← e.signature fullName function.children
    let body ← e.table.functionBody fullName
    let method : JavaMethod :=
      { doc := e.doc function ++ signature.parameterDocs
        modifiers := methodModifiers isStatic
        returnType
        name := function.name
        parameters := signature.parameters
        body := signature.locals ++ body.statements }
    return (method, body.readsInput)

/-! ## Classes -/

/-- The members of a class, and whether one of its methods reads input. -/
structure Members where
  fields : List JavaField := []
  methods : List JavaMethod := []
  readsInput : Bool := false

/-- The members for the items inside a class. -/
def members (fullName : String) : List Item → Except CompileError Members
  | [] => .ok {}
  | child :: rest => do
    child.checkName (FullName.project fullName)
    let childName := FullName.join fullName child.name
    match child.kind with
    | .variable =>
      let field ← e.field child childName [.publicMember]
      let others ← members fullName rest
      return { others with fields := field :: others.fields }
    | .function =>
      let (method, readsInput) ← e.method child childName false
      let others ← members fullName rest
      return { others with
        methods := method :: others.methods
        readsInput := readsInput || others.readsInput }
    | kind => .error (.invalidItem childName (.notInClass kind))

/-- The class of a class item. -/
def classOf (unit : DeclarationUnit) : Except CompileError JavaClass := do
  let members ← e.members unit.fullName unit.item.children
  return {
    doc := e.doc unit.item
    name := unit.item.name
    fields := scannerFields members.readsInput ++ members.fields
    methods := members.methods }

/-- The class around a static variable. -/
def variableClass (unit : DeclarationUnit) : Except CompileError JavaClass := do
  let field ← e.field unit.item unit.fullName [.publicMember, .staticMember]
  return { doc := [], name := unit.item.name, fields := [field], methods := [] }

/-- The method `main`, if the function is the entry function. -/
def entryMethods (unit : DeclarationUnit) : Except CompileError (List JavaMethod) :=
  if e.options.entryFunction = some unit.fullName then do
    return [← EntryPoint.mainMethod unit.item unit.fullName e.options.parameters]
  else .ok []

/-- The class around a static function. -/
def functionClass (unit : DeclarationUnit) : Except CompileError JavaClass := do
  let (method, readsInput) ← e.method unit.item unit.fullName true
  let entry ← e.entryMethods unit
  return {
    doc := []
    name := unit.item.name
    fields := scannerFields readsInput
    methods := method :: entry }

/-- The public class of a unit. -/
def publicClass (unit : DeclarationUnit) : Except CompileError JavaClass :=
  match unit.item.kind with
  | .classItem => e.classOf unit
  | .function => e.functionClass unit
  | .variable => e.variableClass unit
  | kind => .error (.invalidItem unit.fullName (.notADeclaration kind))

/-- The source file of a unit. -/
def emit (unit : DeclarationUnit) : Except CompileError GeneratedFile := do
  let publicClass ← e.publicClass unit
  let file : JavaFile := { package := unit.package, publicClass }
  return {
    path := unit.directory.child (unit.item.name ++ ".java")
    contents := file.render }

end Emitter

end Flowchart
