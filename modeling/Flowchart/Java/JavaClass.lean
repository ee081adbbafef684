import Flowchart.Java.JavaStmt

set_option autoImplicit false

/-! # Java classes and source files

A source file declares its package and one public class; a class lists its fields before its
methods. -/

namespace Flowchart

open Java

/-- A modifier of a member. -/
inductive JavaModifier where
  | publicMember
  | privateMember
  | staticMember
  | finalMember
deriving DecidableEq

/-- The keyword of a modifier. -/
def JavaModifier.keyword : JavaModifier → String
  | .publicMember => "public"
  | .privateMember => "private"
  | .staticMember => "static"
  | .finalMember => "final"

/-- A field with its initial value. -/
structure JavaField where
  doc : List String
  modifiers : List JavaModifier
  type : JavaType
  name : String
  initializer : JavaExpr

/-- A parameter of a method. -/
structure JavaParameter where
  type : JavaType
  name : String
deriving DecidableEq

/-- A method with its body. -/
structure JavaMethod where
  doc : List String
  modifiers : List JavaModifier
  returnType : JavaType
  name : String
  parameters : List JavaParameter
  body : List JavaStmt

/-- A public class. -/
structure JavaClass where
  doc : List String
  name : String
  fields : List JavaField
  methods : List JavaMethod

/-- A source file. -/
structure JavaFile where
  package : String
  publicClass : JavaClass

namespace Java

/-- The documentation comment with the given lines, nothing if there are none. -/
def docLines (depth : Nat) (doc : List String) : List Line :=
  if doc.isEmpty then []
  else
    ⟨depth, "/**"⟩ :: doc.map (fun l => ⟨depth, if l.isEmpty then " *" else " * " ++ l⟩)
      ++ [⟨depth, " */"⟩]

/-- The modifiers, each followed by a space. -/
def modifierText (modifiers : List JavaModifier) : String :=
  String.join (modifiers.map fun m => m.keyword ++ " ")

end Java

/-- The text of a parameter. -/
def JavaParameter.render (p : JavaParameter) : String := p.type.render ++ " " ++ p.name

/-- The lines of a field. -/
def JavaField.lines (depth : Nat) (f : JavaField) : List Line :=
  docLines depth f.doc ++
    [⟨depth, modifierText f.modifiers ++ f.type.render ++ " " ++ f.name ++ " = "
      ++ f.initializer.render ++ ";"⟩]

/-- The first line of a method, up to its opening brace. -/
def JavaMethod.header (m : JavaMethod) : String :=
  modifierText m.modifiers ++ m.returnType.render ++ " " ++ m.name ++ "("
    ++ String.intercalate ", " (m.parameters.map JavaParameter.render) ++ ") \x7b"

/-- The lines of a method. -/
def JavaMethod.lines (depth : Nat) (m : JavaMethod) : List Line :=
  docLines depth m.doc ++ ⟨depth, m.header⟩ :: JavaStmt.linesAll (depth + 1) m.body
    ++ [⟨depth, "\x7d"⟩]

namespace JavaClass

/-- The lines of the methods, an empty line before each but the first member of the class. -/
def methodLines (afterMember : Bool) : List JavaMethod → List Line
  | [] => []
  | m :: rest => (if afterMember then [⟨0, ""⟩] else []) ++ m.lines 1 ++ methodLines true rest

/-- The lines of a class. -/
def lines (c : JavaClass) : List Line :=
  docLines 0 c.doc ++ ⟨0, "public class " ++ c.name ++ " \x7b"⟩ ::
    c.fields.flatMap (JavaField.lines 1) ++ methodLines (!c.fields.isEmpty) c.methods
    ++ [⟨0, "\x7d"⟩]

/-- The text of a class. -/
def render (c : JavaClass) : String := Line.renderAll c.lines

end JavaClass

/-- The text of a source file. -/
def JavaFile.render (f : JavaFile) : String :=
  Line.renderAll (⟨0, "package " ++ f.package ++ ";"⟩ :: ⟨0, ""⟩ :: f.publicClass.lines)

end Flowchart
