import Flowchart.Java.JavaStmt
import Flowchart.Text.Alphabetic

set_option autoImplicit false

/-! # Identifiers of generated declarations

Which names can stand for Java declarations, and which of them the generated code needs for
itself. -/

namespace Flowchart.Java

/-- The words that are never identifiers. -/
def keywords : List String :=
  ["abstract", "assert", "boolean", "break", "byte", "case", "catch", "char", "class", "const",
    "continue", "default", "do", "double", "else", "enum", "extends", "false", "final", "finally",
    "float", "for", "goto", "if", "implements", "import", "instanceof", "int", "interface", "long",
    "native", "new", "null", "package", "private", "protected", "public", "return", "short",
    "static", "strictfp", "super", "switch", "synchronized", "this", "throw", "throws",
    "transient", "true", "try", "void", "volatile", "while", "var", "yield", "record"]

/-- The names that generated code uses without qualification. -/
def reservedNames : List String :=
  ["System", "String", "Double", "Objects", "Exception", "java", inputScanner, inputError]

/-- A character that can start an identifier. -/
def isStart (c : Char) : Bool := Text.isAlphabetic c || c == '_' || c == '$'

/-- A character that can go on an identifier. -/
def isPart (c : Char) : Bool := Text.isAlphanumeric c || c == '_' || c == '$'

/-- Whether a name can be used for a class, package, field or variable. -/
def isIdentifier (name : String) : Bool :=
  match name.toList with
  | [] => false
  | c :: rest => isStart c && rest.all isPart && !keywords.contains name && name != "_"

end Flowchart.Java
