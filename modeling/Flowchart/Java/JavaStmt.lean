import Flowchart.Java.JavaExpr

set_option autoImplicit false

/-! # Java statements

Statements are laid out as lines, each with the depth of its indentation, and only then become
text; laying out the same statements deeper moves every line by the same amount. -/

namespace Flowchart

/-- A Java statement. -/
inductive JavaStmt where
  | expression (e : JavaExpr)
  | assign (target value : JavaExpr)
  | return (value : Option JavaExpr)
  | ifElse (condition : JavaExpr) (thenBranch : List JavaStmt)
      (elseBranch : Option (List JavaStmt))
  | localVariable (type : JavaType) (name : String) (initializer : JavaExpr)
  | print (e : JavaExpr)
  /-- Reads one value from the standard input by a method of the scanner; if that fails, the target
      gets a fallback, a warning is printed and the rejected token is dropped. -/
  | readInput (target : JavaExpr) (method : String) (fallback : JavaExpr)

namespace Java

/-! ## Lines -/

/-- A line of source text at some depth of indentation. -/
structure Line where
  depth : Nat
  text : String
deriving DecidableEq

namespace Line

/-- The line with its indentation of four spaces for each level, and its line break. -/
def render (l : Line) : String :=
  String.ofList (List.replicate (4 * l.depth) ' ') ++ l.text ++ "\n"

/-- The text of several lines. -/
def renderAll (ls : List Line) : String := String.join (ls.map render)

end Line

/-- The class-level scanner that input is read from. -/
def inputScanner : String := "STDIN"

/-- The exception that is caught around reading input. -/
def inputError : String := "inputError"

end Java

namespace JavaStmt

open Java

/-- The lines of a guarded reading of input. -/
def readInputLines (depth : Nat) (target : JavaExpr) (method : String) (fallback : JavaExpr) :
    List Line :=
  let warning := "Entered value not correct, using " ++ fallback.render ++ " instead"
  [⟨depth, "try \x7b"⟩,
    ⟨depth + 1, target.render ++ " = " ++ inputScanner ++ "." ++ method ++ "();"⟩,
    ⟨depth, "\x7d catch (Exception " ++ inputError ++ ") \x7b"⟩,
    ⟨depth + 1, target.render ++ " = " ++ fallback.render ++ ";"⟩,
    ⟨depth + 1, "System.err.println(" ++ stringLiteral warning ++ ");"⟩,
    ⟨depth + 1, "if (" ++ inputScanner ++ ".hasNext()) \x7b"⟩,
    ⟨depth + 2, inputScanner ++ ".next();"⟩,
    ⟨depth + 1, "\x7d"⟩,
    ⟨depth, "\x7d"⟩]

mutual

/-- The lines of a statement. -/
def lines (depth : Nat) : JavaStmt → List Line
  | .expression e => [⟨depth, e.render ++ ";"⟩]
  | .assign target value => [⟨depth, target.render ++ " = " ++ value.render ++ ";"⟩]
  | .return none => [⟨depth, "return;"⟩]
  | .return (some e) => [⟨depth, "return " ++ e.render ++ ";"⟩]
  | .localVariable type name initializer =>
    [⟨depth, type.render ++ " " ++ name ++ " = " ++ initializer.render ++ ";"⟩]
  | .print e => [⟨depth, "System.out.println(" ++ e.render ++ ");"⟩]
  | .ifElse condition thenBranch none =>
    ⟨depth, "if (" ++ condition.render ++ ") \x7b"⟩ :: linesAll (depth + 1) thenBranch
      ++ [⟨depth, "\x7d"⟩]
  | .ifElse condition thenBranch (some elseBranch) =>
    ⟨depth, "if (" ++ condition.render ++ ") \x7b"⟩ :: linesAll (depth + 1) thenBranch
      ++ ⟨depth, "\x7d else \x7b"⟩ :: linesAll (depth + 1) elseBranch
      ++ [⟨depth, "\x7d"⟩]
  | .readInput target method fallback => readInputLines depth target method fallback

/-- The lines of several statements. -/
def linesAll (depth : Nat) : List JavaStmt → List Line
  | [] => []
  | s :: rest => s.lines depth ++ linesAll depth rest

end

/-- The text of several statements at some depth. -/
def renderAll (depth : Nat) (body : List JavaStmt) : String := Line.renderAll (linesAll depth body)

end JavaStmt

end Flowchart
