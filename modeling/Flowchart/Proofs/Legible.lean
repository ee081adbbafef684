import Flowchart.Java.Identifier
import Flowchart.Java.JavaExpr

set_option autoImplicit false

/-! # Texts of expressions

The text of each form of expression, and the expressions in which every access is a path: steps with
plain names, joined by points. -/

namespace Flowchart

namespace JavaExpr

/-! ## Rendering -/

theorem renderAll_eq_map (es : List JavaExpr) : renderAll es = es.map render := by
  induction es with
  | nil => rfl
  | cons e es ih => exact congrArg (e.render :: ·) ih
@[simp]
theorem render_number (d : Double) : (number d).render = Java.numberLiteral d := rfl
@[simp]
theorem render_boolean (b : Bool) : (boolean b).render = Java.booleanLiteral b := rfl
@[simp]
theorem render_text (s : String) : (text s).render = Java.stringLiteral s := rfl
@[simp]
theorem render_new (type : JavaType) (es : List JavaExpr) : (new type es).render
    = "new " ++ type.render ++ "(" ++ String.intercalate ", " (es.map render) ++ ")" := by
  rw [← renderAll_eq_map]; rfl
@[simp]
theorem render_name (n : String) : (name n).render = n := rfl
@[simp]
theorem render_invoke (f : String) (es : List JavaExpr) : (invoke f es).render
    = f ++ "(" ++ String.intercalate ", " (es.map render) ++ ")" := by
  rw [← renderAll_eq_map]; rfl
@[simp]
theorem render_chain (es : List JavaExpr) : (chain es).render
    = String.intercalate "." (es.map render) := by
  rw [← renderAll_eq_map]; rfl
@[simp]
theorem render_operation (op : String) (es : List JavaExpr) : (operation op es).render
    = "(" ++ String.intercalate (" " ++ op ++ " ") (es.map render) ++ ")" := by
  rw [← renderAll_eq_map]; rfl
@[simp]
theorem render_not (e : JavaExpr) : (JavaExpr.not e).render = "(!" ++ e.render ++ ")" := rfl
@[simp]
theorem render_length (e : JavaExpr) :
    (length e).render = "((double) " ++ e.render ++ ".length())" := rfl
@[simp]
theorem render_stringOf (e : JavaExpr) :
    (stringOf e).render = "String.valueOf(" ++ e.render ++ ")" := rfl
@[simp]
theorem render_objectsEqual (a b : JavaExpr) : (objectsEqual a b).render
    = "java.util.Objects.equals(" ++ a.render ++ ", " ++ b.render ++ ")" := rfl
@[simp]
theorem render_group (e : JavaExpr) : (group e).render = "(" ++ e.render ++ ")" := rfl

/-! ## Paths -/

/-- Steps joined by points; a single step stands for itself. -/
def path : List JavaExpr → JavaExpr
  | [step] => step
  | steps => .chain steps

@[simp]
theorem render_path (steps : List JavaExpr) :
    (path steps).render = String.intercalate "." (steps.map render) := by
  match steps with
  | [] => exact render_chain []
  | [step] => simp [path]
  | first :: second :: rest => exact render_chain (first :: second :: rest)

/-- A step of a path: a name, with the arguments of a call. -/
structure Step where
  name : String
  arguments : Option (List JavaExpr)

/-- The expression of a step. -/
def Step.expr : Step → JavaExpr
  | ⟨name, none⟩ => .name name
  | ⟨name, some arguments⟩ => .invoke name arguments

/-- A name that can be declared in every project. -/
structure Declarable (name : String) : Prop where
  isIdentifier : Java.isIdentifier name = true
  not_reserved : name ∉ Java.reservedNames

/-! ## Legible expressions -/

/-- The types of new objects: the basic ones, and classes with another name. -/
inductive Creatable : JavaType → Prop
  | double : Creatable .double
  | boolean : Creatable .boolean
  | string : Creatable .string
  | class {name : String} (declared : name ∉ ["double", "boolean", "String"])
      (plain : '(' ∉ name.toList) : Creatable (.class name)

/-- The operators that stand between operands. -/
def infixes : List String := ["+", "-", "*", "/", "%", "&&", "||", ">", "<", ">=", "<="]

/-- The expressions that a length can be taken of. -/
def Measurable : JavaExpr → Prop
  | .text _ | .operation _ _ | .name _ | .invoke _ _ | .chain _ => True
  | _ => False

/-- Expressions in which every access is a path of declarable names, and every operation has
    operands enough to show its operator. -/
inductive Legible : JavaExpr → Prop
  | number (d : Double) : Legible (.number d)
  | boolean (b : Bool) : Legible (.boolean b)
  | text (s : String) : Legible (.text s)
  | new {type : JavaType} (creatable : Creatable type) : Legible (.new type [])
  | path {steps : List Step} (ne_nil : steps ≠ [])
      (declarable : ∀ s ∈ steps, Declarable s.name)
      (arguments : ∀ s ∈ steps, ∀ as, s.arguments = some as → ∀ a ∈ as, Legible a) :
      Legible (path (steps.map Step.expr))
  | operation {operator : String} {operands : List JavaExpr} (operator_mem : operator ∈ infixes)
      (two_le : 2 ≤ operands.length) (legible : ∀ e ∈ operands, Legible e) :
      Legible (.operation operator operands)
  | not {operand : JavaExpr} (legible : Legible operand) : Legible (.not operand)
  | length {operand : JavaExpr} (legible : Legible operand) (measurable : operand.Measurable) :
      Legible (.length operand)
  | stringOf {operand : JavaExpr} (legible : Legible operand) : Legible (.stringOf operand)
  | objectsEqual {left right : JavaExpr} (legible_left : Legible left)
      (legible_right : Legible right) : Legible (.objectsEqual left right)
  | group {operand : JavaExpr} (legible : Legible operand) : Legible (.group operand)

end JavaExpr

end Flowchart
