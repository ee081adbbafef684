import Flowchart.Lowering.Expression
import Flowchart.Proofs.Renaming

set_option autoImplicit false

/-! # Tables that agree

All that is asked of the items named by types and statements is what they are called, where they are
declared and which types they have. If a second table knows every item of a first one by the same
name and with the same answers, then types are resolved and statements compiled with the second
table as with the first. -/

namespace Flowchart

/-- Two items that cannot be told apart by their names and types. -/
structure Symbol.SameInterface (s s' : Symbol) : Prop where
  fullName_eq : s'.fullName = s.fullName
  name_eq : s'.item.name = s.item.name
  kind_eq : s'.item.kind = s.item.kind
  parentKind_eq : s'.parentKind = s.parentKind
  typeName_eq : s'.item.typeName = s.item.typeName
  returnType_eq : s'.item.returnType = s.item.returnType

namespace Symbol.SameInterface

variable {s s' : Symbol}

theorem isStatic_eq (h : s.SameInterface s') : s'.isStatic = s.isStatic := by
  rw [isStatic, isStatic, h.parentKind_eq, h.kind_eq]

theorem reference_eq (h : s.SameInterface s') : s'.reference = s.reference := by
  rw [reference, reference, h.isStatic_eq, h.fullName_eq, h.name_eq]

end Symbol.SameInterface

theorem JavaType.follows_defaultValue {exact : Prop} {f : Uuid → Uuid} (type : JavaType) :
    Follows exact f Eq type.defaultValue type.defaultValue := by
  cases type with
  | double | boolean | string | «class» => exact .ok rfl
  | void | array => exact .error _

namespace SymbolTable

/-- A second table knows what a first one knows; if it is to be exact, it knows nothing else. -/
structure Agrees (exact : Prop) (t t' : SymbolTable) : Prop where
  found : ∀ {name s}, t.find? name = some s → ∃ s', t'.find? name = some s' ∧ s.SameInterface s'
  missing : exact → ∀ {name}, t.find? name = none → t'.find? name = none

namespace Agrees

variable {exact : Prop} {f : Uuid → Uuid} {t t' : SymbolTable} {s s' : Symbol}

/-! ## Names and types -/

theorem follows_resolve (h : t.Agrees exact t') (name : String) :
    Follows exact f Symbol.SameInterface (t.resolve name) (t'.resolve name) := by
  rw [resolve]
  cases hfound : t.find? name with
  | some s =>
    obtain ⟨s', hfound', hsame⟩ := h.found hfound
    rw [resolve, hfound']
    exact .ok hsame
  | none =>
    by_cases hexact : exact
    · rw [resolve, h.missing hexact hfound]
      exact .error _
    · exact .waived hexact

theorem follows_resolveType (h : t.Agrees exact t') (typeName : String) :
    Follows exact f Eq (t.resolveType typeName) (t'.resolveType typeName) := by
  rw [resolveType, resolveType]
  -- the three basic types are the same in all tables
  split
  · exact .ok rfl
  split
  · exact .ok rfl
  split
  · exact .ok rfl
  cases hfound : t.find? typeName with
  | some s =>
    obtain ⟨s', hfound', hsame⟩ := h.found hfound
    simp only [hfound', hsame.kind_eq, hsame.fullName_eq]
    split
    · exact .ok rfl
    · exact .error _
  | none =>
    by_cases hexact : exact
    · rw [h.missing hexact hfound]
      exact .error _
    · exact .waived hexact

theorem follows_resolveReturnType (h : t.Agrees exact t') (typeName : String) :
    Follows exact f Eq (t.resolveReturnType typeName) (t'.resolveReturnType typeName) := by
  rw [resolveReturnType, resolveReturnType]
  split
  · exact .ok rfl
  · exact h.follows_resolveType typeName

theorem follows_resolveTypeOf (h : t.Agrees exact t') (hsame : s.SameInterface s') :
    Follows exact f Eq (t.resolveTypeOf s) (t'.resolveTypeOf s') := by
  rw [resolveTypeOf, resolveTypeOf, hsame.typeName_eq, hsame.fullName_eq]
  cases s.item.typeName with
  | some typeName => exact h.follows_resolveType typeName
  | none => exact .error _

theorem follows_resolveReturnTypeOf (h : t.Agrees exact t') (hsame : s.SameInterface s') :
    Follows exact f Eq (t.resolveReturnTypeOf s) (t'.resolveReturnTypeOf s') := by
  rw [resolveReturnTypeOf, resolveReturnTypeOf, hsame.returnType_eq, hsame.fullName_eq]
  cases s.item.returnType with
  | some typeName => exact h.follows_resolveReturnType typeName
  | none => exact .error _

/-! ## Parts of statements -/

theorem follows_lowerObject (h : t.Agrees exact t') (value : Json) :
    Follows exact f Eq (t.lowerObject value) (t'.lowerObject value) := by
  unfold lowerObject
  split
  · exact (h.follows_resolveType _).bind_eq fun _ => .ok rfl
  · exact .error _

theorem follows_lowerLiteral (h : t.Agrees exact t') (kind : StatementKind) (value : Option Json) :
    Follows exact f Eq (t.lowerLiteral kind value) (t'.lowerLiteral kind value) := by
  cases value with
  | none => exact .error _
  | some value =>
    simp only [lowerLiteral]
    split
    · unfold lowerNumber
      split
      · exact .ok rfl
      · exact .error _
    · unfold lowerTruth
      split
      · exact .ok rfl
      · split
        · exact .ok rfl
        · exact .error _
      · exact .error _
    · unfold lowerText
      split
      · exact .ok rfl
      · exact .ok rfl
      · exact .ok rfl
      · exact .error _
    · exact h.follows_lowerObject value

theorem follows_checkOperands (operator : Operator) (operands : List Statement) :
    Follows exact f Eq (checkOperands operator operands) (checkOperands operator operands) := by
  unfold checkOperands
  split
  · split
    · exact .ok rfl
    · split
      · exact .error _
      · exact .ok rfl
  · exact .error _

theorem follows_combine (operator : Operator) (operands : List JavaExpr) :
    Follows exact f Eq (combine operator operands) (combine operator operands) := by
  unfold combine
  split
  · exact .ok rfl
  · exact .ok rfl
  · split
    · exact .ok rfl
    · exact .error _
  · split
    · exact .ok rfl
    · exact .error _
  · exact .ok rfl
  · exact .ok rfl

theorem follows_chainSteps (steps : List JavaExpr) :
    Follows exact f Eq (chainSteps steps) (chainSteps steps) := by
  unfold chainSteps
  split
  · exact .error _
  · exact .ok rfl
  · exact .ok rfl

/-! ## Statements -/

theorem follows_lowerAll {statements : List Statement}
    (h : ∀ s ∈ statements, Follows exact f Eq (t.lower s) (t'.lower s)) :
    Follows exact f Eq (t.lowerAll statements) (t'.lowerAll statements) := by
  induction statements with
  | nil => exact .ok rfl
  | cons s rest ih =>
    rw [lowerAll, lowerAll]
    refine (h s List.mem_cons_self).bind_eq fun e => ?_
    refine (ih fun other hother => h other (List.mem_cons_of_mem _ hother)).bind_eq fun others => ?_
    exact .ok rfl

theorem follows_lowerCalls (h : t.Agrees exact t') {calls : List CallStep}
    (harguments : ∀ step ∈ calls, ∀ argument ∈ step.arguments,
      Follows exact f Eq (t.lower argument) (t'.lower argument)) :
    Follows exact f Eq (t.lowerCalls calls) (t'.lowerCalls calls) := by
  induction calls with
  | nil => exact .ok rfl
  | cons step rest ih =>
    obtain ⟨target, arguments⟩ := step
    have hrest := ih fun other hother => harguments other (List.mem_cons_of_mem _ hother)
    rw [lowerCalls, lowerCalls]
    refine (h.follows_resolve target).bind fun s s' hsame => ?_
    rw [hsame.kind_eq, hsame.reference_eq]
    split
    · exact hrest.bind_eq fun others => .ok rfl
    · exact hrest.bind_eq fun others => .ok rfl
    · refine (follows_lowerAll (harguments _ List.mem_cons_self)).bind_eq fun lowered => ?_
      exact hrest.bind_eq fun others => .ok rfl
    · exact .error _

/-- Statements are compiled alike with tables that agree. -/
theorem follows_lower (h : t.Agrees exact t') (s : Statement) :
    Follows exact f Eq (t.lower s) (t'.lower s) := by
  induction s using Statement.induction with
  | h s ihOperands ihCalls =>
    obtain ⟨kind, value, operands, calls⟩ := s
    rw [lower, lower]
    split
    · refine (follows_checkOperands _ operands).bind_eq fun _ => ?_
      exact (follows_lowerAll ihOperands).bind_eq fun lowered => follows_combine _ lowered
    · split
      · exact (h.follows_lowerCalls ihCalls).bind_eq follows_chainSteps
      · exact h.follows_lowerLiteral kind value

end Agrees

end SymbolTable

end Flowchart
