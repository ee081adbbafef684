import Flowchart.Lowering.Expression
import Flowchart.Proofs.Success

set_option autoImplicit false

/-! # Errors and their contexts

What can be said of every error that a chain of checks may fail with. An error is *bare* if it has
no context around it, *unplaced* if moreover it is about no block of a flow graph, and *plain* if it
is not about the entry function either: names, types and statements know nothing of blocks and of
the entry function, so that is all they fail with. -/

namespace Flowchart

/-! ## Checks that fail -/

section

variable {ε ε' α β : Type} {P Q : ε → Prop} {x : Except ε α}

/-- Whatever error there is has a property. -/
def FailsWith (P : ε → Prop) (x : Except ε α) : Prop := ∀ e, x = .error e → P e

namespace FailsWith

theorem ok {a : α} : FailsWith P (.ok a : Except ε α) := nofun

theorem error {e : ε} (h : P e) : FailsWith P (.error e : Except ε α) := by
  rintro _ ⟨⟩
  exact h

/-- A chain of checks fails with the errors of its first check, or with those of the rest. -/
theorem bind {f : α → Except ε β} (hx : FailsWith P x) (hf : ∀ a, x = .ok a → FailsWith P (f a)) :
    FailsWith P (x >>= f) := by
  intro e h
  cases x with
  | error e' =>
    cases h
    exact hx _ rfl
  | ok a => exact hf a rfl e h

theorem mapError {P : ε' → Prop} {wrap : ε → ε'} (h : FailsWith (fun e => P (wrap e)) x) :
    FailsWith P (x.mapError wrap) := by
  cases x with
  | error e => exact .error (h e rfl)
  | ok a => exact .ok

theorem mono (h : FailsWith P x) (hPQ : ∀ e, P e → Q e) : FailsWith Q x :=
  fun e he => hPQ e (h e he)

end FailsWith

end

/-! ## Contexts -/

namespace CompileError

/-- The block of a flow graph that an error is about. -/
def block? : CompileError → Option Uuid
  | .missingSuccessor block _ | .ambiguousSuccessor block _ _ | .decisionWithoutBranches block
  | .incompleteDecision block _ _ | .missingStatement block _ | .missingVariable block _
  | .cycleDetected block | .statement block _ | .unsupportedInputType block _
  | .unexpectedReturnValue block _ | .missingReturnValue block _ _ => some block
  | .blockNotFound _ source => some source
  | _ => none

/-- An error without the block or declaration it happened in. -/
def IsBare : CompileError → Prop
  | .statement _ _ | .declaration _ _ => False
  | _ => True

/-- An error that is about no block, and has no context around it. -/
def Unplaced (e : CompileError) : Prop := e.block? = none ∧ e.IsBare

/-- There is no entry function of the wanted name, or it is not supplied with fitting values. -/
def IsEntryFault : CompileError → Prop
  | .entryFunctionNotFound _ | .entryParameterMismatch _ _ _ | .invalidEntryArgument _ _ _ => True
  | _ => False

/-- An error that is about no block and not about the entry function, and has no context around
    it. -/
structure Plain (e : CompileError) : Prop where
  block?_eq : e.block? = none
  isBare : e.IsBare
  not_entry : ¬ e.IsEntryFault

theorem Plain.unplaced {e : CompileError} (h : e.Plain) : e.Unplaced := ⟨h.block?_eq, h.isBare⟩

theorem IsBare.rootCause_eq {e : CompileError} (h : e.IsBare) : e.rootCause = e := by
  cases e with
  | statement | declaration => exact h.elim
  | _ => rfl

theorem Plain.not_entry_rootCause {e : CompileError} (h : e.Plain) :
    ¬ e.rootCause.IsEntryFault := by
  rw [h.isBare.rootCause_eq]
  exact h.not_entry

end CompileError

open CompileError (Plain)

/-! ## Names and types -/

namespace SymbolTable

variable (t : SymbolTable)

theorem plain_resolve (name : String) : FailsWith Plain (t.resolve name) := by
  unfold resolve
  split
  · exact .ok
  · exact .error ⟨rfl, trivial, not_false⟩

/-- A type name stands for one of the three basic types, or else for the class with that full
    name. -/
inductive NamesType (t : SymbolTable) : String → JavaType → Prop
  | number : NamesType t "NUMBER" .double
  | boolean : NamesType t "BOOLEAN" .boolean
  | text : NamesType t "TEXT" .string
  | class {typeName : String} {s : Symbol} (other : typeName ∉ ["NUMBER", "BOOLEAN", "TEXT"])
      (found : t.find? typeName = some s) (kind : s.item.kind = .classItem) :
      NamesType t typeName (.class s.fullName)

variable {t} in
theorem resolveType_eq_ok_iff {typeName : String} {type : JavaType} :
    t.resolveType typeName = .ok type ↔ t.NamesType typeName type := by
  constructor
  · intro h
    unfold resolveType at h
    split at h
    · next heq =>
        cases h
        exact heq ▸ .number
    split at h
    · next heq =>
        cases h
        exact heq ▸ .boolean
    split at h
    · next heq =>
        cases h
        exact heq ▸ .text
    split at h
    · next s hfound =>
        split at h
        · next hkind =>
            cases h
            exact .class (by simp_all) hfound hkind
        · cases h
    · cases h
  · intro h
    cases h with
    | number | boolean | text => rfl
    | «class» other found kind =>
      simp only [List.mem_cons, List.not_mem_nil, or_false, not_or] at other
      obtain ⟨hnumber, hboolean, htext⟩ := other
      simp [resolveType, hnumber, hboolean, htext, found, kind]

variable {t} in
theorem NamesType.unique {typeName : String} {type type' : JavaType} (h : t.NamesType typeName type)
    (h' : t.NamesType typeName type') : type = type' := by
  have hresolved := (resolveType_eq_ok_iff.2 h).symm.trans (resolveType_eq_ok_iff.2 h')
  cases hresolved
  rfl

/-- A type name that stands for nothing is reported as it is. -/
theorem resolveType_fails (typeName : String) :
    FailsWith (· = .unresolvedType typeName) (t.resolveType typeName) := by
  unfold resolveType
  split
  · exact .ok
  split
  · exact .ok
  split
  · exact .ok
  split
  · split
    · exact .ok
    · exact .error rfl
  · exact .error rfl

theorem plain_resolveType (typeName : String) : FailsWith Plain (t.resolveType typeName) :=
  (t.resolveType_fails typeName).mono fun _ he => he ▸ ⟨rfl, trivial, not_false⟩

theorem plain_resolveReturnType (typeName : String) :
    FailsWith Plain (t.resolveReturnType typeName) := by
  unfold resolveReturnType
  split
  · exact .ok
  · exact t.plain_resolveType typeName

theorem plain_resolveTypeOf (s : Symbol) : FailsWith Plain (t.resolveTypeOf s) := by
  unfold resolveTypeOf
  split
  · exact t.plain_resolveType _
  · exact .error ⟨rfl, trivial, not_false⟩

theorem plain_resolveReturnTypeOf (s : Symbol) :
    FailsWith Plain (t.resolveReturnTypeOf s) := by
  unfold resolveReturnTypeOf
  split
  · exact t.plain_resolveReturnType _
  · exact .error ⟨rfl, trivial, not_false⟩

/-! ## Statements -/

theorem plain_lowerLiteral (kind : StatementKind) (value : Option Json) :
    FailsWith Plain (t.lowerLiteral kind value) := by
  cases value with
  | none => exact .error ⟨rfl, trivial, not_false⟩
  | some value =>
    simp only [lowerLiteral]
    split
    · unfold lowerNumber
      split
      · exact .ok
      · exact .error ⟨rfl, trivial, not_false⟩
    · unfold lowerTruth
      split
      · exact .ok
      · split
        · exact .ok
        · exact .error ⟨rfl, trivial, not_false⟩
      · exact .error ⟨rfl, trivial, not_false⟩
    · unfold lowerText
      split
      · exact .ok
      · exact .ok
      · exact .ok
      · exact .error ⟨rfl, trivial, not_false⟩
    · unfold lowerObject
      split
      · exact (t.plain_resolveType _).bind fun _ _ => .ok
      · exact .error ⟨rfl, trivial, not_false⟩

theorem plain_checkOperands (operator : Operator) (operands : List Statement) :
    FailsWith Plain (checkOperands operator operands) := by
  unfold checkOperands
  split
  · split
    · exact .ok
    · split
      · exact .error ⟨rfl, trivial, not_false⟩
      · exact .ok
  · exact .error ⟨rfl, trivial, not_false⟩

theorem plain_combine (operator : Operator) (operands : List JavaExpr) :
    FailsWith Plain (combine operator operands) := by
  unfold combine
  split
  · exact .ok
  · exact .ok
  · split
    · exact .ok
    · exact .error ⟨rfl, trivial, not_false⟩
  · split
    · exact .ok
    · exact .error ⟨rfl, trivial, not_false⟩
  · exact .ok
  · exact .ok

theorem plain_chainSteps (steps : List JavaExpr) : FailsWith Plain (chainSteps steps) := by
  unfold chainSteps
  split
  · exact .error ⟨rfl, trivial, not_false⟩
  · exact .ok
  · exact .ok

variable {t}

theorem plain_lowerAll {statements : List Statement}
    (h : ∀ s ∈ statements, FailsWith Plain (t.lower s)) :
    FailsWith Plain (t.lowerAll statements) := by
  induction statements with
  | nil => exact .ok
  | cons s rest ih =>
    rw [lowerAll]
    refine (h s List.mem_cons_self).bind fun e _ => ?_
    exact (ih fun other hother => h other (List.mem_cons_of_mem _ hother)).bind fun _ _ => .ok

theorem plain_lowerCalls {calls : List CallStep}
    (h : ∀ step ∈ calls, ∀ argument ∈ step.arguments, FailsWith Plain (t.lower argument)) :
    FailsWith Plain (t.lowerCalls calls) := by
  induction calls with
  | nil => exact .ok
  | cons step rest ih =>
    obtain ⟨target, arguments⟩ := step
    have hrest := ih fun other hother => h other (List.mem_cons_of_mem _ hother)
    rw [lowerCalls]
    refine (t.plain_resolve target).bind fun symbol _ => ?_
    split
    · exact hrest.bind fun _ _ => .ok
    · exact hrest.bind fun _ _ => .ok
    · refine (plain_lowerAll (h _ List.mem_cons_self)).bind fun _ _ => ?_
      exact hrest.bind fun _ _ => .ok
    · exact .error ⟨rfl, trivial, not_false⟩

/-- What is wrong with a statement has nothing to do with the block it stands in. -/
theorem plain_lower (t : SymbolTable) (s : Statement) : FailsWith Plain (t.lower s) := by
  induction s using Statement.induction with
  | h s ihOperands ihCalls =>
    obtain ⟨kind, value, operands, calls⟩ := s
    rw [lower]
    split
    · refine (plain_checkOperands _ operands).bind fun _ _ => ?_
      exact (plain_lowerAll ihOperands).bind fun lowered _ => plain_combine _ lowered
    · split
      · exact (plain_lowerCalls ihCalls).bind fun steps _ => plain_chainSteps steps
      · exact t.plain_lowerLiteral kind value

end SymbolTable

end Flowchart
