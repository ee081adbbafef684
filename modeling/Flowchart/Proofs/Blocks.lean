import Flowchart.Proofs.Graph

set_option autoImplicit false

/-! # What single blocks become

When the parts of a block can be compiled, and into what. `Acts` lists the statements of the blocks
that do something, `Returns` the values an end block gives back; the functions of `FlowGraph`
succeed exactly in these cases. -/

namespace Flowchart

/-! ## Types that can be read -/

namespace SymbolTable

theorem resolveType_inputMethod_iff {t : SymbolTable} {typeName : String} :
    (∃ type method, t.resolveType typeName = .ok type ∧ type.inputMethod? = some method)
      ↔ typeName = "NUMBER" ∨ typeName = "BOOLEAN" ∨ typeName = "TEXT" := by
  rw [resolveType]
  split
  · next h => simp [h, JavaType.inputMethod?]
  · next hnumber =>
      split
      · next h => simp [h, JavaType.inputMethod?]
      · next hboolean =>
          split
          · next h => simp [h, JavaType.inputMethod?]
          · next htext =>
              simp only [hnumber, hboolean, htext, or_self, iff_false, not_exists, not_and]
              intro type method htype
              split at htype
              · split at htype
                · cases htype
                  simp [JavaType.inputMethod?]
                · cases htype
              · cases htype

/-- Input can be read into variables of the three basic types. -/
theorem resolveTypeOf_inputMethod_iff {t : SymbolTable} {s : Symbol} :
    (∃ type method, t.resolveTypeOf s = .ok type ∧ type.inputMethod? = some method)
      ↔ s.item.typeName = some "NUMBER" ∨ s.item.typeName = some "BOOLEAN"
        ∨ s.item.typeName = some "TEXT" := by
  rw [resolveTypeOf]
  cases s.item.typeName with
  | none => simp
  | some typeName => simpa using @resolveType_inputMethod_iff t typeName

end SymbolTable

theorem ItemKind.isAssignable_iff {kind : ItemKind} :
    kind.isAssignable = true ↔ kind = .variable ∨ kind = .parameter := by
  cases kind <;> simp [isAssignable]

/-- What can be read has a value to fall back on. -/
theorem JavaType.exists_defaultValue {type : JavaType} {method : String}
    (h : type.inputMethod? = some method) : ∃ fallback, type.defaultValue = .ok fallback := by
  cases type <;> simp_all [inputMethod?, defaultValue]

namespace FlowGraph

variable {g : FlowGraph} {b : Block}

/-! ## Parts of a block -/

theorem expression_eq_ok_iff {s : Statement} {e : JavaExpr} :
    g.expression b s = .ok e ↔ g.table.lower s = .ok e := by
  rw [expression, mapError_eq_ok]

theorem requiredExpression_eq_ok_iff {e : JavaExpr} :
    g.requiredExpression b = .ok e ↔ ∃ s, b.statement? = some s ∧ g.table.lower s = .ok e := by
  rw [requiredExpression]
  cases b.statement? with
  | none => simp
  | some s => simp [expression_eq_ok_iff]

theorem assigned_eq_ok_iff {v : Symbol} :
    g.assigned b = .ok v
      ↔ ∃ name, b.target? = some name ∧ g.table.find? name = some v
        ∧ (v.item.kind = .variable ∨ v.item.kind = .parameter) := by
  rw [assigned]
  cases b.target? with
  | none => simp
  | some name =>
    simp only [bind_eq_ok, SymbolTable.resolve_eq_ok_iff, ← ItemKind.isAssignable_iff]
    constructor
    · rintro ⟨symbol, hfind, h⟩
      split at h
      · next hkind =>
          cases pure_eq_ok.1 h
          exact ⟨name, rfl, hfind, hkind⟩
      · cases h
    · rintro ⟨_, ⟨⟩, hfind, hkind⟩
      refine ⟨v, hfind, ?_⟩
      rw [if_pos hkind]
      rfl

theorem readStatement_eq_ok_iff {statement : JavaStmt} :
    g.readStatement b = .ok statement
      ↔ ∃ v type method fallback, g.assigned b = .ok v ∧ g.table.resolveTypeOf v = .ok type
        ∧ type.inputMethod? = some method ∧ type.defaultValue = .ok fallback
        ∧ statement = .readInput (.name v.reference) method fallback := by
  simp only [readStatement, bind_eq_ok]
  constructor
  · rintro ⟨v, hv, type, htype, h⟩
    cases hmethod : type.inputMethod? with
    | none =>
      rw [hmethod] at h
      cases h
    | some method =>
      rw [hmethod] at h
      obtain ⟨fallback, hfallback, h⟩ := bind_eq_ok.1 h
      exact ⟨v, type, method, fallback, hv, htype, hmethod, hfallback, (pure_eq_ok.1 h).symm⟩
  · rintro ⟨v, type, method, fallback, hv, htype, hmethod, hfallback, rfl⟩
    refine ⟨v, hv, type, htype, ?_⟩
    rw [hmethod, hfallback]
    rfl

/-! ## Actions and results -/

/-- The statement that a call, assignment, input or output block performs. -/
inductive Acts (g : FlowGraph) (b : Block) : JavaStmt → Prop
  | call {e : JavaExpr} (kind : b.kind = .call) (value : g.requiredExpression b = .ok e) :
      Acts g b (.expression e)
  | assignment {v : Symbol} {e : JavaExpr} (kind : b.kind = .assignment)
      (target : g.assigned b = .ok v) (value : g.requiredExpression b = .ok e) :
      Acts g b (.assign (g.assignmentTarget v e) e)
  | input {statement : JavaStmt} (kind : b.kind = .input)
      (read : g.readStatement b = .ok statement) : Acts g b statement
  | output {e : JavaExpr} (kind : b.kind = .output) (value : g.requiredExpression b = .ok e) :
      Acts g b (.print e)

/-- The statement of a block that goes on: none at the start, and what it performs otherwise. -/
theorem head_eq_ok_iff (hstop : b.kind ≠ .stop) (hdecision : b.kind ≠ .decision)
    {head : Option JavaStmt} :
    g.head b = .ok head
      ↔ (b.kind = .start ∧ head = none)
        ∨ ∃ statement, head = some statement ∧ g.Acts b statement := by
  constructor
  · intro h
    rw [FlowGraph.head] at h
    split at h
    · next kind =>
        obtain ⟨e, he, h⟩ := bind_eq_ok.1 h
        exact Or.inr ⟨_, (pure_eq_ok.1 h).symm, .call kind he⟩
    · next kind =>
        obtain ⟨v, hv, h⟩ := bind_eq_ok.1 h
        obtain ⟨e, he, h⟩ := bind_eq_ok.1 h
        exact Or.inr ⟨_, (pure_eq_ok.1 h).symm, .assignment kind hv he⟩
    · next kind =>
        obtain ⟨statement, hread, h⟩ := bind_eq_ok.1 h
        exact Or.inr ⟨_, (pure_eq_ok.1 h).symm, .input kind hread⟩
    · next kind =>
        obtain ⟨e, he, h⟩ := bind_eq_ok.1 h
        exact Or.inr ⟨_, (pure_eq_ok.1 h).symm, .output kind he⟩
    · next kind =>
        cases h
        exact Or.inl ⟨kind, rfl⟩
    · next kind => exact absurd kind hstop
    · next kind => exact absurd kind hdecision
  · rintro (⟨kind, rfl⟩ | ⟨statement, rfl, hacts⟩)
    · rw [FlowGraph.head, kind]
    · cases hacts with
      | call kind value =>
        simp only [FlowGraph.head, kind, value, ok_bind]
        rfl
      | assignment kind target value =>
        simp only [FlowGraph.head, kind, target, value, ok_bind]
        rfl
      | input kind read =>
        simp only [FlowGraph.head, kind, read, ok_bind]
        rfl
      | output kind value =>
        simp only [FlowGraph.head, kind, value, ok_bind]
        rfl

/-- The value an end block returns: none in a function that returns nothing, else that of its
    statement. -/
inductive Returns (g : FlowGraph) (b : Block) : Option JavaExpr → Prop
  | nothing (type : g.returnType = .void) (statement : b.statement? = none) : Returns g b none
  | value {s : Statement} {e : JavaExpr} (type : g.returnType ≠ .void)
      (statement : b.statement? = some s) (lowered : g.table.lower s = .ok e) :
      Returns g b (some e)

theorem returnStatement_eq_ok_iff {statement : JavaStmt} :
    g.returnStatement b = .ok statement
      ↔ ∃ value, statement = .return value ∧ g.Returns b value := by
  constructor
  · intro h
    rw [returnStatement] at h
    split at h
    · next s hs =>
        split at h
        · cases h
        · next htype =>
            obtain ⟨e, he, h⟩ := bind_eq_ok.1 h
            exact ⟨_, (pure_eq_ok.1 h).symm, .value htype hs (expression_eq_ok_iff.1 he)⟩
    · next hs =>
        split at h
        · next htype =>
            cases h
            exact ⟨none, rfl, .nothing htype hs⟩
        · cases h
  · rintro ⟨value, rfl, hreturns⟩
    cases hreturns with
    | nothing type statement => simp only [returnStatement, statement, type, if_true]
    | value type statement lowered =>
      simp only [returnStatement, statement, type, if_false, expression_eq_ok_iff.2 lowered,
        ok_bind]
      rfl

end FlowGraph

end Flowchart
