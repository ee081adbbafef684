import Flowchart.Proofs.Accesses
import Flowchart.Proofs.Returns
import Flowchart.Proofs.Types

set_option autoImplicit false

/-! # Objects that bodies create

The types that compiled statements create objects of: those that their object literals name, and
nothing else. The body of a function creates what the statements of its blocks do, those of the
start and of inputs apart, which are not compiled. A literal may also name a basic type, and what it
becomes then creates an object of a type that has none. -/

namespace Flowchart

open Relation (ReflTransGen)

/-! ## Creations in an expression -/

namespace JavaExpr

/-- The expressions directly inside an expression. -/
def parts : JavaExpr → List JavaExpr
  | .number _ | .boolean _ | .text _ | .name _ => []
  | .new _ es | .invoke _ es | .chain es | .operation _ es => es
  | .not e | .length e | .stringOf e | .group e => [e]
  | .objectsEqual left right => [left, right]

/-- Somewhere in an expression, at any depth, an object of a type is created. -/
inductive Creates (type : JavaType) : JavaExpr → Prop
  | here {arguments : List JavaExpr} : Creates type (.new type arguments)
  | inside {e part : JavaExpr} (mem : part ∈ e.parts) (creates : Creates type part) :
      Creates type e

variable {type other : JavaType} {e : JavaExpr} {es : List JavaExpr}

theorem creates_iff :
    e.Creates type
      ↔ (∃ arguments, e = .new type arguments) ∨ ∃ part ∈ e.parts, part.Creates type := by
  constructor
  · intro h
    cases h with
    | here => exact Or.inl ⟨_, rfl⟩
    | inside mem creates => exact Or.inr ⟨_, mem, creates⟩
  · rintro (⟨arguments, rfl⟩ | ⟨part, mem, creates⟩)
    · exact .here
    · exact .inside mem creates

/-- An expression that creates nothing itself creates what its parts do. -/
theorem creates_iff_parts (h : ∀ arguments, e ≠ .new type arguments) :
    e.Creates type ↔ ∃ part ∈ e.parts, part.Creates type := by
  rw [creates_iff, or_iff_right]
  rintro ⟨arguments, heq⟩
  exact h arguments heq

theorem inherited_creates : Inherited (Creates type) where
  operation := by simp [creates_iff_parts, parts]
  not := by simp [creates_iff_parts, parts]
  length := by simp [creates_iff_parts, parts]
  stringOf := by simp [creates_iff_parts, parts]
  objectsEqual := by simp [creates_iff_parts, parts]
  group := by simp [creates_iff_parts, parts]

theorem not_creates_of_parts (hparts : e.parts = []) (h : ∀ arguments, e ≠ .new type arguments) :
    ¬ e.Creates type := by
  rw [creates_iff_parts h, hparts]
  simp

theorem creates_new_iff : (JavaExpr.new other []).Creates type ↔ type = other := by
  rw [creates_iff]
  simp [parts, eq_comm]

end JavaExpr

open JavaExpr (Creates creates_iff creates_iff_parts creates_new_iff)

/-! ## Types of objects -/

/-- A first value is a new object for a class, and no object for any other type. -/
theorem JavaType.creates_defaultValue_iff {type created : JavaType} {e : JavaExpr}
    (h : type.defaultValue = .ok e) :
    e.Creates created ↔ created = type ∧ ∃ C, type = .class C := by
  cases type with
  | double | boolean | string =>
    cases h
    exact iff_of_false (JavaExpr.not_creates_of_parts rfl nofun) nofun
  | «class» C =>
    cases h
    simp [creates_new_iff]
  | void | array => cases h

namespace SymbolTable

variable {t : SymbolTable} {type : JavaType} {typeName : String}

/-- A type is the class of a class item. -/
def IsClass (t : SymbolTable) (type : JavaType) : Prop :=
  ∃ s ∈ t.symbols, s.item.kind = .classItem ∧ type = .class s.fullName

theorem NamesType.isClass {C : String} (h : t.NamesType typeName (.class C)) :
    t.IsClass (.class C) := by
  cases h with
  | @«class» _ s other found kind => exact ⟨s, List.mem_of_find?_eq_some found, kind, rfl⟩

/-- A type name stands for a class unless it is that of a basic type. -/
theorem NamesType.isClass_iff (h : t.NamesType typeName type) :
    t.IsClass type ↔ typeName ∉ ["NUMBER", "BOOLEAN", "TEXT"] := by
  cases h with
  | number | boolean | text => simp [IsClass]
  | «class» other found kind =>
    exact iff_of_true (NamesType.isClass (.class other found kind)) other

theorem exists_namesType (h : typeName ∈ ["NUMBER", "BOOLEAN", "TEXT"]) :
    ∃ type, t.NamesType typeName type := by
  simp only [List.mem_cons, List.not_mem_nil, or_false] at h
  rcases h with rfl | rfl | rfl
  · exact ⟨_, .number⟩
  · exact ⟨_, .boolean⟩
  · exact ⟨_, .text⟩

theorem NamesType.exists_defaultValue (h : t.NamesType typeName type) :
    ∃ e, type.defaultValue = .ok e := by
  cases h <;> exact ⟨_, rfl⟩

/-- The first value of a variable creates an object only if the type of the variable is a class. -/
theorem NamesType.default_creates (h : t.NamesType typeName type) :
    ∃ e, type.defaultValue = .ok e ∧ ∀ created, e.Creates created → t.IsClass created := by
  obtain ⟨e, he⟩ := h.exists_defaultValue
  refine ⟨e, he, fun created hcreates => ?_⟩
  obtain ⟨rfl, C, rfl⟩ := (JavaType.creates_defaultValue_iff he).1 hcreates
  exact h.isClass

/-! ## What statements create -/

/-- An object literal is compiled with a statement, and its type name stands for a type. -/
def Instantiates (t : SymbolTable) (s : Statement) (type : JavaType) : Prop :=
  ∃ object, t.Visits s object ∧ object.kind = .object
    ∧ ∃ typeName, object.value = some (.string typeName) ∧ t.NamesType typeName type

/-- No object literal that is compiled with a statement names a basic type. -/
def AvoidsBasicObjects (t : SymbolTable) (s : Statement) : Prop :=
  ∀ object, t.Visits s object → object.kind = .object →
    ∀ typeName, object.value = some (.string typeName) → typeName ∉ ["NUMBER", "BOOLEAN", "TEXT"]

variable {s : Statement}

theorem forall_instantiates_isClass_iff :
    (∀ type, t.Instantiates s type → t.IsClass type) ↔ t.AvoidsBasicObjects s := by
  constructor
  · intro h object hvisits kind typeName hvalue hbasic
    obtain ⟨type, names⟩ := exists_namesType (t := t) hbasic
    exact names.isClass_iff.1 (h type ⟨object, hvisits, kind, typeName, hvalue, names⟩) hbasic
  · rintro h type ⟨object, hvisits, kind, typeName, hvalue, names⟩
    exact names.isClass_iff.2 (h object hvisits kind typeName hvalue)

theorem instantiates_operator_iff {operator : Operator}
    (kind : Operator.ofKind? s.kind = some operator) :
    t.Instantiates s type ↔ ∃ operand ∈ s.operands, t.Instantiates operand type := by
  constructor
  · rintro ⟨object, hvisits, hobject, hnames⟩
    cases hvisits with
    | self =>
      rw [hobject] at kind
      cases kind
    | operand _ mem inside => exact ⟨_, mem, object, inside, hobject, hnames⟩
    | argument hcall =>
      rw [hcall] at kind
      cases kind
  · rintro ⟨operand, hmem, object, hvisits, hobject⟩
    exact ⟨object, .operand kind hmem hvisits, hobject⟩

theorem instantiates_call_iff (kind : s.kind = .call) :
    t.Instantiates s type
      ↔ ∃ step ∈ s.calls, ∃ f, t.find? step.target = some f ∧ f.item.kind = .function
        ∧ ∃ argument ∈ step.arguments, t.Instantiates argument type := by
  constructor
  · rintro ⟨object, hvisits, hobject, hnames⟩
    cases hvisits with
    | self =>
      rw [hobject] at kind
      cases kind
    | operand hoperator =>
      rw [kind] at hoperator
      cases hoperator
    | argument _ step_mem found function mem inside =>
      exact ⟨_, step_mem, _, found, function, _, mem, object, inside, hobject, hnames⟩
  · rintro ⟨step, hstep, f, found, function, argument, hmem, object, hvisits, hobject⟩
    exact ⟨object, .argument kind hstep found function hmem hvisits, hobject⟩

theorem instantiates_literal_iff (hoperator : Operator.ofKind? s.kind = none)
    (hcall : s.kind ≠ .call) :
    t.Instantiates s type
      ↔ s.kind = .object
        ∧ ∃ typeName, s.value = some (.string typeName) ∧ t.NamesType typeName type := by
  constructor
  · rintro ⟨object, hvisits, hobject⟩
    cases hvisits with
    | self => exact hobject
    | operand kind =>
      rw [hoperator] at kind
      cases kind
    | argument kind => exact absurd kind hcall
  · intro hobject
    exact ⟨s, .self, hobject⟩

theorem Literal.creates_iff {kind : StatementKind} {value : Json} {e : JavaExpr}
    (h : t.Literal kind value e) :
    e.Creates type ↔ kind = .object
      ∧ ∃ typeName, some value = some (.string typeName) ∧ t.NamesType typeName type := by
  cases h with
  | @object typeName created names =>
    rw [creates_new_iff]
    constructor
    · rintro rfl
      exact ⟨rfl, typeName, rfl, names⟩
    · rintro ⟨-, _, ⟨⟩, hnames⟩
      exact hnames.unique names
  | _ => exact iff_of_false (JavaExpr.not_creates_of_parts rfl nofun) nofun

/-- A chain creates what its steps do. -/
theorem creates_chainSteps_iff {steps : List JavaExpr} {e : JavaExpr}
    (h : chainSteps steps = .ok e) : e.Creates type ↔ ∃ step ∈ steps, step.Creates type := by
  match steps with
  | [] => cases h
  | [step] =>
    cases h
    simp
  | _ :: _ :: _ =>
    cases h
    exact creates_iff_parts nofun

/-- A step of a chain creates what the arguments of its function do. -/
theorem StepsTo.creates_iff {step : CallStep} {e : JavaExpr} (h : t.StepsTo step e)
    (ih : ∀ argument ∈ step.arguments, ∀ a, t.lower argument = .ok a →
      (a.Creates type ↔ t.Instantiates argument type)) :
    e.Creates type ↔ ∃ f, t.find? step.target = some f ∧ f.item.kind = .function
      ∧ ∃ argument ∈ step.arguments, t.Instantiates argument type := by
  cases h with
  | @name v found kind =>
    refine iff_of_false (JavaExpr.not_creates_of_parts rfl nofun) ?_
    rintro ⟨f, hfound, function, -⟩
    cases found.symm.trans hfound
    simp [function] at kind
  | @invoke f arguments found kind lowered =>
    have hrelated := lowerAll_eq_ok_iff.1 lowered
    refine Iff.trans (creates_iff_parts nofun) ?_
    constructor
    · rintro ⟨a, ha, hcreates⟩
      obtain ⟨argument, hmem, hlower⟩ := exists_left_of_forall₂ hrelated ha
      exact ⟨f, found, kind, argument, hmem, (ih argument hmem a hlower).1 hcreates⟩
    · rintro ⟨_, -, -, argument, hmem, hobject⟩
      obtain ⟨a, ha, hlower⟩ := exists_right_of_forall₂ hrelated hmem
      exact ⟨a, ha, (ih argument hmem a hlower).2 hobject⟩

/-- A compiled statement creates the objects of the literals that were compiled with it. -/
theorem creates_lower_iff {e : JavaExpr} (h : t.lower s = .ok e) :
    e.Creates type ↔ t.Instantiates s type := by
  -- operators and calls create nothing themselves, so only literals count
  induction s using Statement.induction generalizing e with
  | h s ihOperands ihCalls =>
    cases hoperator : Operator.ofKind? s.kind with
    | some operator =>
      obtain ⟨harity, -, es, hes, hcombine⟩ := (lower_operator hoperator).1 h
      have hrelated := lowerAll_eq_ok_iff.1 hes
      rw [hrelated.length_eq] at harity
      rw [inherited_combine JavaExpr.inherited_creates harity hcombine,
        instantiates_operator_iff hoperator]
      constructor
      · rintro ⟨o, ho, hcreates⟩
        obtain ⟨operand, hmem, hlower⟩ := exists_left_of_forall₂ hrelated ho
        exact ⟨operand, hmem, (ihOperands operand hmem hlower).1 hcreates⟩
      · rintro ⟨operand, hmem, hobject⟩
        obtain ⟨o, ho, hlower⟩ := exists_right_of_forall₂ hrelated hmem
        exact ⟨o, ho, (ihOperands operand hmem hlower).2 hobject⟩
    | none =>
      by_cases hcall : s.kind = .call
      · obtain ⟨steps, hsteps, hchain⟩ := (lower_call hcall).1 h
        have hrelated := lowerCalls_eq_ok_iff.1 hsteps
        rw [creates_chainSteps_iff hchain, instantiates_call_iff hcall]
        constructor
        · rintro ⟨step, hstep, hcreates⟩
          obtain ⟨call, hmem, hto⟩ := exists_left_of_forall₂ hrelated hstep
          exact ⟨call, hmem, (hto.creates_iff fun argument hargument _ =>
            ihCalls call hmem argument hargument).1 hcreates⟩
        · rintro ⟨call, hmem, hobject⟩
          obtain ⟨step, hstep, hto⟩ := exists_right_of_forall₂ hrelated hmem
          exact ⟨step, hstep, (hto.creates_iff fun argument hargument _ =>
            ihCalls call hmem argument hargument).2 hobject⟩
      · rw [lower_literal hoperator hcall] at h
        obtain ⟨value, hvalue, hliteral⟩ := (lowerLiteral_eq_ok_iff hoperator hcall).1 h
        rw [instantiates_literal_iff hoperator hcall, hvalue, hliteral.creates_iff]

end SymbolTable

/-! ## What statements of a body create -/

namespace JavaStmt

/-- The expressions directly in a statement. -/
def exprs : JavaStmt → List JavaExpr
  | .expression e | .print e | .localVariable _ _ e | .ifElse e _ _ => [e]
  | .assign target value => [target, value]
  | .return value => value.toList
  | .readInput target _ fallback => [target, fallback]

/-- Somewhere in a list of statements, at any depth, an object of a type is created. -/
def Creates (type : JavaType) (body : List JavaStmt) : Prop :=
  ∃ s, Occurs s body ∧ ∃ e ∈ s.exprs, e.Creates type

variable {type : JavaType} {first : JavaStmt} {rest : List JavaStmt} {value : Option JavaExpr}

theorem not_creates_nil : ¬ Creates type [] := by
  rintro ⟨s, hoccurs, -⟩
  exact not_occurs_nil hoccurs

theorem creates_return_iff : Creates type [.return value] ↔ ∃ e ∈ value.toList, e.Creates type := by
  simp only [Creates, occurs_return_iff, exists_eq_left, exprs]

theorem creates_cons_iff (hplain : first.isPlain = true) :
    Creates type (first :: rest) ↔ (∃ e ∈ first.exprs, e.Creates type) ∨ Creates type rest := by
  simp only [Creates, occurs_plain_cons_iff hplain, or_and_right, exists_or, exists_eq_left]

theorem creates_append_iff {locals : List JavaStmt}
    (hlocals : ∀ s ∈ locals, s.isPlain = true) :
    Creates type (locals ++ rest)
      ↔ (∃ s ∈ locals, ∃ e ∈ s.exprs, e.Creates type) ∨ Creates type rest := by
  induction locals with
  | nil => simp
  | cons s others ih =>
    obtain ⟨hplain, hothers⟩ := List.forall_mem_cons.1 hlocals
    rw [List.cons_append, creates_cons_iff hplain, ih hothers, List.exists_mem_cons_iff, or_assoc]

end JavaStmt

/-! ## What bodies create -/

/-- The statement of a block is compiled, unless the block is a start or an input. -/
def Block.Compiles (b : Block) (s : Statement) : Prop :=
  b.kind ≠ .start ∧ b.kind ≠ .input ∧ b.statement? = some s

namespace FlowGraph

variable {g : FlowGraph} {b : Block} {type : JavaType}

/-- A block has a statement that is compiled, with a literal for an object of a type. -/
def Instantiates (g : FlowGraph) (b : Block) (type : JavaType) : Prop :=
  ∃ s, b.Compiles s ∧ g.table.Instantiates s type

theorem not_instantiates_start (kind : b.kind = .start) : ¬ g.Instantiates b type := by
  rintro ⟨s, ⟨hstart, -⟩, -⟩
  exact hstart kind

theorem not_instantiates_input (kind : b.kind = .input) : ¬ g.Instantiates b type := by
  rintro ⟨s, ⟨-, hinput, -⟩, -⟩
  exact hinput kind

theorem not_instantiates_none (hs : b.statement? = none) : ¬ g.Instantiates b type := by
  rintro ⟨s, ⟨-, -, hs'⟩, -⟩
  cases hs.symm.trans hs'

theorem instantiates_iff {s : Statement} {e : JavaExpr} (hstart : b.kind ≠ .start)
    (hinput : b.kind ≠ .input) (hs : b.statement? = some s) (hlower : g.table.lower s = .ok e) :
    g.Instantiates b type ↔ e.Creates type := by
  rw [SymbolTable.creates_lower_iff hlower]
  constructor
  · rintro ⟨s', ⟨-, -, hs'⟩, hobject⟩
    cases hs.symm.trans hs'
    exact hobject
  · exact fun hobject => ⟨s, ⟨hstart, hinput, hs⟩, hobject⟩

theorem instantiates_required_iff {e : JavaExpr} (hstart : b.kind ≠ .start)
    (hinput : b.kind ≠ .input) (required : g.requiredExpression b = .ok e) :
    g.Instantiates b type ↔ e.Creates type := by
  obtain ⟨s, hs, hlower⟩ := requiredExpression_eq_ok_iff.1 required
  exact instantiates_iff hstart hinput hs hlower

/-- What a block performs creates what its statement does. -/
theorem Acts.creates_iff {statement : JavaStmt} (h : g.Acts b statement) :
    (∃ e ∈ statement.exprs, e.Creates type) ↔ g.Instantiates b type := by
  cases h with
  | call kind value | output kind value =>
    rw [instantiates_required_iff (by simp [kind]) (by simp [kind]) value]
    simp [JavaStmt.exprs]
  | @assignment v e kind target value =>
    obtain ⟨n, hn⟩ := exists_assignmentTarget_eq g v e
    have hname : ¬ (JavaExpr.name n).Creates type := JavaExpr.not_creates_of_parts rfl nofun
    rw [instantiates_required_iff (by simp [kind]) (by simp [kind]) value]
    simp [JavaStmt.exprs, hn, hname]
  | input kind read =>
    obtain ⟨v, read, method, fallback, -, -, hmethod, hdefault, rfl⟩ :=
      readStatement_eq_ok_iff.1 read
    have hname : ¬ (JavaExpr.name v.reference).Creates type :=
      JavaExpr.not_creates_of_parts rfl nofun
    have hfallback : ¬ fallback.Creates type := by
      intro hcreates
      -- no class is read from input
      obtain ⟨-, C, rfl⟩ := (JavaType.creates_defaultValue_iff hdefault).1 hcreates
      cases hmethod
    exact iff_of_false (by simp [JavaStmt.exprs, hname, hfallback]) (not_instantiates_input kind)

theorem Returns.creates_iff {value : Option JavaExpr} (kind : b.kind = .stop)
    (h : g.Returns b value) : (∃ e ∈ value.toList, e.Creates type) ↔ g.Instantiates b type := by
  cases h with
  | nothing _ statement => exact iff_of_false (by simp) (not_instantiates_none statement)
  | value _ statement lowered =>
    rw [instantiates_iff (by simp [kind]) (by simp [kind]) statement lowered]
    simp

theorem reflects_creates :
    g.Reflects (fun s => ∃ e ∈ s.exprs, e.Creates type) (g.Instantiates · type) where
  start := not_instantiates_start
  acts := Acts.creates_iff
  returns := Returns.creates_iff
  decides {b condition _ _} kind condition_eq := by
    rw [instantiates_required_iff (by simp [kind]) (by simp [kind]) condition_eq]
    simp [JavaStmt.exprs]

end FlowGraph

namespace SymbolTable

variable {t : SymbolTable} {name : String} {type : JavaType}

/-- A statement is compiled with the function that has a full name: that of a block which can be
    reached from the start. -/
def Compiles (t : SymbolTable) (name : String) (s : Statement) : Prop :=
  ∃ g, FlowGraph.ofFunction t name = .ok g ∧ ∃ start b : g.Node, g.start = .ok start
    ∧ ReflTransGen FlowGraph.Edge start b ∧ b.val.Compiles s

/-- A compiled body creates what the statements that were compiled with it do. -/
theorem functionBody_creates_iff {root : Item} (ht : t.Lists root) {body : Body}
    (h : t.functionBody name = .ok body) :
    JavaStmt.Creates type body.statements
      ↔ ∃ s, t.Compiles name s ∧ t.Instantiates s type := by
  obtain ⟨g, hg, start, hstart, hwalked⟩ := FlowGraph.functionBody_eq_ok_iff.1 h
  have htable : g.table = t := by
    obtain ⟨htable, -⟩ := FlowGraph.ofFunction_eq_ok_iff.1 hg
    exact htable
  rw [JavaStmt.Creates,
    hwalked.exists_occurs_iff (FlowGraph.distinct_of_lists ht hg) FlowGraph.reflects_creates]
  constructor
  · rintro ⟨b, hreach, s, hcompiles, hobject⟩
    exact ⟨s, ⟨g, hg, start, b, hstart, hreach, hcompiles⟩, htable ▸ hobject⟩
  · rintro ⟨s, ⟨g', hg', start', b, hstart', hreach, hcompiles⟩, hobject⟩
    cases hg.symm.trans hg'
    cases hstart.symm.trans hstart'
    exact ⟨b, hreach, s, hcompiles, htable ▸ hobject⟩

end SymbolTable

end Flowchart
