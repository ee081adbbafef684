import Flowchart.Proofs.Documentation
import Flowchart.Proofs.Members
import Flowchart.Proofs.Returns

set_option autoImplicit false

/-! # Scanners

A class has the scanner exactly if it needs it. While a body is compiled, a flag tells whether an
input block has been met; it is set if and only if the compiled statements read input somewhere.
A class whose methods read input has the scanner as its first field, and no other field can be
called like it, since the name is reserved. -/

namespace Flowchart

/-! ## Statements that read input -/

namespace JavaStmt

/-- Somewhere in a list of statements, at any depth of its branches, input is read. -/
def ReadsInput (body : List JavaStmt) : Prop :=
  ∃ target method fallback, Occurs (.readInput target method fallback) body

variable {first : JavaStmt} {rest thenBranch : List JavaStmt} {condition : JavaExpr}
  {value : Option JavaExpr} {elseBranch? : Option (List JavaStmt)}

theorem not_readsInput_nil : ¬ ReadsInput [] := by
  rintro ⟨target, method, fallback, hoccurs⟩
  exact not_occurs_nil hoccurs

theorem not_readsInput_return : ¬ ReadsInput [.return value] := by
  rintro ⟨target, method, fallback, hoccurs⟩
  cases occurs_return_iff.1 hoccurs

theorem readsInput_cons_iff (hplain : first.isPlain = true) :
    ReadsInput (first :: rest)
      ↔ (∃ target method fallback, first = .readInput target method fallback)
        ∨ ReadsInput rest := by
  simp only [ReadsInput, occurs_plain_cons_iff hplain, exists_or, eq_comm]

theorem readsInput_ifElse_iff :
    ReadsInput [.ifElse condition thenBranch elseBranch?]
      ↔ ReadsInput thenBranch
        ∨ ∃ elseBranch, elseBranch? = some elseBranch ∧ ReadsInput elseBranch := by
  simp only [ReadsInput, occurs_ifElse_iff, reduceCtorEq, false_or, exists_or]
  refine or_congr_right ?_
  constructor
  · rintro ⟨target, method, fallback, elseBranch, hsome, hoccurs⟩
    exact ⟨elseBranch, hsome, target, method, fallback, hoccurs⟩
  · rintro ⟨elseBranch, hsome, target, method, fallback, hoccurs⟩
    exact ⟨target, method, fallback, elseBranch, hsome, hoccurs⟩

/-- Declaring locals reads no input. -/
theorem readsInput_append_iff {locals : List JavaStmt}
    (hlocals : ∀ s ∈ locals, ∃ type name initializer, s = .localVariable type name initializer) :
    ReadsInput (locals ++ rest) ↔ ReadsInput rest := by
  induction locals with
  | nil => rfl
  | cons s others ih =>
    obtain ⟨⟨type, name, initializer, rfl⟩, hothers⟩ := List.forall_mem_cons.1 hlocals
    rw [List.cons_append, readsInput_cons_iff rfl, ih hothers]
    simp

end JavaStmt

/-! ## The flag of a body -/

namespace FlowGraph

open JavaStmt (ReadsInput)

variable {g : FlowGraph}

/-- Of the blocks that go on, those with input read it. -/
theorem Acts.readInput_iff {b : Block} {statement : JavaStmt} (h : g.Acts b statement) :
    b.kind = .input ↔ ∃ target method fallback, statement = .readInput target method fallback := by
  cases h with
  | call kind => simp [kind]
  | assignment kind => simp [kind]
  | output kind => simp [kind]
  | input kind read =>
    obtain ⟨v, type, method, fallback, -, -, -, -, rfl⟩ := readStatement_eq_ok_iff.1 read
    simp [kind]

/-- The flag of a compiled body tells whether its statements read input. -/
theorem Walked.readsInput_iff {path : List Uuid} {node : g.Node} {body : Body}
    (h : Walked path node body) : body.readsInput = true ↔ ReadsInput body.statements := by
  induction h with
  | stop fresh kind result =>
    obtain ⟨value, rfl, -⟩ := returnStatement_eq_ok_iff.1 result
    simp [JavaStmt.not_readsInput_return]
  | step fresh not_stop not_decision head_eq next_eq walked ih =>
    rw [Bool.or_eq_true, ih, beq_iff_eq]
    rcases (head_eq_ok_iff not_stop not_decision).1 head_eq with
      ⟨kind, rfl⟩ | ⟨statement, rfl, acts⟩
    · simp [kind]
    · rw [acts.readInput_iff, Option.toList_some, List.singleton_append,
        JavaStmt.readsInput_cons_iff acts.isPlain]
  | both fresh kind condition_eq branches_eq thenWalked elseWalked ihThen ihElse =>
    rw [Bool.or_eq_true, ihThen, ihElse, JavaStmt.readsInput_ifElse_iff]
    simp
  | onlyRight fresh kind condition_eq branches_eq thenWalked ih =>
    rw [ih, JavaStmt.readsInput_ifElse_iff]
    simp
  | onlyLeft fresh kind condition_eq branches_eq elseWalked ih =>
    rw [ih, JavaStmt.readsInput_ifElse_iff]
    simp [JavaStmt.not_readsInput_nil]

end FlowGraph

theorem SymbolTable.functionBody_readsInput_iff {t : SymbolTable} {name : String} {body : Body}
    (h : t.functionBody name = .ok body) :
    body.readsInput = true ↔ JavaStmt.ReadsInput body.statements := by
  obtain ⟨g, -, start, -, hwalked⟩ := FlowGraph.functionBody_eq_ok_iff.1 h
  exact hwalked.readsInput_iff

/-! ## Names of units -/

/-- The names of all units can be declared. -/
theorem checkName_of_mem_units {root : Item} {includeComments : Bool} {l : Layout}
    (h : Layout.ofProject root includeComments = .ok l) {unit : DeclarationUnit}
    (hunit : unit ∈ l.units) : unit.item.checkName root.name = .ok () := by
  obtain ⟨-, id, -, rfl, -⟩ := Layout.ofProject_eq_ok h
  obtain ⟨s, hs, rfl⟩ := List.mem_map.1 hunit
  exact Layout.checkName_of_ofProject h (Item.mem_exposed_iff.1 (List.mem_filter.1 hs).1)

/-- The name of the scanner cannot be declared. -/
theorem Item.name_ne_scanner {item : Item} {project : String}
    (h : item.checkName project = .ok ()) : item.name ≠ "STDIN" := by
  rw [checkName] at h
  split at h
  · cases h
  · split at h
    · cases h
    · next hreserved =>
        intro hname
        exact hreserved (by rw [hname]; decide)

/-! ## Scanners of classes -/

/-- Some method of a class reads input. -/
def JavaClass.ReadsInput (c : JavaClass) : Prop := ∃ m ∈ c.methods, JavaStmt.ReadsInput m.body

/-- The field for the scanner. -/
structure JavaField.IsScanner (field : JavaField) : Prop where
  name_eq : field.name = "STDIN"
  modifiers_eq : field.modifiers = [.privateMember, .staticMember, .finalMember]
  type_eq : field.type = .class "java.util.Scanner"
  initializer_eq :
    field.initializer = .new (.class "java.util.Scanner") [.name "System.in"]

namespace Emitter

variable {e : Emitter} {unit : DeclarationUnit} {c : JavaClass}

/-- The method of a function reads input exactly if it says so. -/
theorem method_readsInput_iff {function : Item} {fullName : String} {isStatic : Bool}
    {result : JavaMethod × Bool} (h : e.method function fullName isStatic = .ok result) :
    result.2 = true ↔ JavaStmt.ReadsInput result.1.body := by
  obtain ⟨signature, body, hmethod, hreads⟩ := method_eq_ok h
  have hlocals : ∀ s ∈ signature.locals, ∃ type name initializer,
      s = .localVariable type name initializer := by
    intro s hs
    obtain ⟨child, -, type, initializer, -, rfl⟩ :=
      exists_left_of_forall₂ hmethod.signature_isOf.locals_forall₂ hs
    exact ⟨type, child.name, initializer, rfl⟩
  rw [hreads, SymbolTable.functionBody_readsInput_iff hmethod.functionBody_eq, hmethod.body_eq,
    JavaStmt.readsInput_append_iff hlocals]

/-- The method `main` reads no input. -/
theorem not_readsInput_entry {entry : List JavaMethod} (h : e.entryMethods unit = .ok entry)
    {m : JavaMethod} (hm : m ∈ entry) : ¬ JavaStmt.ReadsInput m.body := by
  rw [entryMethods] at h
  split at h
  · obtain ⟨main, hmain, h⟩ := bind_eq_ok.1 h
    cases pure_eq_ok.1 h
    obtain ⟨⟨⟩, -, hmain⟩ := bind_eq_ok.1 hmain
    obtain ⟨arguments, -, hmain⟩ := bind_eq_ok.1 hmain
    rw [List.mem_singleton.1 hm, ← pure_eq_ok.1 hmain, JavaStmt.readsInput_cons_iff rfl]
    simp [JavaStmt.not_readsInput_nil]
  · cases h
    cases hm

/-- The results for the functions of a unit say whether its class reads input. -/
theorem IsClassOf.readsInput_iff {fields : List JavaField} {results : List (JavaMethod × Bool)}
    {entry : List JavaMethod} (h : e.IsClassOf unit fields results entry c) :
    results.any Prod.snd = true ↔ c.ReadsInput := by
  have hresult : ∀ result ∈ results, (result.2 = true ↔ JavaStmt.ReadsInput result.1.body) := by
    intro result hresult
    obtain ⟨member, -, hmethod⟩ := exists_left_of_forall₂ h.results_forall₂ hresult
    exact method_readsInput_iff hmethod
  have hentry : ∀ m ∈ entry, ¬ JavaStmt.ReadsInput m.body := by
    intro m hm
    by_cases hkind : unit.item.kind = .function
    · exact not_readsInput_entry (h.entry_eq hkind) hm
    · rw [h.no_entry hkind] at hm
      cases hm
  rw [List.any_eq_true, JavaClass.ReadsInput, h.methods_eq]
  constructor
  · rintro ⟨result, hmem, hreads⟩
    exact ⟨result.1, List.mem_append_left _ (List.mem_map_of_mem hmem),
      (hresult result hmem).1 hreads⟩
  · rintro ⟨m, hm, hreads⟩
    rcases List.mem_append.1 hm with hm | hm
    · obtain ⟨result, hmem, rfl⟩ := List.mem_map.1 hm
      exact ⟨result, hmem, (hresult result hmem).2 hreads⟩
    · exact absurd hreads (hentry m hm)

/-- No field for a variable is called like the scanner. -/
theorem IsClassOf.name_ne_scanner {fields : List JavaField} {results : List (JavaMethod × Bool)}
    {entry : List JavaMethod} (h : e.IsClassOf unit fields results entry c) {project : String}
    (hunit : unit.item.checkName project = .ok ()) {field : JavaField} (hfield : field ∈ fields) :
    field.name ≠ "STDIN" := by
  obtain ⟨⟨item, fullName⟩, hmember, hmade⟩ := exists_left_of_forall₂ h.fields_forall₂ hfield
  obtain ⟨type, initializer, -, rfl⟩ := field_eq_ok_iff.1 hmade
  obtain ⟨-, ⟨hclass, hchild, -⟩ | ⟨-, hself⟩⟩ := DeclarationUnit.mem_membersOfKind_iff.1 hmember
  · exact Item.name_ne_scanner (h.checked hclass item hchild)
  · cases hself
    exact Item.name_ne_scanner hunit

end Emitter

/-- The scanner of a class: the first field and the only one of its name if the class reads input,
    and otherwise there is none. -/
structure JavaClass.HasScannerIfUsed (c : JavaClass) : Prop where
  used : c.ReadsInput → ∃ field, c.fields.head? = some field ∧ field.IsScanner
    ∧ c.fields.filter (·.name = "STDIN") = [field]
  unused : ¬ c.ReadsInput → ∀ field ∈ c.fields, field.name ≠ "STDIN"

namespace Emitter

variable {e : Emitter} {unit : DeclarationUnit} {c : JavaClass}

theorem isScanner_scannerField : scannerField.IsScanner := ⟨rfl, rfl, rfl, rfl⟩

theorem isScanner_of_mem {readsInput : Bool} {field : JavaField}
    (h : field ∈ scannerFields readsInput) : field.IsScanner := by
  cases readsInput with
  | true =>
    rw [List.mem_singleton.1 h]
    exact isScanner_scannerField
  | false => cases h

theorem hasScannerIfUsed {project : String} (hunit : unit.item.checkName project = .ok ())
    (h : e.publicClass unit = .ok c) : c.HasScannerIfUsed := by
  obtain ⟨fields, results, entry, hclass⟩ := publicClass_eq_ok h
  have hnames : ∀ field ∈ fields, field.name ≠ "STDIN" :=
    fun field hfield => hclass.name_ne_scanner hunit hfield
  constructor
  · intro hreads
    have hfields := hclass.fields_eq
    rw [hclass.readsInput_iff.2 hreads] at hfields
    refine ⟨scannerField, by rw [hfields]; rfl, isScanner_scannerField, ?_⟩
    have hothers : fields.filter (·.name = "STDIN") = [] := by
      simpa [List.filter_eq_nil_iff] using hnames
    rw [hfields, List.filter_append, hothers]
    rfl
  · intro hreads
    have hfields := hclass.fields_eq
    rw [Bool.eq_false_iff.2 (mt hclass.readsInput_iff.1 hreads)] at hfields
    rw [hfields]
    exact hnames

/-- The flag of a body tells whether it reads input, and the class of a unit has the scanner exactly
    if one of its methods does. -/
theorem emit_scanner :
    (∀ (t : SymbolTable) (name : String) (body : Body), t.functionBody name = .ok body →
      (body.readsInput = true ↔ JavaStmt.ReadsInput body.statements))
    ∧ ∀ (e : Emitter) (root : Item) (includeComments : Bool) (l : Layout),
      Layout.ofProject root includeComments = .ok l →
      ∀ unit ∈ l.units, ∀ file, e.emit unit = .ok file →
        ∃ c, e.publicClass unit = .ok c ∧ file = unit.file c ∧ c.HasScannerIfUsed := by
  refine ⟨fun t name body h => t.functionBody_readsInput_iff h, ?_⟩
  intro e root includeComments l hl unit hunit file hfile
  obtain ⟨c, hclass, rfl⟩ := emit_eq_ok_iff.1 hfile
  exact ⟨c, hclass, rfl, hasScannerIfUsed (checkName_of_mem_units hl hunit) hclass⟩

end Emitter

/-! ## Input in a branch -/

/-- A method that reads a number into a field, unless its condition fails. -/
def surveyAsk : Item where
  name := "ask"
  kind := .function
  returnType := some "VOID"
  blocks := [
    { id := .ofNat 1, kind := .start, content := none
      connections := { bottom := some [⟨.ofNat 2, .top⟩] } },
    { id := .ofNat 2, kind := .decision, content := some ⟨some (.boolean true), none⟩
      connections := { right := some [⟨.ofNat 3, .top⟩], left := some [⟨.ofNat 4, .top⟩] } },
    { id := .ofNat 3, kind := .input, content := some ⟨none, some "Demo.Survey.answer"⟩
      connections := { bottom := some [⟨.ofNat 4, .top⟩] } },
    { id := .ofNat 4, kind := .stop, content := none, connections := {} }]

/-- A project with the class of the field and the method. -/
def survey : Item where
  name := "Demo"
  kind := .project
  id := some (.ofNat 7)
  children := [{
    name := "Survey"
    kind := .classItem
    children := [
      { name := "answer", kind := .«variable», typeName := some "NUMBER" }, surveyAsk] }]

/-- The table of the project. -/
def surveyTable : SymbolTable where
  symbols := survey.symbols "" none
  blocks := (survey.symbols "" none).flatMap Symbol.ownedBlocks

/-- The reading of the number. -/
def surveyInput : JavaStmt := .readInput (.name "answer") "nextDouble" (.number .zero)

/-- The unit of the class. -/
def surveyUnit : DeclarationUnit where
  item := survey.children[0]
  fullName := "Demo.Survey"
  package := "Demo"
  directory := ⟨"Demo"⟩

theorem survey_layout :
    ∃ l, Layout.ofProject survey true = .ok l ∧ l.units = [surveyUnit] := by
  have hlays : ∃ l, Layout.ofProject survey true = .ok l := exists_eq_ok (by decide +kernel)
  obtain ⟨l, hl⟩ := hlays
  obtain ⟨-, id, -, hunits, -⟩ := Layout.ofProject_eq_ok hl
  refine ⟨l, hl, ?_⟩
  rw [hunits]
  with_unfolding_all rfl

/-- The class that the unit becomes. -/
def surveyClass : JavaClass where
  doc := []
  name := "Survey"
  fields := [Emitter.scannerField, ⟨[], [.publicMember], .double, "answer", .number .zero⟩]
  methods := [⟨[], [.publicMember], .void, "ask", [],
    [.ifElse (.boolean true) [surveyInput, .return none] (some [.return none])]⟩]

theorem survey_publicClass :
    Emitter.publicClass ⟨surveyTable, {}⟩ surveyUnit = .ok surveyClass := by
  with_unfolding_all rfl

theorem survey_readsInput : surveyClass.ReadsInput :=
  ⟨_, List.mem_singleton_self _, _, _, _,
    .inThen (List.mem_singleton_self _) (.here List.mem_cons_self)⟩

/-- The class reads input in a branch, so it has the scanner in front of its own field. -/
theorem survey_scanner :
    surveyClass.ReadsInput ∧ (∃ file, Emitter.emit ⟨surveyTable, {}⟩ surveyUnit = .ok file)
      ∧ ∃ field, surveyClass.fields.head? = some field ∧ field.IsScanner
        ∧ surveyClass.fields.filter (·.name = "STDIN") = [field] := by
  obtain ⟨l, hl, hunits⟩ := survey_layout
  have hemits : ∃ file, Emitter.emit ⟨surveyTable, {}⟩ surveyUnit = .ok file :=
    exists_eq_ok (by decide +kernel)
  obtain ⟨file, hfile⟩ := hemits
  obtain ⟨c, hclass, -, hscanner⟩ := Emitter.emit_scanner.2 ⟨surveyTable, {}⟩ survey true l
    hl surveyUnit (by rw [hunits]; exact List.mem_singleton_self _) file hfile
  rw [survey_publicClass] at hclass
  cases hclass
  exact ⟨survey_readsInput, ⟨file, hfile⟩, hscanner.used survey_readsInput⟩

end Flowchart
