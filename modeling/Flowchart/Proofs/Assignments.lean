import Flowchart.Proofs.Acceptance
import Flowchart.Proofs.Readability
import Flowchart.Proofs.Returns
import Flowchart.Proofs.Scope

set_option autoImplicit false

/-! # What assignments write to

The text on the left-hand side of an assignment, read by the scoping rules of Java: a simple name
means a parameter or local, or else a field of the class around the method, `this` always leads to
the field, and a dotted name leads to a static member unless something hides its first name. If the
names of a project can be declared, that text means the very variable that the block names. -/

namespace Flowchart

open Relation (ReflTransGen)

/-! ## Names of a project -/

/-- The first name of everything in a project is that of the project. -/
theorem SymbolTable.Named.project_fullName {t : SymbolTable} {root : Item} (hnamed : t.Named)
    (ht : t.Lists root) {s : Symbol} (hs : s ∈ t.symbols) :
    FullName.project s.fullName = root.name := by
  refine ht.induction (P := fun s => FullName.project s.fullName = root.name) ?_ ?_ hs
  · exact FullName.project_eq_self (Java.dot_not_mem (hnamed _ ht.root_mem))
  · intro outer houter ih s hchild
    rw [hchild.fullName_eq, FullName.project_join (hnamed.fullName_ne_empty ht houter), ih]

/-- No expression that can be read back starts with the keyword `this`. -/
theorem JavaExpr.Legible.render_ne_this {e : JavaExpr} (h : e.Legible) (n : String) :
    e.render ≠ "this." ++ n := by
  intro heq
  have htext : e.render.toList = "this".toList ++ '.' :: n.toList := by
    rw [heq, String.toList_append]
    rfl
  have hhead : e.render.toList.head? = some 't' := by
    rw [htext]
    rfl
  cases h with
  | number d =>
    obtain ⟨c, hc, hother⟩ := Reader.head_number d
    cases hc.symm.trans hhead
    revert hother
    decide
  | boolean b => cases b <;> simp [Java.booleanLiteral] at htext
  | text s => simp [Java.stringLiteral] at hhead
  | @path steps ne_nil declarable =>
    obtain ⟨s, steps, rfl⟩ := List.exists_cons_of_ne_nil ne_nil
    obtain ⟨tail, hrender, htail⟩ := Reader.toList_render_path s steps
    have hname := declarable s List.mem_cons_self
    -- the first word of the text is a declared name, and no keyword
    have hwords : Reader.word ("this".toList ++ '.' :: n.toList)
        = Reader.word (s.name.toList ++ tail) := by
      rw [← htext, hrender]
    rw [Reader.word_append (by decide) (by simp; decide),
      Reader.word_append hname.all_isPart htail] at hwords
    exact Java.not_mem_keywords hname.isIdentifier ((Prod.mk.inj hwords).1 ▸ by decide)
  | new | stringOf | objectsEqual | operation | not | length | group => simp at hhead

namespace FlowGraph

variable {g : FlowGraph} {root : Item} {v : Symbol} {n : String} {value : JavaExpr}

/-! ## What a text means -/

/-- What the text of a name or a field means in the method of the function. -/
inductive Denotes (g : FlowGraph) (n : String) (v : Symbol) : Prop
  /-- A simple name means a parameter or local, or else a field. -/
  | simple (plain : IsPlain n) (scope : g.scope n = some v)
  /-- Behind `this` there is always a field. -/
  | field {name : String} {c : Symbol} (eq : n = "this." ++ name)
      (enclosing : g.enclosingClass? = some c) (declared : c.declared? name = some v)
  /-- A static member is in the class of its own name, unless the first name means a variable. -/
  | member (eq : n = v.fullName ++ "." ++ v.item.name) (mem : v ∈ g.table.symbols)
      (isStatic : v.isStatic = true) (visible : g.scope (FullName.project v.fullName) = none)

section

variable (ht : g.table.Lists root) (hnamed : g.table.Named)

include ht hnamed

theorem this_ne_member (hv : v ∈ g.table.symbols) (name : String) :
    "this." ++ name ≠ v.fullName ++ "." ++ v.item.name := by
  intro heq
  have hproject := congrArg FullName.project heq
  rw [FullName.project_append, hnamed.project_fullName ht hv] at hproject
  have hthis : FullName.project ("this." ++ name) = "this" := FullName.project_append "this" name
  have hkeyword : root.name ∈ Java.keywords := by
    rw [← hproject, hthis]
    decide
  exact Java.not_mem_keywords (hnamed _ ht.root_mem) hkeyword

/-- No text means two variables. -/
theorem Denotes.unique {w : Symbol} (hv : g.Denotes n v) (hw : g.Denotes n w) : v = w := by
  have hthis : ∀ name, ¬ IsPlain ("this." ++ name) := fun name => by simp [IsPlain]
  have hdotted : ∀ outer name : String, ¬ IsPlain (outer ++ "." ++ name) := fun outer name => by
    simp [IsPlain]
  cases hv with
  | simple plain scope =>
    cases hw with
    | simple _ scope' => exact Option.some.inj (scope.symm.trans scope')
    | field eq => exact absurd (eq ▸ plain) (hthis _)
    | member eq => exact absurd (eq ▸ plain) (hdotted _ _)
  | field eq enclosing declared =>
    cases hw with
    | simple plain => exact absurd (eq ▸ plain) (hthis _)
    | field eq' enclosing' declared' =>
      cases (String.append_right_inj _).1 (eq.symm.trans eq')
      cases enclosing.symm.trans enclosing'
      exact Option.some.inj (declared.symm.trans declared')
    | member eq' mem => exact absurd (eq.symm.trans eq') (this_ne_member ht hnamed mem _)
  | member eq mem =>
    cases hw with
    | simple plain => exact absurd (eq ▸ plain) (hdotted _ _)
    | field eq' => exact absurd (eq'.symm.trans eq) (this_ne_member ht hnamed mem _)
    | member eq' mem' =>
      -- the full name is what stands before the last dot
      have hparent : ∀ {s : Symbol}, s ∈ g.table.symbols →
          FullName.parent (s.fullName ++ "." ++ s.item.name) = s.fullName := by
        intro s hs
        have hne := hnamed.fullName_ne_empty ht hs
        rw [← FullName.join_of_ne s.item.name hne]
        exact FullName.parent_join hne (Java.dot_not_mem (hnamed s hs))
      refine ht.symbol_unique mem mem' ?_
      rw [← hparent mem, ← hparent mem', ← eq, ← eq']

end

/-! ## The targets of assignments -/

/-- What is declared inside a class or function is not static. -/
theorem isStatic_eq_false {outer : Symbol} (hchild : v.IsChild outer)
    (hkind : outer.item.kind.isNamespace = false) : v.isStatic = false := by
  simp [Symbol.isStatic, hchild.parentKind_eq, hkind]

/-- Static members are written by their full names. -/
theorem assignmentTarget_static (hstatic : v.isStatic = true) :
    g.assignmentTarget v value = .name (v.fullName ++ "." ++ v.item.name) := by
  have hown : g.isOwnField v = false := by
    rw [isOwnField, Bool.and_eq_false_iff, Bool.and_eq_false_iff, beq_eq_false_iff_ne]
    refine Or.inl (Or.inl fun hparent => ?_)
    simp [Symbol.isStatic, hparent, ItemKind.isNamespace] at hstatic
  simp [assignmentTarget, hown, Symbol.reference, hstatic]

/-- Parameters and locals are written by their simple names. -/
theorem assignmentTarget_local (hf : g.function.item.kind = .function)
    (hchild : v.IsChild g.function) : g.assignmentTarget v value = .name v.item.name := by
  have hstatic : v.isStatic = false := isStatic_eq_false hchild (by rw [hf]; rfl)
  have hown : g.isOwnField v = false := by
    rw [isOwnField, hchild.parentKind_eq, hf]
    rfl
  simp [assignmentTarget, hown, Symbol.reference, hstatic]

section

variable (ht : g.table.Lists root) (hnamed : g.table.Named) (hf : g.function ∈ g.table.symbols)
  (hv : v ∈ g.table.symbols)

include ht hnamed hf hv

/-- Fields are written by their simple names, or through `this` if those are taken or would be on
    both sides. -/
theorem assignmentTarget_field (hin : g.InClass v) :
    g.assignmentTarget v value = .name (if g.isHidden v = true ∨ value.render = v.item.name
      then "this." ++ v.item.name else v.item.name) := by
  have hown := (isOwnField_iff ht hnamed hf hv).2 hin
  obtain ⟨c, -, hclass, -, hchild⟩ := hin
  have hstatic : v.isStatic = false := isStatic_eq_false hchild (by rw [hclass]; rfl)
  simp only [assignmentTarget, hown, Symbol.reference, hstatic, Bool.true_and, Bool.or_eq_true,
    beq_iff_eq, Bool.false_eq_true, if_false]
  split
  · rfl
  · rfl

theorem denotes_field (hkind : v.item.kind.isAssignable = true) (hin : g.InClass v)
    (heq : g.assignmentTarget v value = .name n) : g.Denotes n v := by
  rw [assignmentTarget_field ht hnamed hf hv hin, JavaExpr.name.injEq] at heq
  split at heq
  · obtain ⟨c, hc, hclass, hmethod, hchild⟩ := hin
    refine .field heq.symm ((enclosingClass?_eq_some_iff ht hnamed hf).2 ⟨hc, hclass, hmethod⟩) ?_
    exact (Symbol.declared?_eq_some_iff ht hc).2 ⟨hchild, hkind, rfl⟩
  · next hvisible =>
    rw [not_or, Bool.not_eq_true] at hvisible
    subst heq
    refine .simple (Java.dot_not_mem (hnamed v hv)) ?_
    exact (scope_eq_some_iff ht hnamed hf hkind).2
      (Or.inr ⟨hin, not_hides_of_isHidden hvisible.1⟩)

theorem denotes_local (hfkind : g.function.item.kind = .function)
    (hkind : v.item.kind.isAssignable = true) (hchild : v.IsChild g.function)
    (heq : g.assignmentTarget v value = .name n) : g.Denotes n v := by
  rw [assignmentTarget_local hfkind hchild, JavaExpr.name.injEq] at heq
  subst heq
  refine .simple (Java.dot_not_mem (hnamed v hv)) ?_
  exact (scope_eq_some_iff ht hnamed hf hkind).2 (Or.inl hchild)

end

end FlowGraph

/-- All items can be declared in the project. -/
def SymbolTable.Checked (t : SymbolTable) (root : Item) : Prop :=
  ∀ s ∈ t.symbols, s.item.checkName root.name = .ok ()

namespace SymbolTable.Checked

variable {t : SymbolTable} {root : Item} (h : t.Checked root)

include h

theorem named : t.Named := fun s hs => Item.isIdentifier_of_checkName (h s hs)

theorem declarable : t.Declarable := fun s hs => Item.declarable_of_checkName (h s hs)

/-- No symbol declares a variable with the name of the project. -/
theorem declared?_eq_none (ht : t.Lists root) {owner : Symbol} (howner : owner ∈ t.symbols) :
    owner.declared? root.name = none := by
  rw [Option.eq_none_iff_forall_ne_some]
  intro w hw
  obtain ⟨hchild, hkind, hname⟩ := (Symbol.declared?_eq_some_iff ht howner).1 hw
  refine Item.name_ne_of_checkName (h w (ht.mem_of_isChild howner hchild)) ?_ hname
  intro hproject
  rw [hproject] at hkind
  cases hkind

end SymbolTable.Checked

namespace FlowGraph

variable {g : FlowGraph} {root : Item} {v : Symbol} {n : String} {value : JavaExpr}

theorem denotes_static (ht : g.table.Lists root) (hnames : g.table.Checked root)
    (hf : g.function ∈ g.table.symbols) (hv : v ∈ g.table.symbols) (hstatic : v.isStatic = true)
    (heq : g.assignmentTarget v value = .name n) : g.Denotes n v := by
  rw [assignmentTarget_static hstatic, JavaExpr.name.injEq] at heq
  refine .member heq.symm hv hstatic ?_
  rw [hnames.named.project_fullName ht hv, scope, hnames.declared?_eq_none ht hf]
  show g.enclosingClass?.bind (·.declared? root.name) = none
  rw [Option.bind_eq_none_iff]
  intro c hc
  obtain ⟨hmem, -, -⟩ := (enclosingClass?_eq_some_iff ht hnames.named hf).1 hc
  exact hnames.declared?_eq_none ht hmem

/-- What an assignment of a value has on its left-hand side for a variable. If the method can get at
    the variable, the text means it and nothing else. -/
structure Addresses (g : FlowGraph) (v : Symbol) (value : JavaExpr) (n : String) : Prop where
  denotes_iff : v.isStatic = true ∨ v.IsChild g.function ∨ g.InClass v →
    ∀ w, g.Denotes n w ↔ w = v
  static_eq : v.isStatic = true → n = v.fullName ++ "." ++ v.item.name
  local_eq : v.IsChild g.function → n = v.item.name
  hidden_eq : g.InClass v → (∃ child ∈ g.function.item.children, child.name = v.item.name) →
    n = "this." ++ v.item.name
  ne_value : g.InClass v → n ≠ value.render

theorem addresses_assignmentTarget (ht : g.table.Lists root) (hnames : g.table.Checked root)
    (hf : g.function ∈ g.table.symbols) (hfkind : g.function.item.kind = .function)
    (hv : v ∈ g.table.symbols) (hkind : v.item.kind.isAssignable = true) {s : Statement}
    (hvalue : g.table.lower s = .ok value) (heq : g.assignmentTarget v value = .name n) :
    g.Addresses v value n where
  denotes_iff hown w := by
    have hdenotes : g.Denotes n v := by
      rcases hown with hstatic | hchild | hin
      · exact denotes_static ht hnames hf hv hstatic heq
      · exact denotes_local ht hnames.named hf hv hfkind hkind hchild heq
      · exact denotes_field ht hnames.named hf hv hkind hin heq
    constructor
    · exact fun hw => hw.unique ht hnames.named hdenotes
    · rintro rfl
      exact hdenotes
  static_eq hstatic := by
    rw [assignmentTarget_static hstatic, JavaExpr.name.injEq] at heq
    exact heq.symm
  local_eq hchild := by
    rw [assignmentTarget_local hfkind hchild, JavaExpr.name.injEq] at heq
    exact heq.symm
  hidden_eq hin := by
    rintro ⟨child, hmem, hname⟩
    have hhidden : g.isHidden v = true :=
      List.any_eq_true.2 ⟨child, hmem, beq_iff_eq.2 hname⟩
    rw [assignmentTarget_field ht hnames.named hf hv hin, if_pos (Or.inl hhidden),
      JavaExpr.name.injEq] at heq
    exact heq.symm
  ne_value hin := by
    rw [assignmentTarget_field ht hnames.named hf hv hin, JavaExpr.name.injEq] at heq
    have hclear := (SymbolTable.clear_lower hnames.declarable ht hvalue).1
    have hthis := hclear.legible.render_ne_this v.item.name
    rw [hclear.render_eq] at hthis
    split at heq
    · rw [← heq]
      exact hthis.symm
    · next hdiffers =>
      rw [← heq]
      exact fun hsame => hdiffers (Or.inr hsame.symm)

/-! ## The assignments of a body -/

/-- What the compiler makes of an assignment block. -/
def Assigns (g : FlowGraph) (b : Block) (target value : JavaExpr) : Prop :=
  b.kind = .assignment ∧ g.head b = .ok (some (.assign target value))

theorem Acts.assigns_iff {b : Block} {statement : JavaStmt} (h : g.Acts b statement)
    {target value : JavaExpr} : g.Assigns b target value ↔ .assign target value = statement := by
  obtain ⟨-, hstop, hdecision⟩ := h.kind_ne
  have hhead := (head_eq_ok_iff hstop hdecision).2 (Or.inr ⟨statement, rfl, h⟩)
  rw [Assigns, hhead, Except.ok.injEq, Option.some_inj]
  constructor
  · exact fun hassigns => hassigns.2.symm
  · rintro rfl
    refine ⟨?_, rfl⟩
    cases h with
    | assignment kind => exact kind
    | input _ read =>
      obtain ⟨v, type, method, fallback, -, -, -, -, heq⟩ := readStatement_eq_ok_iff.1 read
      cases heq

theorem reflects_assigns {target value : JavaExpr} :
    g.Reflects (.assign target value = ·) (g.Assigns · target value) where
  start kind hassigns := by simp [kind, Assigns] at hassigns
  acts h := h.assigns_iff.symm
  returns kind _ := by simp [kind, Assigns]
  decides kind _ := by simp [kind, Assigns]

/-- The assignments in a compiled body are those of the assignment blocks behind it. -/
theorem Walked.occurs_assign_iff (hg : g.Distinct) {path : List Uuid} {node : g.Node} {body : Body}
    (h : Walked path node body) {target value : JavaExpr} :
    (JavaStmt.assign target value).Occurs body.statements
      ↔ ∃ b : g.Node, ReflTransGen Edge node b ∧ g.Assigns b.val target value := by
  rw [← h.exists_occurs_iff hg reflects_assigns]
  simp

/-- Every assignment that is compiled has, on its left-hand side, the text that means the variable
    which its block names, and the assignments of a body come from the blocks behind its start. -/
theorem functionBody_assigns {t : SymbolTable} (ht : SymbolTable.build root = .ok t)
    (hnames : t.Checked root) {name : String} (hg : ofFunction t name = .ok g) :
    (∀ b ∈ g.blocks, b.kind = .assignment → ∀ head, g.head b = .ok head →
      ∃ v value n, g.Writes b v ∧ g.requiredExpression b = .ok value
        ∧ head = some (.assign (.name n) value) ∧ g.Addresses v value n)
    ∧ ∀ body, t.functionBody name = .ok body →
      ∃ start : g.Node, g.blocks.filter (·.kind = .start) = [start.val]
        ∧ ∀ target value, (JavaStmt.assign target value).Occurs body.statements
          ↔ ∃ b : g.Node, ReflTransGen Edge start b ∧ g.Assigns b.val target value := by
  have hlists := SymbolTable.build_eq_ok_iff.1 ht
  have hdistinct := distinct_of_lists hlists hg
  constructor
  · obtain ⟨rfl, hfind, hfkind, -⟩ := ofFunction_eq_ok_iff.1 hg
    have hf := (hlists.find?_eq_some_iff.1 hfind).1
    intro b _ kind head hhead
    rcases (head_eq_ok_iff (by simp [kind]) (by simp [kind])).1 hhead with
      ⟨hstart, -⟩ | ⟨statement, rfl, acts⟩
    · simp [kind] at hstart
    · cases acts with
      | @assignment v value _ target required =>
        obtain ⟨n, hn⟩ := exists_assignmentTarget_eq g v value
        obtain ⟨_, -, hfound, hkind⟩ := assigned_eq_ok_iff.1 target
        obtain ⟨s, -, hlower⟩ := requiredExpression_eq_ok_iff.1 required
        refine ⟨v, value, n, writes_iff.2 target, required, by rw [hn], ?_⟩
        exact addresses_assignmentTarget hlists hnames hf hfkind
          (hlists.find?_eq_some_iff.1 hfound).1 (ItemKind.isAssignable_iff.2 hkind) hlower hn
      | call other | input other | output other => simp [kind] at other
  · intro body hbody
    obtain ⟨g', hg', start, hstart, hwalked⟩ := functionBody_eq_ok_iff.1 hbody
    cases hg.symm.trans hg'
    exact ⟨start, start_eq_ok_iff.1 hstart, fun _ _ => hwalked.occurs_assign_iff hdistinct⟩

end FlowGraph

/-! ## A field behind a parameter -/

/-- A method that sets a field of its class to a parameter of the same name. -/
def setterMethod : Item where
  name := "set"
  kind := .function
  returnType := some "VOID"
  children := [{ name := "value", kind := .parameter, typeName := some "NUMBER" }]
  blocks := [
    { id := .ofNat 1, kind := .start, content := none
      connections := { bottom := some [⟨.ofNat 2, .top⟩] } },
    { id := .ofNat 2, kind := .assignment
      content := some ⟨some (.call [⟨"Demo.Counter.set.value", []⟩]), some "Demo.Counter.value"⟩
      connections := { bottom := some [⟨.ofNat 3, .top⟩] } },
    { id := .ofNat 3, kind := .stop, content := none, connections := {} }]

/-- The field. -/
def setterField : Item := { name := "value", kind := .«variable», typeName := some "NUMBER" }

/-- A project with the method. -/
def setter : Item where
  name := "Demo"
  kind := .project
  children := [
    { name := "Counter", kind := .classItem, children := [setterField, setterMethod] }]

/-- The table of the project. -/
def setterTable : SymbolTable where
  symbols := setter.symbols "" none
  blocks := (setter.symbols "" none).flatMap Symbol.ownedBlocks

/-- The graph of the method. -/
def setterGraph : FlowGraph where
  table := setterTable
  function := ⟨setterMethod, "Demo.Counter.set", some .classItem⟩
  returnType := .void

theorem setter_build : SymbolTable.build setter = .ok setterTable := rfl

theorem setter_checked : setterTable.Checked setter := by
  have hall : (setterTable.symbols.all fun s =>
      (s.item.checkName setter.name).toOption.isSome) = true := by decide +kernel
  intro s hs
  obtain ⟨⟨⟩, h⟩ := exists_eq_ok (List.all_eq_true.1 hall s hs)
  exact h

theorem setter_ofFunction :
    FlowGraph.ofFunction setterTable "Demo.Counter.set" = .ok setterGraph := by
  cbv

/-- The left-hand side means the field, and the right-hand side the parameter. -/
theorem setter_assigns :
    ∃ v : Symbol, v.fullName = "Demo.Counter.value"
      ∧ setterGraph.Addresses v (.name "value") "this.value" := by
  let assignment : Block := setterMethod.blocks[1]
  have hmem : assignment ∈ setterGraph.blocks := List.mem_cons_of_mem _ List.mem_cons_self
  have hhead : setterGraph.head assignment
      = .ok (some (.assign (.name "this.value") (.name "value"))) := rfl
  obtain ⟨v, value, n, ⟨target, htarget, hfound, -⟩, -, heq, haddresses⟩ :=
    (FlowGraph.functionBody_assigns setter_build setter_checked setter_ofFunction).1
      assignment hmem rfl _ hhead
  cases heq
  cases htarget
  have hlists := SymbolTable.build_eq_ok_iff.1 setter_build
  exact ⟨v, (hlists.find?_eq_some_iff.1 hfound).2, haddresses⟩

end Flowchart
