import Flowchart.Proofs.Execution

set_option autoImplicit false

/-! # Where bodies return

Every list of statements in a compiled body ends with a return or a branch and has neither of them
before its end, so nothing stands behind a return or a branch. In a function that returns nothing
all returns are bare. In a function that returns a value all returns have one and all branches have
two sides, so no run gets to the end of the body without a value. -/

namespace Flowchart

open Relation (ReflTransGen)

universe u

/-! ## Statements of a body -/

namespace JavaStmt

/-- Statements that neither return nor branch. -/
def isPlain : JavaStmt → Bool
  | .return _ | .ifElse _ _ _ => false
  | _ => true

/-- Plain statements, and a single return or branch behind them. -/
def EndsOnce (body : List JavaStmt) : Prop :=
  ∃ before last, body = before ++ [last] ∧ (∀ s ∈ before, s.isPlain = true) ∧ last.isPlain = false

/-- A statement stands in a body, or in a branch of one that does. -/
inductive Occurs (s : JavaStmt) : List JavaStmt → Prop
  | here {body : List JavaStmt} (mem : s ∈ body) : Occurs s body
  | inThen {body thenBranch : List JavaStmt} {condition : JavaExpr}
      {elseBranch? : Option (List JavaStmt)}
      (mem : .ifElse condition thenBranch elseBranch? ∈ body) (inside : Occurs s thenBranch) :
      Occurs s body
  | inElse {body thenBranch elseBranch : List JavaStmt} {condition : JavaExpr}
      (mem : .ifElse condition thenBranch (some elseBranch) ∈ body)
      (inside : Occurs s elseBranch) : Occurs s body

/-- Where a body returns, depending on whether its function returns nothing. -/
structure Disciplined (void : Prop) (body : List JavaStmt) : Prop where
  endsOnce : EndsOnce body
  /-- Of the lists inside, only the first branch of two can be empty, and only if nothing is
      returned. -/
  thenBranch : ∀ condition thenBranch elseBranch?,
    Occurs (.ifElse condition thenBranch elseBranch?) body →
    EndsOnce thenBranch ∨ thenBranch = [] ∧ elseBranch?.isSome ∧ void
  elseBranch : ∀ condition thenBranch elseBranch,
    Occurs (.ifElse condition thenBranch (some elseBranch)) body → EndsOnce elseBranch
  bare : void → ∀ value, Occurs (.return value) body → value = none
  valued : ¬ void → ∀ value, Occurs (.return value) body → value.isSome
  twoSided : ¬ void → ∀ condition thenBranch elseBranch?,
    Occurs (.ifElse condition thenBranch elseBranch?) body →
    thenBranch ≠ [] ∧ ∃ elseBranch, elseBranch? = some elseBranch ∧ elseBranch ≠ []

variable {s first : JavaStmt} {rest thenBranch : List JavaStmt} {condition : JavaExpr}
  {value : Option JavaExpr} {elseBranch? : Option (List JavaStmt)} {void : Prop}

/-! ## What occurs in a list -/

theorem not_occurs_nil : ¬ Occurs s [] := by
  intro h
  cases h with
  | here mem => cases mem
  | inThen mem => cases mem
  | inElse mem => cases mem

theorem occurs_return_iff : Occurs s [.return value] ↔ s = .return value := by
  constructor
  · intro h
    cases h with
    | here mem => exact List.mem_singleton.1 mem
    | inThen mem => cases List.mem_singleton.1 mem
    | inElse mem => cases List.mem_singleton.1 mem
  · rintro rfl
    exact .here (List.mem_singleton_self _)

theorem occurs_plain_cons_iff (hplain : first.isPlain = true) :
    Occurs s (first :: rest) ↔ s = first ∨ Occurs s rest := by
  constructor
  · intro h
    cases h with
    | here mem => exact (List.mem_cons.1 mem).imp id .here
    | inThen mem inside =>
      rcases List.mem_cons.1 mem with rfl | mem
      · cases hplain
      · exact Or.inr (.inThen mem inside)
    | inElse mem inside =>
      rcases List.mem_cons.1 mem with rfl | mem
      · cases hplain
      · exact Or.inr (.inElse mem inside)
  · rintro (rfl | h)
    · exact .here List.mem_cons_self
    · cases h with
      | here mem => exact .here (List.mem_cons_of_mem _ mem)
      | inThen mem inside => exact .inThen (List.mem_cons_of_mem _ mem) inside
      | inElse mem inside => exact .inElse (List.mem_cons_of_mem _ mem) inside

theorem occurs_ifElse_iff :
    Occurs s [.ifElse condition thenBranch elseBranch?]
      ↔ s = .ifElse condition thenBranch elseBranch? ∨ Occurs s thenBranch
        ∨ ∃ elseBranch, elseBranch? = some elseBranch ∧ Occurs s elseBranch := by
  constructor
  · intro h
    cases h with
    | here mem => exact Or.inl (List.mem_singleton.1 mem)
    | inThen mem inside =>
      cases List.mem_singleton.1 mem
      exact Or.inr (Or.inl inside)
    | inElse mem inside =>
      cases List.mem_singleton.1 mem
      exact Or.inr (Or.inr ⟨_, rfl, inside⟩)
  · rintro (rfl | h | ⟨elseBranch, rfl, h⟩)
    · exact .here (List.mem_singleton_self _)
    · exact .inThen (List.mem_singleton_self _) h
    · exact .inElse (List.mem_singleton_self _) h

theorem exists_occurs_ifElse_iff {P : JavaStmt → Prop} :
    (∃ s, Occurs s [.ifElse condition thenBranch elseBranch?] ∧ P s)
      ↔ P (.ifElse condition thenBranch elseBranch?) ∨ (∃ s, Occurs s thenBranch ∧ P s)
        ∨ ∃ elseBranch, elseBranch? = some elseBranch ∧ ∃ s, Occurs s elseBranch ∧ P s := by
  simp only [occurs_ifElse_iff, or_and_right, exists_or, exists_eq_left]
  refine or_congr_right (or_congr_right ?_)
  constructor
  · rintro ⟨s, ⟨elseBranch, hsome, hoccurs⟩, hP⟩
    exact ⟨elseBranch, hsome, s, hoccurs, hP⟩
  · rintro ⟨elseBranch, hsome, s, hoccurs, hP⟩
    exact ⟨s, ⟨elseBranch, hsome, hoccurs⟩, hP⟩

/-! ## Building disciplined bodies -/

theorem EndsOnce.ne_nil (h : EndsOnce rest) : rest ≠ [] := by
  obtain ⟨before, last, rfl, -, -⟩ := h
  simp

theorem EndsOnce.singleton (h : s.isPlain = false) : EndsOnce [s] :=
  ⟨[], s, rfl, nofun, h⟩

theorem EndsOnce.cons (hplain : first.isPlain = true) (h : EndsOnce rest) :
    EndsOnce (first :: rest) := by
  obtain ⟨before, last, rfl, hbefore, hlast⟩ := h
  exact ⟨first :: before, last, rfl, List.forall_mem_cons.2 ⟨hplain, hbefore⟩, hlast⟩

namespace Disciplined

theorem of_return (hbare : void → value = none) (hvalued : ¬ void → value.isSome) :
    Disciplined void [.return value] where
  endsOnce := .singleton rfl
  thenBranch _ _ _ h := by cases occurs_return_iff.1 h
  elseBranch _ _ _ h := by cases occurs_return_iff.1 h
  bare hvoid _ h := by
    cases occurs_return_iff.1 h
    exact hbare hvoid
  valued hvoid _ h := by
    cases occurs_return_iff.1 h
    exact hvalued hvoid
  twoSided _ _ _ _ h := by cases occurs_return_iff.1 h

theorem cons (hplain : first.isPlain = true) (h : Disciplined void rest) :
    Disciplined void (first :: rest) := by
  -- a return or branch is not the plain statement, so it occurs behind it
  have hbehind : ∀ {s : JavaStmt}, s.isPlain = false → Occurs s (first :: rest) →
      Occurs s rest := by
    intro s hs hoccurs
    rcases (occurs_plain_cons_iff hplain).1 hoccurs with rfl | hoccurs
    · rw [hplain] at hs
      cases hs
    · exact hoccurs
  exact {
    endsOnce := h.endsOnce.cons hplain
    thenBranch _ _ _ hoccurs := h.thenBranch _ _ _ (hbehind rfl hoccurs)
    elseBranch _ _ _ hoccurs := h.elseBranch _ _ _ (hbehind rfl hoccurs)
    bare hvoid _ hoccurs := h.bare hvoid _ (hbehind rfl hoccurs)
    valued hvoid _ hoccurs := h.valued hvoid _ (hbehind rfl hoccurs)
    twoSided hvoid _ _ _ hoccurs := h.twoSided hvoid _ _ _ (hbehind rfl hoccurs) }

/-- A branch of disciplined lists, of which the first may be empty and the second missing if nothing
    is returned. -/
theorem of_ifElse
    (hthen : Disciplined void thenBranch ∨ thenBranch = [] ∧ elseBranch?.isSome ∧ void)
    (helse : ∀ elseBranch ∈ elseBranch?, Disciplined void elseBranch)
    (htwo : ¬ void → elseBranch?.isSome) :
    Disciplined void [.ifElse condition thenBranch elseBranch?] := by
  -- whatever else occurs is in a branch that is not empty
  have hinside : ∀ {s : JavaStmt}, s ≠ .ifElse condition thenBranch elseBranch? →
      Occurs s [.ifElse condition thenBranch elseBranch?] →
      ∃ branch, Disciplined void branch ∧ Occurs s branch := by
    intro s hne hoccurs
    rcases occurs_ifElse_iff.1 hoccurs with heq | hoccurs | ⟨elseBranch, hsome, hoccurs⟩
    · exact absurd heq hne
    · rcases hthen with hthen | ⟨rfl, -, -⟩
      · exact ⟨thenBranch, hthen, hoccurs⟩
      · exact absurd hoccurs not_occurs_nil
    · exact ⟨elseBranch, helse elseBranch hsome, hoccurs⟩
  exact {
    endsOnce := .singleton rfl
    thenBranch c t e? hoccurs := by
      by_cases heq : JavaStmt.ifElse c t e? = .ifElse condition thenBranch elseBranch?
      · cases heq
        exact hthen.imp_left endsOnce
      · obtain ⟨branch, hbranch, hoccurs⟩ := hinside heq hoccurs
        exact hbranch.thenBranch c t e? hoccurs
    elseBranch c t e hoccurs := by
      by_cases heq : JavaStmt.ifElse c t (some e) = .ifElse condition thenBranch elseBranch?
      · cases heq
        exact (helse e rfl).endsOnce
      · obtain ⟨branch, hbranch, hoccurs⟩ := hinside heq hoccurs
        exact hbranch.elseBranch c t e hoccurs
    bare hvoid value hoccurs := by
      obtain ⟨branch, hbranch, hoccurs⟩ := hinside (by simp) hoccurs
      exact hbranch.bare hvoid value hoccurs
    valued hvoid value hoccurs := by
      obtain ⟨branch, hbranch, hoccurs⟩ := hinside (by simp) hoccurs
      exact hbranch.valued hvoid value hoccurs
    twoSided hvoid c t e? hoccurs := by
      by_cases heq : JavaStmt.ifElse c t e? = .ifElse condition thenBranch elseBranch?
      · cases heq
        obtain ⟨elseBranch, hsome⟩ := Option.isSome_iff_exists.1 (htwo hvoid)
        have hnonempty : thenBranch ≠ [] := by
          rcases hthen with hthen | ⟨-, -, h⟩
          · exact hthen.endsOnce.ne_nil
          · exact absurd h hvoid
        exact ⟨hnonempty, elseBranch, hsome, (helse elseBranch hsome).endsOnce.ne_nil⟩
      · obtain ⟨branch, hbranch, hoccurs⟩ := hinside heq hoccurs
        exact hbranch.twoSided hvoid c t e? hoccurs }

end Disciplined

end JavaStmt

namespace FlowGraph

variable {g : FlowGraph}

/-! ## Bodies of functions -/

/-- What a call, assignment, input or output block performs neither returns nor branches. -/
theorem Acts.isPlain {b : Block} {statement : JavaStmt} (h : g.Acts b statement) :
    statement.isPlain = true := by
  cases h with
  | call kind value => rfl
  | assignment kind target value => rfl
  | output kind value => rfl
  | input kind read =>
    obtain ⟨v, type, method, fallback, -, -, -, -, rfl⟩ := readStatement_eq_ok_iff.1 read
    rfl

/-- Something is said of the statements of bodies, and something of blocks, so that it is true of a
    block exactly if it is of the statement that the block becomes. -/
structure Reflects (g : FlowGraph) (P : JavaStmt → Prop) (Q : Block → Prop) : Prop where
  start {b : Block} (kind : b.kind = .start) : ¬ Q b
  acts {b : Block} {statement : JavaStmt} (acts : g.Acts b statement) : P statement ↔ Q b
  returns {b : Block} {value : Option JavaExpr} (kind : b.kind = .stop)
    (returns : g.Returns b value) : P (.return value) ↔ Q b
  decides {b : Block} {condition : JavaExpr} {thenBranch : List JavaStmt}
    {elseBranch? : Option (List JavaStmt)} (kind : b.kind = .decision)
    (condition_eq : g.requiredExpression b = .ok condition) :
    P (.ifElse condition thenBranch elseBranch?) ↔ Q b

/-- What is true of a statement in a compiled body is true of a block behind it. -/
theorem Walked.exists_occurs_iff (hg : g.Distinct) {P : JavaStmt → Prop} {Q : Block → Prop}
    (hreflects : g.Reflects P Q) {path : List Uuid} {node : g.Node} {body : Body}
    (h : Walked path node body) :
    (∃ s, JavaStmt.Occurs s body.statements ∧ P s)
      ↔ ∃ b : g.Node, ReflTransGen Edge node b ∧ Q b.val := by
  -- the first block is told by its statement, and the others by what is behind the next blocks
  induction h with
  | stop fresh kind result =>
    obtain ⟨value, rfl, returns⟩ := returnStatement_eq_ok_iff.1 result
    rw [exists_reach_iff, ← hreflects.returns kind returns]
    simp [JavaStmt.occurs_return_iff, not_edge_of_stop kind]
  | step fresh not_stop not_decision head_eq next_eq walked ih =>
    rw [exists_reach_iff]
    simp only [hg.edge_iff_of_next not_stop not_decision next_eq, exists_eq_left, ← ih]
    rcases (head_eq_ok_iff not_stop not_decision).1 head_eq with
      ⟨kind, rfl⟩ | ⟨statement, rfl, acts⟩
    · simp [hreflects.start kind]
    · simp [JavaStmt.occurs_plain_cons_iff acts.isPlain, ← hreflects.acts acts, or_and_right,
        exists_or]
  | both fresh kind condition_eq branches_eq thenWalked elseWalked ihThen ihElse =>
    rw [exists_reach_iff, JavaStmt.exists_occurs_ifElse_iff, hreflects.decides kind condition_eq]
    simp only [hg.edge_iff_of_branches kind branches_eq, Option.some_inj, or_and_right, exists_or,
      exists_eq_left', ← ihThen, ← ihElse]
  | onlyRight fresh kind condition_eq branches_eq thenWalked ih =>
    rw [exists_reach_iff, JavaStmt.exists_occurs_ifElse_iff, hreflects.decides kind condition_eq]
    simp only [hg.edge_iff_of_branches kind branches_eq, Option.some_inj, reduceCtorEq, or_false,
      exists_eq_left', false_and, exists_false, ← ih]
  | onlyLeft fresh kind condition_eq branches_eq elseWalked ih =>
    rw [exists_reach_iff, JavaStmt.exists_occurs_ifElse_iff, hreflects.decides kind condition_eq]
    simp only [hg.edge_iff_of_branches kind branches_eq, Option.some_inj, reduceCtorEq, false_or,
      exists_eq_left', JavaStmt.not_occurs_nil, false_and, exists_false, ← ih]

theorem Walked.disciplined {path : List Uuid} {node : g.Node} {body : Body}
    (h : Walked path node body) : JavaStmt.Disciplined (g.returnType = .void) body.statements := by
  induction h with
  | stop fresh kind result =>
    obtain ⟨value, rfl, returns⟩ := returnStatement_eq_ok_iff.1 result
    cases returns with
    | nothing type statement => exact .of_return (fun _ => rfl) (absurd type)
    | value type statement lowered => exact .of_return (absurd · type) (fun _ => rfl)
  | step fresh not_stop not_decision head_eq next_eq walked ih =>
    rcases (head_eq_ok_iff not_stop not_decision).1 head_eq with
      ⟨-, rfl⟩ | ⟨statement, rfl, acts⟩
    · exact ih
    · exact ih.cons acts.isPlain
  | both fresh kind condition_eq branches_eq thenWalked elseWalked ihThen ihElse =>
    exact .of_ifElse (Or.inl ihThen) (by simpa using ihElse) (fun _ => rfl)
  | onlyRight fresh kind condition_eq branches_eq thenWalked ih =>
    obtain ⟨-, -, -, hboth⟩ := branches_eq_ok_iff.1 branches_eq
    exact .of_ifElse (Or.inl ih) nofun fun htype => (hboth htype).2
  | onlyLeft fresh kind condition_eq branches_eq elseWalked ih =>
    obtain ⟨-, -, -, hboth⟩ := branches_eq_ok_iff.1 branches_eq
    have hvoid : g.returnType = .void := by
      by_contra htype
      exact absurd (hboth htype).1 (by simp)
    exact .of_ifElse (Or.inr ⟨rfl, rfl, hvoid⟩) (by simpa using ih) (fun _ => rfl)

/-- Every run of a body that has to return a value does so. -/
theorem Walked.exists_returned (htype : g.returnType ≠ .void) {path : List Uuid} {node : g.Node}
    {body : Body} (h : Walked path node body) {σ : Type u} (I : Interpretation σ) (s : σ) :
    ∃ value, (JavaStmt.runAll I s body.statements).outcome = .returned (some value) := by
  induction h generalizing s with
  | stop fresh kind result =>
    obtain ⟨value, rfl, returns⟩ := returnStatement_eq_ok_iff.1 result
    cases returns with
    | nothing type statement => exact absurd type htype
    | @value _ e type statement lowered => exact ⟨e, rfl⟩
  | step fresh not_stop not_decision head_eq next_eq walked ih =>
    rcases (head_eq_ok_iff not_stop not_decision).1 head_eq with
      ⟨-, rfl⟩ | ⟨statement, rfl, acts⟩
    · exact ih s
    · obtain ⟨value, hvalue⟩ := ih (I.effect statement s)
      refine ⟨value, ?_⟩
      simp only [Option.toList_some, List.singleton_append, JavaStmt.runAll_cons, acts.run_eq,
        Run.andThen, Run.behind, hvalue]
  | @both _ _ _ _ condition _ _ fresh kind condition_eq branches_eq _ _ ihThen ihElse =>
    rw [JavaStmt.runAll_singleton, JavaStmt.run]
    cases I.holds condition s with
    | true => exact ihThen s
    | false => exact ihElse s
  | onlyRight fresh kind condition_eq branches_eq thenWalked =>
    obtain ⟨-, -, -, hboth⟩ := branches_eq_ok_iff.1 branches_eq
    exact absurd (hboth htype).2 (by simp)
  | onlyLeft fresh kind condition_eq branches_eq elseWalked =>
    obtain ⟨-, -, -, hboth⟩ := branches_eq_ok_iff.1 branches_eq
    exact absurd (hboth htype).1 (by simp)

end FlowGraph

namespace SymbolTable

open FlowGraph

variable {t : SymbolTable}

/-- No value is declared to be nothing. -/
theorem resolveType_ne_void {typeName : String} : t.resolveType typeName ≠ .ok .void := by
  rw [resolveType]
  grind

/-- Only functions that are declared so return nothing. -/
theorem resolveReturnTypeOf_eq_void_iff {f : Symbol} {type : JavaType}
    (h : t.resolveReturnTypeOf f = .ok type) :
    type = .void ↔ f.item.returnType = some "VOID" := by
  rw [resolveReturnTypeOf] at h
  cases hname : f.item.returnType with
  | none => simp [hname] at h
  | some typeName =>
    simp only [hname, resolveReturnType] at h
    split at h
    · next hvoid =>
        cases h
        simp [hvoid]
    · next hvoid =>
        have hne : type ≠ .void := by
          rintro rfl
          exact resolveType_ne_void h
        simp [hvoid, hne]

/-- A compiled body returns where it has to and nowhere else, as its function is declared. -/
theorem functionBody_disciplined {name : String} {body : Body}
    (h : t.functionBody name = .ok body) :
    ∃ f, t.find? name = some f
      ∧ JavaStmt.Disciplined (f.item.returnType = some "VOID") body.statements
      ∧ (f.item.returnType ≠ some "VOID" → ∀ (σ : Type u) (I : Interpretation σ) (s : σ),
        ∃ value, (JavaStmt.runAll I s body.statements).outcome = .returned (some value)) := by
  obtain ⟨g, hg, start, -, hwalked⟩ := functionBody_eq_ok_iff.1 h
  obtain ⟨rfl, hfind, -, htype⟩ := ofFunction_eq_ok_iff.1 hg
  have hvoid := resolveReturnTypeOf_eq_void_iff htype
  refine ⟨g.function, hfind, ?_, ?_⟩
  · have hdisciplined := hwalked.disciplined
    rwa [hvoid] at hdisciplined
  · intro hreturns σ I s
    exact hwalked.exists_returned (mt hvoid.1 hreturns) I s

/-! ## A function with a value on each side -/

/-- A decision between two values. -/
def chooserPick : Item where
  name := "pick"
  kind := .function
  returnType := some "NUMBER"
  blocks := [
    { id := .ofNat 1, kind := .start, content := none
      connections := { bottom := some [⟨.ofNat 2, .top⟩] } },
    { id := .ofNat 2, kind := .decision, content := some ⟨some (.boolean true), none⟩
      connections := { right := some [⟨.ofNat 3, .top⟩], left := some [⟨.ofNat 4, .top⟩] } },
    { id := .ofNat 3, kind := .output, content := some ⟨some (.text "one"), none⟩
      connections := { bottom := some [⟨.ofNat 5, .top⟩] } },
    { id := .ofNat 4, kind := .stop, content := some ⟨some (.number .zero), none⟩
      connections := {} },
    { id := .ofNat 5, kind := .stop, content := some ⟨some (.number .zero), none⟩
      connections := {} }]

/-- A project with that function. -/
def chooser : Item where
  name := "Demo"
  kind := .project
  children := [chooserPick]

/-- The table of the project. -/
def chooserTable : SymbolTable where
  symbols := chooser.symbols "" none
  blocks := (chooser.symbols "" none).flatMap Symbol.ownedBlocks

/-- The graph of the function. -/
def chooserGraph : FlowGraph where
  table := chooserTable
  function := ⟨chooserPick, "Demo.pick", some .project⟩
  returnType := .double

/-- Both sides return. -/
def chooserBody : Body where
  statements :=
    [.ifElse (.boolean true) [.print (.text "one"), .return (some (.number .zero))]
      (some [.return (some (.number .zero))])]
  readsInput := false

theorem chooser_body : chooserTable.functionBody "Demo.pick" = .ok chooserBody := by
  let node (i : Fin 5) : chooserGraph.Node := ⟨chooserGraph.blocks.get i, List.get_mem _ _⟩
  let done : Body := { statements := [.return (some (.number .zero))], readsInput := false }
  let printed : Body :=
    { statements := [.print (.text "one"), .return (some (.number .zero))], readsInput := false }
  have hright : Walked [.ofNat 3, .ofNat 2, .ofNat 1] (node 4) done := .stop (by decide) rfl rfl
  have hleft : Walked [.ofNat 2, .ofNat 1] (node 3) done := .stop (by decide) rfl rfl
  have hprinted : Walked [.ofNat 2, .ofNat 1] (node 2) printed :=
    @Walked.step _ _ (node 2) (node 4) (some (.print (.text "one"))) done
      (by decide) (by decide) (by decide) rfl rfl hright
  have hdecision : Walked [.ofNat 1] (node 1) chooserBody :=
    @Walked.both _ _ (node 1) (node 2) (node 3) (.boolean true) printed done
      (by decide) rfl rfl rfl hprinted hleft
  have hstart : Walked [] (node 0) chooserBody :=
    @Walked.step _ _ (node 0) (node 1) none chooserBody
      (by decide) (by decide) (by decide) rfl rfl hdecision
  exact functionBody_eq_ok_iff.2 ⟨chooserGraph, rfl, node 0, rfl, hstart⟩

theorem chooser_disciplined :
    chooserTable.functionBody "Demo.pick" = .ok chooserBody
      ∧ ∃ f, chooserTable.find? "Demo.pick" = some f
        ∧ JavaStmt.Disciplined (f.item.returnType = some "VOID") chooserBody.statements
        ∧ (f.item.returnType ≠ some "VOID" → ∀ (σ : Type) (I : Interpretation σ) (s : σ),
          ∃ value, (JavaStmt.runAll I s chooserBody.statements).outcome = .returned (some value)) :=
  ⟨chooser_body, functionBody_disciplined chooser_body⟩

end SymbolTable

end Flowchart
