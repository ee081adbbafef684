import Flowchart.Proofs.Accesses
import Flowchart.Proofs.Names

set_option autoImplicit false

/-! # What plain names mean in a method

In the method of a function a plain name means a parameter or local of the function, and only if
there is none a variable of the class around it. A block names its variable by the full name, so the
question is whether the plain name in the generated code comes back to it. It does exactly for what
the function declares itself and for what its class declares, as long as nothing in the function
hides that; assignments also get at what is hidden, but expressions and inputs do not. -/

namespace Flowchart

open Relation (ReflTransGen)

/-! ## Scopes -/

/-- The variable or parameter with a plain name that a symbol declares. -/
def Symbol.declared? (owner : Symbol) (name : String) : Option Symbol :=
  (owner.item.children.find? fun child => child.name == name && child.kind.isAssignable).map
    fun child =>
      { item := child
        fullName := FullName.join owner.fullName child.name
        parentKind := some owner.item.kind }

/-- A name without dots. -/
def IsPlain (n : String) : Prop := '.' ∉ n.toList

instance (n : String) : Decidable (IsPlain n) := inferInstanceAs (Decidable ('.' ∉ n.toList))

namespace FlowGraph

/-- The class that the function is a method of. -/
def enclosingClass? (g : FlowGraph) : Option Symbol :=
  if g.function.parentKind = some .classItem then
    g.table.find? (FullName.parent g.function.fullName)
  else none

/-- What a plain name means in the method of the function. -/
def scope (g : FlowGraph) (name : String) : Option Symbol :=
  match g.function.declared? name with
  | some v => some v
  | none => g.enclosingClass?.bind (·.declared? name)

end FlowGraph

/-- A symbol declares the variables and parameters among its children. -/
theorem Symbol.declared?_eq_some_iff {t : SymbolTable} {root : Item} (ht : t.Lists root)
    {owner v : Symbol} (howner : owner ∈ t.symbols) {name : String} :
    owner.declared? name = some v
      ↔ v.IsChild owner ∧ v.item.kind.isAssignable = true ∧ v.item.name = name := by
  rw [declared?, Option.map_eq_some_iff]
  constructor
  · rintro ⟨child, hfind, rfl⟩
    have htest := List.find?_some hfind
    simp only [Bool.and_eq_true, beq_iff_eq] at htest
    exact ⟨⟨List.mem_of_find?_eq_some hfind, rfl, rfl⟩, htest.2, htest.1⟩
  · rintro ⟨hchild, hkind, rfl⟩
    have htest : (v.item.name == v.item.name && v.item.kind.isAssignable) = true := by
      rw [beq_self_eq_true, hkind]
      rfl
    have hsome : (owner.item.children.find? fun child =>
        child.name == v.item.name && child.kind.isAssignable).isSome :=
      List.find?_isSome.2 ⟨v.item, hchild.mem, htest⟩
    obtain ⟨child, hfind⟩ := Option.isSome_iff_exists.1 hsome
    have hfound := List.find?_some hfind
    simp only [Bool.and_eq_true, beq_iff_eq] at hfound
    refine ⟨child, hfind, ?_⟩
    -- both children have the same full name, and the table has that name only once
    have hmem := ht.exists_child howner (List.mem_of_find?_eq_some hfind)
    have hv := ht.exists_child howner hchild.mem
    obtain ⟨item, fullName, parentKind⟩ := v
    have hname := hchild.fullName_eq
    have hparent := hchild.parentKind_eq
    simp only at hname hparent hfound hv
    rw [ht.symbol_unique hmem hv (by rw [hfound.1]), hname, hparent]

namespace FlowGraph

variable {g : FlowGraph} {root : Item}

/-- The function has a parameter or local of a name. -/
def Hides (g : FlowGraph) (name : String) : Prop :=
  ∃ v : Symbol, v.IsChild g.function ∧ v.item.kind.isAssignable = true ∧ v.item.name = name

/-- The variable is declared in the class that the function is a method of. -/
def InClass (g : FlowGraph) (v : Symbol) : Prop :=
  ∃ c ∈ g.table.symbols, c.item.kind = .classItem ∧ g.function.IsChild c ∧ v.IsChild c

/-- A block can get at the variable in the method of the function: it is static, or the function
    declares it, or the class of the function does and the function does not hide it from anything
    but assignments. -/
def Reaches (g : FlowGraph) (how : AccessKind) (v : Symbol) : Prop :=
  v.isStatic = true ∨ v.IsChild g.function ∨ g.InClass v ∧ (how = .assigned ∨ ¬ g.Hides v.item.name)

/-! ## Looking a plain name up -/

theorem enclosingClass?_eq_some_iff (ht : g.table.Lists root) (hnamed : g.table.Named)
    (hf : g.function ∈ g.table.symbols) {c : Symbol} :
    g.enclosingClass? = some c
      ↔ c ∈ g.table.symbols ∧ c.item.kind = .classItem ∧ g.function.IsChild c := by
  rw [enclosingClass?]
  constructor
  · intro h
    split at h
    · next hparent =>
        obtain ⟨hc, hname⟩ := ht.find?_eq_some_iff.1 h
        obtain ⟨p, hp, hkind, hchild⟩ := ht.exists_parent hf hparent
        rw [hnamed.parent_eq ht hf hp hchild] at hname
        cases ht.symbol_unique hc hp hname
        exact ⟨hp, hkind, hchild⟩
    · cases h
  · rintro ⟨hc, hkind, hchild⟩
    rw [if_pos (by rw [hchild.parentKind_eq, hkind])]
    exact ht.find?_eq_some_iff.2 ⟨hc, (hnamed.parent_eq ht hf hc hchild).symm⟩

theorem hides_iff (ht : g.table.Lists root) (hf : g.function ∈ g.table.symbols) {name : String} :
    g.Hides name ↔ ∃ v, g.function.declared? name = some v := by
  simp only [Symbol.declared?_eq_some_iff ht hf]
  rfl

/-- A plain name means what the function declares, or else what its class declares. -/
theorem scope_eq_some_iff (ht : g.table.Lists root) (hnamed : g.table.Named)
    (hf : g.function ∈ g.table.symbols) {v : Symbol} (hkind : v.item.kind.isAssignable = true) :
    g.scope v.item.name = some v
      ↔ v.IsChild g.function ∨ g.InClass v ∧ ¬ g.Hides v.item.name := by
  have hhides := @hides_iff g root ht hf v.item.name
  rw [scope]
  cases hdeclared : g.function.declared? v.item.name with
  | some w =>
    have hown : v.IsChild g.function ↔ w = v := by
      rw [← Option.some_inj, ← hdeclared, Symbol.declared?_eq_some_iff ht hf]
      simp [hkind]
    simp [hhides, hdeclared, hown]
  | none =>
    have hvisible : ¬ g.Hides v.item.name := by simp [hhides, hdeclared]
    have hchild : ¬ v.IsChild g.function := fun hv => hvisible ⟨v, hv, hkind, rfl⟩
    simp only [hvisible, hchild, not_false_eq_true, and_true, false_or, Option.bind_eq_some_iff]
    constructor
    · rintro ⟨c, hc, hv⟩
      obtain ⟨hmem, hclass, hfunction⟩ := (enclosingClass?_eq_some_iff ht hnamed hf).1 hc
      exact ⟨c, hmem, hclass, hfunction, ((Symbol.declared?_eq_some_iff ht hmem).1 hv).1⟩
    · rintro ⟨c, hmem, hclass, hfunction, hv⟩
      exact ⟨c, (enclosingClass?_eq_some_iff ht hnamed hf).2 ⟨hmem, hclass, hfunction⟩,
        (Symbol.declared?_eq_some_iff ht hmem).2 ⟨hv, hkind, rfl⟩⟩

/-! ## The names of accesses -/

variable {b : Block} {how : AccessKind} {v : Symbol} {n : String}

/-- What a block gets at is a variable or parameter of the table. -/
theorem Accesses.found (ht : g.table.Lists root) (h : g.Accesses b how v n) :
    v ∈ g.table.symbols ∧ v.item.kind.isAssignable = true := by
  have hassigned : ∀ {v}, g.assigned b = .ok v →
      v ∈ g.table.symbols ∧ v.item.kind.isAssignable = true := by
    intro v hv
    obtain ⟨name, -, hfind, hkind⟩ := assigned_eq_ok_iff.1 hv
    exact ⟨(ht.find?_eq_some_iff.1 hfind).1, ItemKind.isAssignable_iff.2 hkind⟩
  cases h with
  | read _ _ _ reads =>
    obtain ⟨first, rest, steps, -, hfound, hkind, -⟩ := reads
    exact ⟨(ht.find?_eq_some_iff.1 hfound).1, ItemKind.isAssignable_iff.2 hkind⟩
  | assigned _ target => exact hassigned target
  | input _ target => exact hassigned target

/-- A block gets at a variable by its usual reference, or, to write a field of the function's own
    class, through `this`; a hidden field is written in no other way. -/
theorem Accesses.name_cases (h : g.Accesses b how v n) :
    (n = v.reference ∧ (how = .assigned → g.isOwnField v = true → g.isHidden v = false))
      ∨ how = .assigned ∧ g.isOwnField v = true ∧ n = "this." ++ v.reference := by
  cases h with
  | read _ _ _ reads => exact Or.inl ⟨reads.eq_reference, nofun⟩
  | input _ target emitted =>
    obtain ⟨v', type, method', fallback', target', -, -, -, heq⟩ :=
      readStatement_eq_ok_iff.1 emitted
    cases heq
    cases target.symm.trans target'
    exact Or.inl ⟨rfl, nofun⟩
  | assigned _ _ _ emitted =>
    unfold assignmentTarget at emitted
    split at emitted
    · next hthis =>
        cases emitted
        exact Or.inr ⟨rfl, (Bool.and_eq_true _ _ ▸ hthis).1, rfl⟩
    · next hthis =>
        cases emitted
        refine Or.inl ⟨rfl, fun _ hown => ?_⟩
        simp only [hown, Bool.true_and, Bool.or_eq_true, not_or, Bool.not_eq_true] at hthis
        exact hthis.1

/-- A static member has a dotted name, everything else its plain one. -/
theorem isPlain_reference_iff (hname : Java.isIdentifier v.item.name = true) :
    IsPlain v.reference ↔ v.isStatic = false := by
  rw [IsPlain, Symbol.reference]
  cases v.isStatic with
  | true => simp
  | false => simpa using Java.dot_not_mem hname

theorem isOwnField_iff (ht : g.table.Lists root) (hnamed : g.table.Named)
    (hf : g.function ∈ g.table.symbols) (hv : v ∈ g.table.symbols) :
    g.isOwnField v = true ↔ g.InClass v := by
  simp only [isOwnField, Bool.and_eq_true, beq_iff_eq]
  constructor
  · rintro ⟨⟨hvkind, hfkind⟩, hparent⟩
    obtain ⟨c, hc, hkind, hvchild⟩ := ht.exists_parent hv hvkind
    obtain ⟨c', hc', -, hfchild⟩ := ht.exists_parent hf hfkind
    -- the two classes have the same full name
    rw [hnamed.parent_eq ht hv hc hvchild, hnamed.parent_eq ht hf hc' hfchild] at hparent
    cases ht.symbol_unique hc hc' hparent
    exact ⟨c, hc, hkind, hfchild, hvchild⟩
  · rintro ⟨c, hc, hkind, hfchild, hvchild⟩
    refine ⟨⟨?_, ?_⟩, ?_⟩
    · rw [hvchild.parentKind_eq, hkind]
    · rw [hfchild.parentKind_eq, hkind]
    · rw [hnamed.parent_eq ht hv hc hvchild, hnamed.parent_eq ht hf hc hfchild]

theorem not_hides_of_isHidden (h : g.isHidden v = false) : ¬ g.Hides v.item.name := by
  rintro ⟨w, hchild, -, hname⟩
  have hnone := List.any_eq_false.1 h w.item hchild.mem
  simp [hname] at hnone

/-! ## Names that come back to their variable -/

/-- The name under which a block gets at a variable is dotted or means that variable, exactly if the
    block can get at it in the method. -/
theorem Accesses.resolves_iff (ht : g.table.Lists root) (hnamed : g.table.Named)
    (hf : g.function ∈ g.table.symbols) (h : g.Accesses b how v n) :
    (IsPlain n → g.scope n = some v) ↔ g.Reaches how v := by
  obtain ⟨hv, hkind⟩ := h.found ht
  have hown := isOwnField_iff ht hnamed hf hv
  rcases h.name_cases with ⟨rfl, hvisible⟩ | ⟨rfl, hfield, rfl⟩
  · have hplain := isPlain_reference_iff (hnamed v hv)
    cases hstatic : v.isStatic with
    | true =>
      -- static members are always written with their full name
      have hdotted : ¬ IsPlain v.reference := by simp [hplain, hstatic]
      exact ⟨fun _ => Or.inl hstatic, fun _ hn => absurd hn hdotted⟩
    | false =>
      have hreference : v.reference = v.item.name := by simp [Symbol.reference, hstatic]
      rw [forall_prop_of_true (hplain.2 hstatic), hreference, scope_eq_some_iff ht hnamed hf hkind]
      simp only [Reaches, hstatic, Bool.false_eq_true, false_or]
      -- a field of the class under its own name: only assignments have looked for hiding
      refine or_congr_right (and_congr_right fun hin => ?_)
      constructor
      · exact Or.inr
      · rintro (hassigned | hhides)
        · exact not_hides_of_isHidden (hvisible hassigned (hown.2 hin))
        · exact hhides
  · have hdotted : ¬ IsPlain ("this." ++ v.reference) := by simp [IsPlain]
    exact ⟨fun _ => Or.inr (Or.inr ⟨hown.1 hfield, Or.inl rfl⟩), fun _ hn => absurd hn hdotted⟩

/-- Every plain name under which the blocks behind one get at a variable means that variable. -/
def Resolves (node : g.Node) : Prop :=
  ∀ b, ReflTransGen Edge node b → ∀ how v n, g.Accesses b.val how v n → IsPlain n →
    g.scope n = some v

/-- The plain names in the body of a function all mean the variables that the blocks name, exactly
    if each block can get at its variables in the method. -/
theorem functionBody_resolves_iff {t : SymbolTable} (ht : SymbolTable.build root = .ok t)
    (hnamed : t.Named) {name : String} {body : Body} (hbody : t.functionBody name = .ok body) :
    ∃ g : FlowGraph, ofFunction t name = .ok g
      ∧ ∃ start : g.Node, g.blocks.filter (·.kind = .start) = [start.val]
        ∧ (∀ n, n ∈ JavaStmt.headsAll body.statements
          ↔ ∃ b : g.Node, ReflTransGen Edge start b ∧ ∃ how v, g.Accesses b.val how v n)
        ∧ (Resolves start ↔ ∀ b : g.Node, ReflTransGen Edge start b →
          ∀ how v n, g.Accesses b.val how v n → g.Reaches how v) := by
  have hlists := SymbolTable.build_eq_ok_iff.1 ht
  obtain ⟨g, hg, start, hstart, hwalked⟩ := functionBody_eq_ok_iff.1 hbody
  have hdistinct := distinct_of_lists hlists hg
  obtain ⟨rfl, hfind, -, -⟩ := ofFunction_eq_ok_iff.1 hg
  have hf := (hlists.find?_eq_some_iff.1 hfind).1
  refine ⟨g, hg, start, start_eq_ok_iff.1 hstart, fun n => hwalked.mem_heads_iff hdistinct, ?_⟩
  constructor
  · intro h b hreach how v n haccess
    exact (haccess.resolves_iff hlists hnamed hf).1 (h b hreach how v n haccess)
  · intro h b hreach how v n haccess
    exact (haccess.resolves_iff hlists hnamed hf).2 (h b hreach how v n haccess)

/-! ## A hidden field -/

end FlowGraph

/-- A method that prints a field of its class, but has a parameter of the same name. -/
def counterShow : Item where
  name := "show"
  kind := .function
  returnType := some "VOID"
  children := [{ name := "value", kind := .parameter, typeName := some "NUMBER" }]
  blocks := [
    { id := .ofNat 1, kind := .start, content := none
      connections := { bottom := some [⟨.ofNat 2, .top⟩] } },
    { id := .ofNat 2, kind := .output
      content := some ⟨some (.call [⟨"Demo.Counter.value", []⟩]), none⟩
      connections := { bottom := some [⟨.ofNat 3, .top⟩] } },
    { id := .ofNat 3, kind := .stop, content := none, connections := {} }]

/-- A project with that method. -/
def counter : Item where
  name := "Demo"
  kind := .project
  children := [{
    name := "Counter"
    kind := .classItem
    children := [{ name := "value", kind := .variable, typeName := some "NUMBER" }, counterShow] }]

/-- The table of the project with the hidden field. -/
def counterTable : SymbolTable where
  symbols := counter.symbols "" none
  blocks := (counter.symbols "" none).flatMap Symbol.ownedBlocks

/-- The graph of the method with the hidden field. -/
def counterGraph : FlowGraph where
  table := counterTable
  function := ⟨counterShow, "Demo.Counter.show", some .classItem⟩
  returnType := .void

theorem counter_build : SymbolTable.build counter = .ok counterTable := rfl

theorem counter_named : counterTable.Named := by
  have hall : (counterTable.symbols.all fun s => Java.isIdentifier s.item.name) = true := by cbv
  exact List.all_eq_true.1 hall

/-- The field is printed by its plain name, which is the parameter. -/
theorem counter_body :
    counterTable.functionBody "Demo.Counter.show"
      = .ok { statements := [.print (.name "value"), .return none], readsInput := false } := by
  cbv

namespace FlowGraph

theorem counter_ofFunction : ofFunction counterTable "Demo.Counter.show" = .ok counterGraph := by
  cbv

theorem counter_not_resolves :
    SymbolTable.build counter = .ok counterTable ∧ counterTable.Named
      ∧ (∃ body, counterTable.functionBody "Demo.Counter.show" = .ok body)
      ∧ ∃ g : FlowGraph, ofFunction counterTable "Demo.Counter.show" = .ok g
        ∧ ∃ start : g.Node, g.blocks.filter (·.kind = .start) = [start.val] ∧ ¬ Resolves start := by
  refine ⟨counter_build, counter_named, ⟨_, counter_body⟩, counterGraph, counter_ofFunction, ?_⟩
  let start : counterGraph.Node := ⟨_, List.mem_cons_self⟩
  let output : counterGraph.Node := ⟨_, List.mem_cons_of_mem _ List.mem_cons_self⟩
  refine ⟨start, rfl, fun h => ?_⟩
  have hedge : Edge start output := .of_leads nofun nofun ⟨_, rfl, rfl⟩
  have hreads : counterGraph.table.Reads (.call [⟨"Demo.Counter.value", []⟩])
      ⟨{ name := "value", kind := .variable, typeName := some "NUMBER" }, "Demo.Counter.value",
        some .classItem⟩ "value" :=
    ⟨_, _, _, .here rfl, rfl, Or.inl rfl, rfl⟩
  have haccess := Accesses.read (g := counterGraph) (b := output.val) nofun nofun rfl hreads
  have hscope := h output (.single hedge) _ _ _ haccess (by decide)
  cases hscope

/-- What a chain of a single access without arguments reads is the variable it names. -/
theorem find?_of_reads_access {t : SymbolTable} {v : Symbol} {name n : String}
    (h : t.Reads (.call [⟨name, []⟩]) v n) : t.find? name = some v := by
  obtain ⟨first, rest, steps, hin, hfound, -⟩ := h
  cases hin with
  | here => exact hfound
  | operand kind => cases kind
  | argument _ step_mem _ _ mem =>
    obtain rfl := List.mem_singleton.1 step_mem
    cases mem

end FlowGraph

/-- A method that assigns to a hidden field of its class what a local holds, and then prints a
    static variable. -/
def tallyAdd : Item where
  name := "add"
  kind := .function
  returnType := some "VOID"
  children := [
    { name := "value", kind := .parameter, typeName := some "NUMBER" },
    { name := "sum", kind := .variable, typeName := some "NUMBER" }]
  blocks := [
    { id := .ofNat 1, kind := .start, content := none
      connections := { bottom := some [⟨.ofNat 2, .top⟩] } },
    { id := .ofNat 2, kind := .assignment
      content := some ⟨some (.call [⟨"Demo.Counter.add.sum", []⟩]), some "Demo.Counter.value"⟩
      connections := { bottom := some [⟨.ofNat 3, .top⟩] } },
    { id := .ofNat 3, kind := .output
      content := some ⟨some (.call [⟨"Demo.app.total", []⟩]), none⟩
      connections := { bottom := some [⟨.ofNat 4, .top⟩] } },
    { id := .ofNat 4, kind := .stop, content := none, connections := {} }]

/-- A project with that method. -/
def tally : Item where
  name := "Demo"
  kind := .project
  children := [
    { name := "app"
      kind := .package
      children := [{ name := "total", kind := .variable, typeName := some "NUMBER" }] },
    { name := "Counter"
      kind := .classItem
      children := [{ name := "value", kind := .variable, typeName := some "NUMBER" }, tallyAdd] }]

/-- The table of the project whose hidden field is assigned. -/
def tallyTable : SymbolTable where
  symbols := tally.symbols "" none
  blocks := (tally.symbols "" none).flatMap Symbol.ownedBlocks

/-- The graph of the method that assigns to the hidden field. -/
def tallyGraph : FlowGraph where
  table := tallyTable
  function := ⟨tallyAdd, "Demo.Counter.add", some .classItem⟩
  returnType := .void

theorem tally_build : SymbolTable.build tally = .ok tallyTable := by
  cbv

theorem tally_named : tallyTable.Named := by
  have hall : (tallyTable.symbols.all fun s => Java.isIdentifier s.item.name) = true := by cbv
  exact List.all_eq_true.1 hall

namespace FlowGraph

theorem tally_ofFunction : ofFunction tallyTable "Demo.Counter.add" = .ok tallyGraph := by
  cbv

/-- The field is assigned through the object, the local has its plain name and the static variable
    its full one. -/
theorem tally_body :
    tallyTable.functionBody "Demo.Counter.add"
      = .ok
        { statements := [.assign (.name "this.value") (.name "sum"),
            .print (.name "Demo.app.total.total"), .return none]
          readsInput := false } := by
  let node (i : Fin 4) : tallyGraph.Node := ⟨tallyGraph.blocks.get i, List.get_mem _ _⟩
  have hassigned : tallyGraph.head (node 1).val
      = .ok (some (.assign (.name "this.value") (.name "sum"))) := rfl
  have hprinted : tallyGraph.head (node 2).val
      = .ok (some (.print (.name "Demo.app.total.total"))) := by cbv
  have hstop : Walked [.ofNat 3, .ofNat 2, .ofNat 1] (node 3)
      { statements := [.return none], readsInput := false } := .stop (by decide) rfl rfl
  have houtput := Walked.step (by decide) (by decide) (by decide) hprinted rfl hstop
  have hassignment := Walked.step (by decide) (by decide) (by decide) hassigned rfl houtput
  have hstart := @Walked.step _ [] (node 0) (node 1) none _
    (by decide) (by decide) (by decide) rfl rfl hassignment
  exact functionBody_eq_ok_iff.2 ⟨tallyGraph, tally_ofFunction, node 0, rfl, hstart⟩

/-- Every block of the method gets at its variables: the local and the static one are read, and the
    field is only assigned to. -/
theorem tally_reaches {b : Block} (hb : b ∈ tallyGraph.blocks) {how : AccessKind} {v : Symbol}
    {n : String} (h : tallyGraph.Accesses b how v n) : tallyGraph.Reaches how v := by
  have hread : ∀ {name : String}, b.statement? = some (.call [⟨name, []⟩]) →
      ∀ {s}, b.statement? = some s → tallyTable.Reads s v n → tallyTable.find? name = some v := by
    intro name hname s hs hreads
    rw [hname] at hs
    cases hs
    exact find?_of_reads_access hreads
  have hcases : b = tallyAdd.blocks[0] ∨ b = tallyAdd.blocks[1] ∨ b = tallyAdd.blocks[2]
      ∨ b = tallyAdd.blocks[3] := by
    simpa [tallyGraph, tallyAdd, blocks] using hb
  rcases hcases with rfl | rfl | rfl | rfl
  · cases h with
    | read not_start => exact absurd rfl not_start
    | assigned kind => cases kind
    | input kind => cases kind
  · cases h with
    | read _ _ statement reads =>
      obtain rfl := Option.some.inj (hread rfl statement reads)
      exact Or.inr (Or.inl ⟨List.mem_cons_of_mem _ List.mem_cons_self, rfl, rfl⟩)
    | assigned _ target =>
      obtain rfl := Except.ok.inj target
      have hlists := SymbolTable.build_eq_ok_iff.1 tally_build
      have hfound : tallyTable.find? "Demo.Counter"
          = some ⟨tally.children[1], "Demo.Counter", some .project⟩ := rfl
      have hclass := (hlists.find?_eq_some_iff.1 hfound).1
      exact Or.inr (Or.inr ⟨⟨_, hclass, rfl, ⟨List.mem_cons_of_mem _ List.mem_cons_self, rfl, rfl⟩,
        ⟨List.mem_cons_self, rfl, rfl⟩⟩, Or.inl rfl⟩)
    | input kind => cases kind
  · cases h with
    | read _ _ statement reads =>
      obtain rfl := Option.some.inj (hread rfl statement reads)
      exact Or.inl rfl
    | assigned kind => cases kind
    | input kind => cases kind
  · cases h with
    | read _ _ statement => cases statement
    | assigned kind => cases kind
    | input kind => cases kind

/-- The condition for two methods with a hidden field. The one that prints the field does not meet
    it; the one that assigns to the field, and reads a local and a static variable, does. -/
theorem counter_resolves_iff :
    (∃ g : FlowGraph, ofFunction counterTable "Demo.Counter.show" = .ok g
      ∧ ∃ start : g.Node, g.blocks.filter (·.kind = .start) = [start.val]
        ∧ (∀ n, n ∈ ["value"]
          ↔ ∃ b : g.Node, ReflTransGen Edge start b ∧ ∃ how v, g.Accesses b.val how v n)
        ∧ (Resolves start ↔ ∀ b : g.Node, ReflTransGen Edge start b →
          ∀ how v n, g.Accesses b.val how v n → g.Reaches how v))
    ∧ ∃ g : FlowGraph, ofFunction tallyTable "Demo.Counter.add" = .ok g
      ∧ ∃ start : g.Node, g.blocks.filter (·.kind = .start) = [start.val]
        ∧ (∀ n, n ∈ ["this.value", "sum", "Demo.app.total.total"]
          ↔ ∃ b : g.Node, ReflTransGen Edge start b ∧ ∃ how v, g.Accesses b.val how v n)
        ∧ Resolves start := by
  refine ⟨functionBody_resolves_iff counter_build counter_named counter_body, ?_⟩
  obtain ⟨g, hg, start, hstart, hnames, hresolves⟩ :=
    functionBody_resolves_iff tally_build tally_named tally_body
  obtain rfl := Except.ok.inj (tally_ofFunction.symm.trans hg)
  exact ⟨_, hg, start, hstart, hnames,
    hresolves.2 fun b _ _ _ _ haccess => tally_reaches b.2 haccess⟩

end FlowGraph

end Flowchart
