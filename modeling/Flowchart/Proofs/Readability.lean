import Flowchart.Proofs.Expressions
import Flowchart.Proofs.ReadBack

set_option autoImplicit false

/-! # Unique readability

The expressions that statements become differ from legible ones only in their dotted names. Split
into steps, they can be told apart by their texts. -/

namespace Flowchart

open FullName (Spells segments)

/-! ## Splitting dotted names -/

namespace JavaExpr

/-- The steps of a dotted name. -/
def namedSteps (n : String) : List Step := (segments n).map (⟨·, none⟩)

/-- The steps of a call by a dotted name: only the last one has arguments. -/
def calledSteps (f : String) (arguments : List JavaExpr) : List Step :=
  (segments f).dropLast.map (⟨·, none⟩) ++ [⟨(segments f).getLastD "", some arguments⟩]

mutual

/-- An expression with its dotted names split into steps. -/
def split : JavaExpr → JavaExpr
  | .number d => .number d
  | .boolean b => .boolean b
  | .text s => .text s
  | .new type arguments => .new type (splitAll arguments)
  | .name n => path ((namedSteps n).map Step.expr)
  | .invoke f arguments => path ((calledSteps f (splitAll arguments)).map Step.expr)
  | .chain steps => path (splitSteps steps)
  | .operation operator operands => .operation operator (splitAll operands)
  | .not operand => .not operand.split
  | .length operand => .length operand.split
  | .stringOf operand => .stringOf operand.split
  | .objectsEqual left right => .objectsEqual left.split right.split
  | .group operand => .group operand.split

/-- Several expressions with their dotted names split. -/
def splitAll : List JavaExpr → List JavaExpr
  | [] => []
  | e :: rest => e.split :: splitAll rest

/-- The steps of a chain, with the dotted ones split. -/
def splitSteps : List JavaExpr → List JavaExpr
  | [] => []
  | .name n :: rest => (namedSteps n).map Step.expr ++ splitSteps rest
  | .invoke f arguments :: rest =>
    (calledSteps f (splitAll arguments)).map Step.expr ++ splitSteps rest
  | e :: rest => e.split :: splitSteps rest

end

theorem splitAll_eq_map (es : List JavaExpr) : splitAll es = es.map split := by
  induction es with
  | nil => rfl
  | cons e es ih => exact congrArg (e.split :: ·) ih
@[simp]
theorem split_operation (operator : String) (operands : List JavaExpr) :
    (operation operator operands).split = .operation operator (operands.map split) := by
  rw [← splitAll_eq_map]; rfl
@[simp]
theorem split_invoke (f : String) (arguments : List JavaExpr) : (invoke f arguments).split
    = path ((calledSteps f (arguments.map split)).map Step.expr) := by
  rw [← splitAll_eq_map]; rfl
@[simp]
theorem split_chain (steps : List JavaExpr) : (chain steps).split = path (splitSteps steps) := rfl
theorem splitSteps_invoke (f : String) (arguments rest : List JavaExpr) :
    splitSteps (invoke f arguments :: rest)
      = (calledSteps f (arguments.map split)).map Step.expr ++ splitSteps rest := by
  rw [← splitAll_eq_map]; rfl

/-! ## Spelled paths -/

/-- What stands behind joined texts stands behind the last of them. -/
theorem intercalate_append_singleton (separator last behind : String) (texts : List String) :
    String.intercalate separator (texts ++ [last ++ behind])
      = String.intercalate separator (texts ++ [last]) ++ behind := by
  cases texts with
  | nil => simp
  | cons text texts =>
    rw [String.intercalate_append_of_ne_nil (by simp) (by simp),
      String.intercalate_append_of_ne_nil (by simp) (by simp)]
    simp [String.append_assoc]

/-- Legible steps that make up a text. -/
structure Spelling (text : String) (steps : List Step) : Prop where
  ne_nil : steps ≠ []
  declarable : ∀ s ∈ steps, Declarable s.name
  arguments : ∀ s ∈ steps, ∀ as, s.arguments = some as → ∀ a ∈ as, Legible a
  text_eq : String.intercalate "." (steps.map (·.expr.render)) = text

/-- A name made of declarable names. -/
structure Addressable (n : String) : Prop where
  spells : Spells n (segments n)
  declarable : ∀ name ∈ segments n, Declarable name

/-- An expression that is legible once its names are split, without a change of its text. -/
structure Clear (e : JavaExpr) : Prop where
  legible : e.split.Legible
  render_eq : e.split.render = e.render

namespace Spelling

variable {text text' : String} {steps steps' : List Step}

theorem legible (h : Spelling text steps) : (path (steps.map Step.expr)).Legible :=
  .path h.ne_nil h.declarable h.arguments

theorem render_eq (h : Spelling text steps) : (path (steps.map Step.expr)).render = text := by
  rw [render_path, List.map_map]
  exact h.text_eq

theorem append (h : Spelling text steps) (h' : Spelling text' steps') :
    Spelling (text ++ "." ++ text') (steps ++ steps') where
  ne_nil := List.append_ne_nil_of_left_ne_nil h.ne_nil steps'
  declarable := List.forall_mem_append.2 ⟨h.declarable, h'.declarable⟩
  arguments := List.forall_mem_append.2 ⟨h.arguments, h'.arguments⟩
  text_eq := by
    rw [List.map_append, String.intercalate_append_of_ne_nil (by simpa using h.ne_nil)
      (by simpa using h'.ne_nil), h.text_eq, h'.text_eq]

theorem named {n : String} (h : Addressable n) : Spelling n (namedSteps n) where
  ne_nil := by simpa [namedSteps] using h.spells.ne_nil
  declarable := by simpa [namedSteps] using h.declarable
  arguments := by simp [namedSteps]
  text_eq := by
    rw [namedSteps, List.map_map]
    exact (congrArg _ (List.map_id _)).trans h.spells.eq_intercalate.symm

theorem called {f : String} {as : List JavaExpr} (h : Addressable f) (has : ∀ a ∈ as, Legible a) :
    Spelling (invoke f as).render (calledSteps f as) := by
  obtain ⟨names, last, hsegments⟩ : ∃ names last, segments f = names ++ [last] :=
    ⟨_, _, (List.dropLast_append_getLast h.spells.ne_nil).symm⟩
  have hcalled : calledSteps f as = names.map (⟨·, none⟩) ++ [⟨last, some as⟩] := by
    simp [calledSteps, hsegments]
  have hdeclarable := h.declarable
  rw [hsegments, List.forall_mem_append, List.forall_mem_singleton] at hdeclarable
  rw [hcalled]
  refine ⟨by simp, ?_, ?_, ?_⟩
  · simpa [or_imp, forall_and] using hdeclarable
  · simpa [or_imp, forall_and] using has
  · have hf : String.intercalate "." (names ++ [last]) = f := by
      rw [← hsegments, ← h.spells.eq_intercalate]
    simp only [List.map_append, List.map_map, List.map_singleton, Step.expr, render_invoke,
      String.append_assoc, Function.comp_def, render_name, List.map_id']
    rw [intercalate_append_singleton, hf]

end Spelling

/-! ## Clear expressions -/

namespace Clear

variable {es : List JavaExpr}

theorem forall_legible (h : ∀ e ∈ es, Clear e) : ∀ e ∈ es.map split, Legible e := by
  rw [List.forall_mem_map]
  exact fun e he => (h e he).legible

theorem map_render_eq (h : ∀ e ∈ es, Clear e) : (es.map split).map render = es.map render := by
  rw [List.map_map]
  exact List.map_congr_left fun e he => (h e he).render_eq

/-- A call is spelled by the steps of its name. -/
theorem spelling_invoke {f : String} (hf : Addressable f) (h : ∀ e ∈ es, Clear e) :
    Spelling (invoke f es).render (calledSteps f (es.map split)) := by
  have htext : (invoke f (es.map split)).render = (invoke f es).render := by
    rw [render_invoke, render_invoke, map_render_eq h]
  exact htext ▸ Spelling.called hf (forall_legible h)

theorem name {n : String} (hn : Addressable n) : Clear (.name n) where
  legible := (Spelling.named hn).legible
  render_eq := (Spelling.named hn).render_eq

theorem invoke {f : String} (hf : Addressable f) (h : ∀ e ∈ es, Clear e) :
    Clear (.invoke f es) where
  legible := split_invoke f es ▸ (spelling_invoke hf h).legible
  render_eq := split_invoke f es ▸ (spelling_invoke hf h).render_eq

theorem operation {operator : String} (hoperator : operator ∈ infixes) (htwo : 2 ≤ es.length)
    (h : ∀ e ∈ es, Clear e) : Clear (.operation operator es) where
  legible := by
    rw [split_operation]
    exact .operation hoperator (by simpa using htwo) (forall_legible h)
  render_eq := by
    rw [split_operation, render_operation, render_operation, map_render_eq h]

/-- What a chain consists of. -/
inductive IsStep : JavaExpr → Prop
  | name {n : String} (addressable : Addressable n) : IsStep (.name n)
  | invoke {f : String} {arguments : List JavaExpr} (addressable : Addressable f)
      (clear : ∀ a ∈ arguments, Clear a) : IsStep (.invoke f arguments)

theorem IsStep.clear {e : JavaExpr} (h : IsStep e) : Clear e := by
  cases h with
  | name addressable => exact .name addressable
  | invoke addressable clear => exact .invoke addressable clear

theorem measurable_path (ss : List Step) : (path (ss.map Step.expr)).Measurable := by
  match ss with
  | [] => trivial
  | [⟨_, none⟩] => trivial
  | [⟨_, some _⟩] => trivial
  | _ :: _ :: _ => trivial

theorem IsStep.measurable {e : JavaExpr} (h : IsStep e) : e.split.Measurable := by
  cases h with
  | name => exact measurable_path _
  | invoke =>
    rw [split_invoke]
    exact measurable_path _

/-- The steps of a chain are split one by one. -/
theorem exists_spelling {steps : List JavaExpr} (hne : steps ≠ []) (h : ∀ e ∈ steps, IsStep e) :
    ∃ ss, splitSteps steps = ss.map Step.expr
      ∧ Spelling (String.intercalate "." (steps.map render)) ss := by
  induction steps with
  | nil => exact absurd rfl hne
  | cons first steps ih =>
    have hfirst : ∃ ss, splitSteps (first :: steps) = ss.map Step.expr ++ splitSteps steps
        ∧ Spelling first.render ss := by
      cases h first List.mem_cons_self with
      | name addressable => exact ⟨_, rfl, .named addressable⟩
      | invoke addressable clear =>
        exact ⟨_, splitSteps_invoke _ _ steps, spelling_invoke addressable clear⟩
    obtain ⟨ss, hss, hspelling⟩ := hfirst
    cases steps with
    | nil => exact ⟨ss, by simp [hss, splitSteps], by simpa using hspelling⟩
    | cons second steps =>
      obtain ⟨others, hothers, hspellings⟩ :=
        ih (List.cons_ne_nil _ _) fun e he => h e (List.mem_cons_of_mem _ he)
      refine ⟨ss ++ others, by rw [hss, hothers, List.map_append], ?_⟩
      have hboth := hspelling.append hspellings
      rwa [List.map_cons, List.map_cons, String.intercalate_cons_cons, ← List.map_cons]

theorem chain {steps : List JavaExpr} (hne : steps ≠ []) (h : ∀ e ∈ steps, IsStep e) :
    Clear (.chain steps) := by
  obtain ⟨ss, hss, hspelling⟩ := exists_spelling hne h
  constructor
  · rw [split_chain, hss]
    exact hspelling.legible
  · rw [split_chain, hss, hspelling.render_eq, render_chain]

theorem measurable_chain {steps : List JavaExpr} (hne : steps ≠ []) (h : ∀ e ∈ steps, IsStep e) :
    (JavaExpr.chain steps).split.Measurable := by
  obtain ⟨ss, hss, -⟩ := exists_spelling hne h
  rw [split_chain, hss]
  exact measurable_path ss

section

variable {e left right : JavaExpr}

theorem not (h : Clear e) : Clear (.not e) where
  legible := .not h.legible
  render_eq := by
    show (JavaExpr.not e.split).render = _
    rw [render_not, render_not, h.render_eq]

theorem length (h : Clear e) (hmeasurable : e.split.Measurable) : Clear (.length e) where
  legible := .length h.legible hmeasurable
  render_eq := by
    show (JavaExpr.length e.split).render = _
    rw [render_length, render_length, h.render_eq]

theorem stringOf (h : Clear e) : Clear (.stringOf e) where
  legible := .stringOf h.legible
  render_eq := by
    show (JavaExpr.stringOf e.split).render = _
    rw [render_stringOf, render_stringOf, h.render_eq]

theorem objectsEqual (hleft : Clear left) (hright : Clear right) :
    Clear (.objectsEqual left right) where
  legible := .objectsEqual hleft.legible hright.legible
  render_eq := by
    show (JavaExpr.objectsEqual left.split right.split).render = _
    rw [render_objectsEqual, render_objectsEqual, hleft.render_eq, hright.render_eq]

theorem group (h : Clear e) : Clear (.group e) where
  legible := .group h.legible
  render_eq := by
    show (JavaExpr.group e.split).render = _
    rw [render_group, render_group, h.render_eq]

end

end Clear

end JavaExpr

theorem Item.declarable_of_checkName {item : Item} {project : String}
    (h : item.checkName project = .ok ()) : JavaExpr.Declarable item.name where
  isIdentifier := Item.isIdentifier_of_checkName h
  not_reserved := by
    rw [checkName] at h
    split at h
    · cases h
    split at h
    · cases h
    · next hreserved => simpa using hreserved

namespace SymbolTable

open JavaExpr (Addressable Clear Spelling Step Measurable splitSteps)

variable {t : SymbolTable} {root : Item}

/-! ## Names in a table -/

/-- Every name of a table can be declared. -/
def Declarable (t : SymbolTable) : Prop := ∀ s ∈ t.symbols, JavaExpr.Declarable s.item.name

theorem addressable_of_spells {n : String} {names : List String} (h : Spells n names)
    (hnames : ∀ name ∈ names, JavaExpr.Declarable name) : Addressable n := by
  constructor <;> rwa [h.segments_eq]

theorem addressable_singleton {name : String} (h : JavaExpr.Declarable name) : Addressable name :=
  addressable_of_spells (.singleton h.isIdentifier) (by simpa using h)

theorem addressable_join {n name : String} (hn : Addressable n)
    (h : JavaExpr.Declarable name) : Addressable (FullName.join n name) := by
  refine addressable_of_spells (hn.spells.join h.isIdentifier) ?_
  simpa [or_imp, forall_and] using ⟨hn.declarable, h⟩

variable (hnames : t.Declarable) (ht : t.Lists root)

include hnames ht

theorem addressable_fullName {s : Symbol} (hs : s ∈ t.symbols) : Addressable s.fullName := by
  refine ht.induction (P := fun s => Addressable s.fullName) ?_ ?_ hs
  · exact addressable_singleton (hnames _ ht.root_mem)
  · intro outer houter ih s hchild
    rw [hchild.fullName_eq]
    exact addressable_join ih (hnames s (ht.mem_of_isChild houter hchild))

theorem addressable_reference {s : Symbol} (hs : s ∈ t.symbols) : Addressable s.reference := by
  unfold Symbol.reference
  split
  · have hfull := addressable_fullName hnames ht hs
    rw [← FullName.join_of_ne s.item.name hfull.spells.ne_empty]
    exact addressable_join hfull (hnames s hs)
  · exact addressable_singleton (hnames s hs)

omit hnames ht

/-- The names of the basic types are no names of classes. -/
theorem not_addressable_of_basic {n : String} (h : n ∈ ["double", "boolean", "String"]) :
    ¬ Addressable n := by
  intro haddressable
  have hdeclarable := haddressable.declarable
  simp only [List.mem_cons, List.not_mem_nil, or_false] at h
  rcases h with rfl | rfl | rfl
  · exact Java.not_mem_keywords (hdeclarable "double" (by decide)).isIdentifier (by decide)
  · exact Java.not_mem_keywords (hdeclarable "boolean" (by decide)).isIdentifier (by decide)
  · exact (hdeclarable "String" (by decide)).not_reserved (by decide)

/-! ## Operators -/

theorem infix_of_form {operator : Operator} {token : String}
    (h : operator.form = .joined token ∨ operator.form = .comparison token) :
    token ∈ JavaExpr.infixes := by
  cases operator <;> simp [Operator.form, JavaExpr.infixes] at h ⊢ <;> simp [← h]

theorem length_consecutive (compare : JavaExpr → JavaExpr → JavaExpr) (es : List JavaExpr) :
    (consecutive compare es).length = es.length - 1 := by
  fun_induction consecutive compare es with
  | case1 a b rest ih => simp [ih]
  | case2 es hshort =>
    match es with
    | [] => rfl
    | [e] => rfl
    | a :: b :: rest => exact absurd rfl (hshort a b rest)

theorem forall_consecutive {P : JavaExpr → Prop} {compare : JavaExpr → JavaExpr → JavaExpr}
    {es : List JavaExpr} (h : ∀ a ∈ es, ∀ b ∈ es, P (compare a b)) :
    ∀ e ∈ consecutive compare es, P e := by
  fun_induction consecutive compare es with
  | case1 a b rest ih =>
    rw [List.forall_mem_cons]
    exact ⟨h a (by simp) b (by simp), ih fun c hc d hd =>
      h c (List.mem_cons_of_mem _ hc) d (List.mem_cons_of_mem _ hd)⟩
  | case2 => simp

/-- Comparisons of clear operands are clear together. -/
theorem clear_comparisons {compare : JavaExpr → JavaExpr → JavaExpr} {es : List JavaExpr}
    (htwo : 2 ≤ es.length) (h : ∀ a ∈ es, ∀ b ∈ es, Clear (compare a b)) :
    Clear (conjunction (consecutive compare es)) := by
  have hall := forall_consecutive h
  have hlength := length_consecutive compare es
  unfold conjunction
  split
  · next comparison heq => exact hall comparison (heq ▸ List.mem_singleton_self _)
  · next hmany =>
    refine .operation (by decide) ?_ hall
    match hcomparisons : consecutive compare es with
    | [] => rw [hcomparisons, List.length_nil] at hlength; omega
    | [e] => exact absurd hcomparisons (hmany e)
    | a :: b :: rest => simp

theorem clear_equalityTest (negated : Bool) {a b : JavaExpr} (ha : Clear a) (hb : Clear b) :
    Clear (equalityTest negated a b) := by
  cases negated with
  | true => exact (ha.objectsEqual hb).not
  | false => exact (ha.objectsEqual hb).group

/-- Clear operands are combined to a clear expression. -/
theorem clear_combine {operator : Operator} {es : List JavaExpr} {e : JavaExpr}
    (harity : operator.arity.accepts es.length = true) (hes : ∀ e ∈ es, Clear e)
    (hlength : operator.form = .length → ∀ e ∈ es, e.split.Measurable)
    (h : combine operator es = .ok e) : Clear e := by
  have htwo := two_le_of_accepts harity
  unfold combine at h
  split at h
  · next token hform =>
    cases h
    exact .operation (infix_of_form (Or.inl hform)) (htwo (by simp [hform]) (by simp [hform])) hes
  · next hform =>
    cases h
    refine .operation (by decide) ?_ (List.forall_mem_map.2 fun e he => (hes e he).stringOf)
    simpa using htwo (by simp [hform]) (by simp [hform])
  · split at h
    · cases h
      exact (hes _ (by simp)).not
    · cases h
  · next hform =>
    split at h
    · cases h
      exact (hes _ (by simp)).length (hlength hform _ (by simp))
    · cases h
  · next token hform =>
    cases h
    refine clear_comparisons (htwo (by simp [hform]) (by simp [hform])) fun a ha b hb => ?_
    exact .operation (infix_of_form (Or.inr hform)) (by simp) (by simp [hes a ha, hes b hb])
  · next negated hform =>
    cases h
    refine clear_comparisons (htwo (by simp [hform]) (by simp [hform])) fun a ha b hb => ?_
    exact clear_equalityTest negated (hes a ha) (hes b hb)

theorem firstMistyped_eq_none {expected : ValueType} {position : Nat} {operands : List Statement}
    (h : firstMistyped expected position operands = none) {s : Statement} (hs : s ∈ operands)
    {found : ValueType} (hfound : s.valueType? = some found) : found = expected := by
  fun_induction firstMistyped expected position operands with
  | case1 => cases hs
  | case2 position first rest hfirst ih =>
    rcases List.mem_cons.1 hs with rfl | hs
    · exact Option.some.inj (hfound.symm.trans hfirst)
    · exact ih h hs
  | case3 => cases h
  | case4 position first rest hfirst ih =>
    rcases List.mem_cons.1 hs with rfl | hs
    · rw [hfirst] at hfound
      cases hfound
    · exact ih h hs

theorem eq_text_of_checkOperands {operator : Operator} {operands : List Statement}
    (hform : operator.form = .length) (h : checkOperands operator operands = .ok ())
    {s : Statement} (hs : s ∈ operands) {found : ValueType} (hfound : s.valueType? = some found) :
    found = .text := by
  obtain rfl : operator = .length := by cases operator <;> first | rfl | cases hform
  unfold checkOperands at h
  split at h
  · simp only [Operator.operandType?] at h
    split at h
    · cases h
    · next hnone => exact firstMistyped_eq_none hnone hs hfound
  · cases h

/-- The only operator whose results are texts. -/
theorem eq_concat_of_valueType {kind : StatementKind} {operator : Operator}
    (hoperator : Operator.ofKind? kind = some operator)
    (h : ∀ found, kind.valueType? = some found → found = .text) : operator = .concat := by
  obtain rfl := (Operator.ofKind?_eq_some_iff kind operator).1 hoperator
  cases operator <;> first | rfl | exact absurd (h _ rfl) (by decide)

/-- The only literals that are texts. -/
theorem eq_text_of_valueType {kind : StatementKind}
    (h : ∀ found, kind.valueType? = some found → found = .text)
    (hoperator : Operator.ofKind? kind = none) (hcall : kind ≠ .call) : kind = .text := by
  cases kind <;> first
    | rfl
    | exact absurd rfl hcall
    | exact absurd (h _ rfl) (by decide)
    | cases hoperator

/-! ## Chains and literals -/

theorem clear_chainSteps {steps : List JavaExpr} {e : JavaExpr}
    (hsteps : ∀ step ∈ steps, Clear.IsStep step) (h : chainSteps steps = .ok e) :
    Clear e ∧ e.split.Measurable := by
  unfold chainSteps at h
  split at h
  · cases h
  · cases h
    have hstep := hsteps e (by simp)
    exact ⟨hstep.clear, hstep.measurable⟩
  · next hempty _ =>
    cases h
    exact ⟨.chain hempty hsteps, Clear.measurable_chain hempty hsteps⟩

section

variable (hnames : t.Declarable) (ht : t.Lists root)

include hnames ht

/-- The types that objects are made of can be told apart by their names. -/
theorem creatable_resolveType {typeName : String} {type : JavaType}
    (h : t.resolveType typeName = .ok type) : JavaExpr.Creatable type := by
  unfold resolveType at h
  split at h
  · cases h; exact .double
  split at h
  · cases h; exact .boolean
  split at h
  · cases h; exact .string
  split at h
  · next s hs =>
    split at h
    · cases h
      have hmem := (ht.find?_eq_some_iff.1 hs).1
      have haddressable := addressable_fullName hnames ht hmem
      refine .class (fun hbasic => ?_) fun hopening => ?_
      · exact not_addressable_of_basic hbasic haddressable
      · rcases haddressable.spells.isPart_or_eq_dot hopening with hpart | hdot
        · exact absurd hpart (by decide)
        · exact absurd hdot (by decide)
    · cases h
  · cases h

theorem clear_literal {kind : StatementKind} {value : Option Json} {e : JavaExpr}
    (h : t.lowerLiteral kind value = .ok e) :
    Clear e ∧ (kind = .text → e.split.Measurable) := by
  unfold lowerLiteral at h
  split at h
  · cases h
  · split at h
    · unfold lowerNumber at h
      split at h
      · cases h; exact ⟨⟨.number _, rfl⟩, nofun⟩
      · cases h
    · refine ⟨?_, nofun⟩
      unfold lowerTruth at h
      split at h
      · cases h; exact ⟨.boolean _, rfl⟩
      · split at h
        · cases h; exact ⟨.boolean _, rfl⟩
        · cases h
      · cases h
    · unfold lowerText at h
      split at h
      · cases h; exact ⟨⟨.text _, rfl⟩, fun _ => trivial⟩
      · cases h; exact ⟨⟨.text _, rfl⟩, fun _ => trivial⟩
      · cases h; exact ⟨⟨.text _, rfl⟩, fun _ => trivial⟩
      · cases h
    · next hkind =>
      refine ⟨?_, fun htext => absurd htext hkind⟩
      unfold lowerObject at h
      split at h
      · obtain ⟨type, htype, h⟩ := bind_eq_ok.1 h
        cases h
        exact ⟨.new (creatable_resolveType hnames ht htype), rfl⟩
      · cases h

/-- Statements become clear expressions, and those that can be texts measurable ones. -/
theorem clear_lower {s : Statement} {e : JavaExpr} (h : t.lower s = .ok e) :
    Clear e ∧ ((∀ found, s.valueType? = some found → found = .text) → e.split.Measurable) := by
  induction s using Statement.induction generalizing e with
  | h s ihOperands ihCalls =>
    -- that an operand of a length can be measured follows from the types that operators check
    cases hoperator : Operator.ofKind? s.kind with
    | some operator =>
      obtain ⟨harity, hcheck, es, hes, hcombine⟩ := (lower_operator hoperator).1 h
      have hoperands := lowerAll_eq_ok_iff.1 hes
      rw [hoperands.length_eq] at harity
      have hclear : ∀ e ∈ es, Clear e := by
        intro e he
        obtain ⟨operand, hoperand, hlower⟩ := exists_left_of_forall₂ hoperands he
        exact (ihOperands operand hoperand hlower).1
      have hlength : operator.form = .length → ∀ e ∈ es, e.split.Measurable := by
        intro hform e he
        obtain ⟨operand, hoperand, hlower⟩ := exists_left_of_forall₂ hoperands he
        exact (ihOperands operand hoperand hlower).2 fun found hfound =>
          eq_text_of_checkOperands hform hcheck hoperand hfound
      refine ⟨clear_combine harity hclear hlength hcombine, fun htype => ?_⟩
      obtain rfl := eq_concat_of_valueType hoperator htype
      cases hcombine
      trivial
    | none =>
      by_cases hcall : s.kind = .call
      · obtain ⟨steps, hsteps, hchain⟩ := (lower_call hcall).1 h
        have hclear : ∀ step ∈ steps, Clear.IsStep step := by
          intro step hstep
          obtain ⟨call, hcall, hto⟩ := exists_left_of_forall₂ (lowerCalls_eq_ok_iff.1 hsteps) hstep
          cases hto with
          | name found =>
            exact .name (addressable_reference hnames ht (ht.find?_eq_some_iff.1 found).1)
          | invoke found kind lowered =>
            refine .invoke (addressable_reference hnames ht (ht.find?_eq_some_iff.1 found).1) ?_
            intro a ha
            obtain ⟨s, hs, hlower⟩ := exists_left_of_forall₂ (lowerAll_eq_ok_iff.1 lowered) ha
            exact (ihCalls call hcall s hs hlower).1
        obtain ⟨hclear, hmeasurable⟩ := clear_chainSteps hclear hchain
        exact ⟨hclear, fun _ => hmeasurable⟩
      · rw [lower_literal hoperator hcall] at h
        obtain ⟨hclear, hmeasurable⟩ := clear_literal hnames ht h
        exact ⟨hclear, fun htype => hmeasurable (eq_text_of_valueType htype hoperator hcall)⟩

end

/-- Two statements become expressions with the same text only if these differ at most in how dotted
    names are split into steps, so no text depends on precedence for its meaning. -/
theorem lower_render_eq_iff (hbuild : build root = .ok t)
    (hnames : ∀ s ∈ t.symbols, ∃ project, s.item.checkName project = .ok ())
    {s s' : Statement} {e e' : JavaExpr} (hs : t.lower s = .ok e) (hs' : t.lower s' = .ok e') :
    e.render = e'.render ↔ e.split = e'.split := by
  have ht := build_eq_ok_iff.1 hbuild
  have hdeclarable : t.Declarable := by
    intro s hs
    obtain ⟨project, hname⟩ := hnames s hs
    exact Item.declarable_of_checkName hname
  have hclear := (clear_lower hdeclarable ht hs).1
  have hclear' := (clear_lower hdeclarable ht hs').1
  -- splitting keeps the texts, and the split expressions are read back from them
  rw [← hclear.render_eq, ← hclear'.render_eq]
  constructor
  · exact hclear.legible.render_injective hclear'.legible
  · exact congrArg JavaExpr.render

end SymbolTable

/-! ## Two ways to the same text -/

/-- A tree in which a variable has a package of its own name in it, and there is a plain field. -/
def maze : Item where
  name := "Demo"
  kind := .project
  children := [
    { name := "x", kind := .variable, children := [
      { name := "x", kind := .package, children := [{ name := "a", kind := .variable }] }] },
    { name := "c", kind := .classItem, children := [{ name := "a", kind := .variable }] }]

/-- Its table. -/
def mazeTable : SymbolTable := ⟨maze.symbols "" none, []⟩

/-- Two fields deep into the first variable. -/
def fieldsOfVariable : Statement := .call [⟨"Demo.x", []⟩, ⟨"Demo.c.a", []⟩, ⟨"Demo.c.a", []⟩]

/-- The variable in the package. -/
def packagedVariable : Statement := .call [⟨"Demo.x.x.a", []⟩]

/-- Both statements are written alike; their expressions differ in how the names are split. -/
theorem maze_split_eq : SymbolTable.build maze = .ok mazeTable
    ∧ (∀ s ∈ mazeTable.symbols, ∃ project, s.item.checkName project = .ok ())
    ∧ mazeTable.lower fieldsOfVariable = .ok (.chain [.name "Demo.x.x", .name "a", .name "a"])
    ∧ mazeTable.lower packagedVariable = .ok (.name "Demo.x.x.a.a")
    ∧ (JavaExpr.chain [.name "Demo.x.x", .name "a", .name "a"]).split
      = (JavaExpr.name "Demo.x.x.a.a").split := by
  have hbuild : SymbolTable.build maze = .ok mazeTable := rfl
  have hnames : ∀ s ∈ mazeTable.symbols, ∃ project, s.item.checkName project = .ok () := by
    intro s hs
    refine ⟨"Demo", ?_⟩
    simp only [mazeTable, maze, Item.symbols, Item.symbolsAll, List.append_nil, List.cons_append,
      List.nil_append, List.mem_cons, List.not_mem_nil, or_false] at hs
    rcases hs with rfl | rfl | rfl | rfl | rfl | rfl <;> rfl
  have hfields : mazeTable.lower fieldsOfVariable
      = .ok (.chain [.name "Demo.x.x", .name "a", .name "a"]) := rfl
  have hpackaged : mazeTable.lower packagedVariable = .ok (.name "Demo.x.x.a.a") := rfl
  have hrender : (JavaExpr.chain [.name "Demo.x.x", .name "a", .name "a"]).render
      = (JavaExpr.name "Demo.x.x.a.a").render := by decide
  exact ⟨hbuild, hnames, hfields, hpackaged,
    (SymbolTable.lower_render_eq_iff hbuild hnames hfields hpackaged).1 hrender⟩

end Flowchart
