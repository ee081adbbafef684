import Flowchart.Proofs.Names
import Flowchart.Proofs.Reader

set_option autoImplicit false

/-! # Expressions read back

Legible expressions are read back from their texts, so no two of them have the same text. What has
to be known of a subexpression is that it is read whatever follows it, and how its text starts: the
reader decides by the first characters which form it reads. -/

namespace Flowchart

theorem JavaExpr.Declarable.all_isPart {name : String} (h : Declarable name) :
    name.toList.all Java.isPart = true :=
  List.all_eq_true.2 fun _ hc => Java.isPart_of_mem h.isIdentifier hc

namespace Reader

open Java (isPart isStart)

/-! ## Joined texts -/

theorem exists_cons_cons {es : List JavaExpr} (h : 2 ≤ es.length) :
    ∃ e f others, es = e :: f :: others := by
  rcases es with _ | ⟨e, _ | ⟨f, others⟩⟩
  · simp at h
  · simp at h
  · exact ⟨e, f, others, rfl⟩

/-- The texts of expressions with a separator between them. -/
def joined (separator : String) (es : List JavaExpr) : List Char :=
  separator.toList.intercalate (es.map (·.render.toList))

theorem joined_singleton (separator : String) (e : JavaExpr) :
    joined separator [e] = e.render.toList :=
  List.intercalate_singleton

theorem joined_cons_cons (separator : String) (e f : JavaExpr) (es : List JavaExpr) :
    joined separator (e :: f :: es)
      = e.render.toList ++ (separator.toList ++ joined separator (f :: es)) := by
  rw [← List.append_assoc]
  exact List.intercalate_cons_cons

theorem toList_intercalate_render (separator : String) (es : List JavaExpr) :
    (String.intercalate separator (es.map JavaExpr.render)).toList = joined separator es := by
  rw [String.toList_intercalate, List.map_map]
  rfl

theorem toList_render_operation (operator : String) (operands : List JavaExpr) :
    (JavaExpr.operation operator operands).render.toList
      = "(".toList ++ (joined (" " ++ operator ++ " ") operands ++ ")".toList) := by
  rw [JavaExpr.render_operation, String.toList_append, String.toList_append,
    toList_intercalate_render, List.append_assoc]

theorem head_number (d : Double) : ∃ c, (JavaExpr.number d).render.toList.head? = some c
    ∧ (c.isDigit = true ∨ c = '-' ∨ c = 'D') := by
  match d with
  | .nan => exact ⟨'D', rfl, by simp⟩
  | .infinite false => exact ⟨'D', rfl, by simp⟩
  | .infinite true => exact ⟨'D', rfl, by simp⟩
  | .finite negative a =>
    obtain ⟨c, cs, htext, hc⟩ := Java.numberFormat.head_finite negative a
    exact ⟨c, congrArg List.head? htext, hc.imp_right Or.inl⟩

theorem toList_render_step (s : JavaExpr.Step) : ∃ tail,
    s.expr.render.toList = s.name.toList ++ tail ∧ ∀ c ∈ tail.head?, isPart c = false := by
  obtain ⟨name, _ | as⟩ := s
  · exact ⟨[], by simp [JavaExpr.Step.expr], by simp⟩
  · refine ⟨"(".toList ++ (joined ", " as ++ ")".toList), ?_, by simp; decide⟩
    simp [JavaExpr.Step.expr, ← toList_intercalate_render]

theorem toList_render_path (s : JavaExpr.Step) (steps : List JavaExpr.Step) : ∃ tail,
    (JavaExpr.path ((s :: steps).map JavaExpr.Step.expr)).render.toList = s.name.toList ++ tail
      ∧ ∀ c ∈ tail.head?, isPart c = false := by
  obtain ⟨tail, htext, htail⟩ := toList_render_step s
  rw [JavaExpr.render_path, toList_intercalate_render]
  cases steps with
  | nil => exact ⟨tail, (joined_singleton "." s.expr).trans htext, htail⟩
  | cons next steps =>
    refine ⟨tail ++ (".".toList ++ joined "." ((next :: steps).map JavaExpr.Step.expr)), ?_, ?_⟩
    · rw [List.map_cons, List.map_cons, joined_cons_cons, htext, List.append_assoc]
    · cases tail with
      | nil => simp; decide
      | cons c tail => exact htail

/-- An expression starts with a declared name, or like no name, negation or end of a list. -/
theorem start_of_legible {e : JavaExpr} (h : e.Legible) :
    (∃ name tail, JavaExpr.Declarable name ∧ e.render.toList = name.toList ++ tail
        ∧ ∀ c ∈ tail.head?, isPart c = false)
      ∨ ∃ c, e.render.toList.head? = some c ∧ c ∉ ['!', ')', 'd'] := by
  cases h with
  | number d =>
    obtain ⟨c, htext, hc⟩ := head_number d
    refine .inr ⟨c, htext, fun hmem => ?_⟩
    simp only [List.mem_cons, List.not_mem_nil, or_false] at hmem
    rcases hmem with rfl | rfl | rfl <;> revert hc <;> decide
  | boolean b => cases b <;> exact .inr ⟨_, rfl, by decide⟩
  | text s => exact .inr ⟨'"', by simp [Java.stringLiteral], by decide⟩
  | new => exact .inr ⟨'n', by simp, by decide⟩
  | @path steps ne_nil declarable arguments =>
    obtain ⟨s, steps, rfl⟩ := List.exists_cons_of_ne_nil ne_nil
    obtain ⟨tail, htext, htail⟩ := toList_render_path s steps
    exact .inl ⟨s.name, tail, declarable s List.mem_cons_self, htext, htail⟩
  | stringOf => exact .inr ⟨'S', by simp, by decide⟩
  | objectsEqual => exact .inr ⟨'j', by simp, by decide⟩
  | operation | not | length | group => exact .inr ⟨'(', by simp, by decide⟩

/-- Expressions start neither like a negation nor like the end of a list. -/
theorem skip?_of_legible {e : JavaExpr} (h : e.Legible) (rest : List Char) :
    skip? "!" (e.render.toList ++ rest) = none ∧ skip? ")" (e.render.toList ++ rest) = none := by
  have hhead : ∃ c, e.render.toList.head? = some c ∧ c ≠ '!' ∧ c ≠ ')' := by
    rcases start_of_legible h with ⟨name, tail, hname, htext, -⟩ | ⟨c, htext, hc⟩
    · obtain ⟨c, cs, hcs, hc⟩ := Java.isStart_head hname.isIdentifier
      refine ⟨c, by rw [htext, hcs]; rfl, ?_, ?_⟩ <;>
      · rintro rfl
        exact absurd hc (by decide)
    · simp only [List.mem_cons, List.not_mem_nil, or_false, not_or] at hc
      exact ⟨c, htext, hc.1, hc.2.1⟩
  obtain ⟨c, hc, hnot, hclosing⟩ := hhead
  exact ⟨skip?_append_eq_none (by decide) hc (by simpa using hnot.symm) rest,
    skip?_append_eq_none (by decide) hc (by simpa using hclosing.symm) rest⟩

/-- No expression is what a cast has behind its opening parenthesis. -/
theorem skip?_double_of_legible {e : JavaExpr} (h : e.Legible) {rest : List Char}
    (hrest : Ends rest) : skip? "double) " (e.render.toList ++ rest) = none := by
  rcases start_of_legible h with ⟨name, tail, hname, htext, htail⟩ | ⟨c, htext, hc⟩
  · refine if_neg fun hprefix => ?_
    obtain ⟨behind, hbehind⟩ := List.isPrefixOf_iff_prefix.1 hprefix
    have hends : ∀ c ∈ (tail ++ rest).head?, isPart c = false := by
      cases tail with
      | nil => exact hrest.isPart
      | cons => exact htail
    -- the word that the text starts with is the name on one side, a keyword on the other
    have hwords : word ("double".toList ++ (") ".toList ++ behind))
        = word (name.toList ++ (tail ++ rest)) := by
      rw [← List.append_assoc, ← List.append_assoc, ← htext, ← hbehind]
      rfl
    rw [word_append (by decide) (by simp; decide),
      word_append hname.all_isPart hends] at hwords
    exact Java.not_mem_keywords hname.isIdentifier ((Prod.mk.inj hwords).1 ▸ by decide)
  · simp only [List.mem_cons, List.not_mem_nil, or_false, not_or] at hc
    exact skip?_append_eq_none (by decide) htext (by simpa using Ne.symm hc.2.2) rest

/-- Nothing in parentheses starts like a cast. -/
theorem skip?_cast_of_legible {e : JavaExpr} (h : e.Legible) (rest : List Char) :
    skip? "(double) " (e.render.toList ++ rest) = none := by
  have hopening (cs : List Char) : skip? "(double) " ("(".toList ++ cs) = skip? "double) " cs :=
    skip?_append_append "(" "double) " cs
  cases h with
  | number d =>
    obtain ⟨c, htext, hc⟩ := head_number d
    refine skip?_append_eq_none (by decide) htext (fun heq => ?_) rest
    obtain rfl := Option.some.inj heq
    revert hc
    decide
  | boolean b => cases b <;> exact skip?_append_eq_none (by decide) rfl (by decide) rest
  | text s =>
    have hquote : (JavaExpr.text s).render.toList.head? = some '"' := by simp [Java.stringLiteral]
    exact skip?_append_eq_none (by decide) hquote (by decide) rest
  | new => exact skip?_append_eq_none (c := 'n') (by decide) (by simp) (by decide) rest
  | @path steps ne_nil declarable arguments =>
    obtain ⟨s, steps, rfl⟩ := List.exists_cons_of_ne_nil ne_nil
    obtain ⟨tail, htext, -⟩ := toList_render_path s steps
    obtain ⟨c, cs, hcs, hc⟩ := Java.isStart_head (declarable s List.mem_cons_self).isIdentifier
    refine skip?_append_eq_none (c := c) (by decide) (by rw [htext, hcs]; rfl) ?_ rest
    rintro heq
    obtain rfl := Option.some.inj heq
    exact absurd hc (by decide)
  | stringOf => exact skip?_append_eq_none (c := 'S') (by decide) (by simp) (by decide) rest
  | objectsEqual => exact skip?_append_eq_none (c := 'j') (by decide) (by simp) (by decide) rest
  | @operation operator operands operator_mem two_le legible =>
    obtain ⟨e, f, others, rfl⟩ := exists_cons_cons two_le
    rw [toList_render_operation, List.append_assoc, hopening, joined_cons_cons, List.append_assoc,
      List.append_assoc]
    exact skip?_double_of_legible (legible e List.mem_cons_self) (by simp [Ends])
  | @not operand legible =>
    have htext : (JavaExpr.not operand).render.toList ++ rest
        = "(".toList ++ ("!".toList ++ (operand.render.toList ++ ")".toList) ++ rest) := by simp
    rw [htext, hopening]
    exact skip?_append_eq_none (c := '!') (by decide) rfl (by decide) rest
  | @length operand legible =>
    have htext : (JavaExpr.length operand).render.toList ++ rest = "(".toList
        ++ ("(double) ".toList ++ (operand.render.toList ++ ".length())".toList) ++ rest) := by simp
    rw [htext, hopening]
    exact skip?_append_eq_none (c := '(') (by decide) rfl (by decide) rest
  | @group operand legible =>
    have htext : (JavaExpr.group operand).render.toList ++ rest
        = "(".toList ++ (operand.render.toList ++ (")".toList ++ rest)) := by simp
    rw [htext, hopening]
    exact skip?_double_of_legible legible (by simp [Ends])

/-! ### Lists -/

theorem reads_arguments {arguments : List JavaExpr} (hlegible : ∀ a ∈ arguments, a.Legible)
    (hread : ∀ a ∈ arguments, ReadsBack a) :
    Reads Anything readArguments (joined ", " arguments ++ ")".toList) arguments := by
  induction arguments with
  | nil => exact .of_succ 0 fun fuel _ rest _ => by rw [readArguments]; rfl
  | cons a arguments ih =>
    have hopen (rest : List Char) : skip? ")" (a.render.toList ++ rest) = none :=
      (skip?_of_legible (hlegible a List.mem_cons_self) rest).2
    obtain ⟨n, hfirst⟩ := hread a List.mem_cons_self
    cases arguments with
    | nil =>
      refine .of_succ n fun fuel hfuel rest _ => ?_
      rw [joined_singleton, List.append_assoc, readArguments, hopen,
        hfirst fuel hfuel _ (by simp [Ends])]
      rfl
    | cons b arguments =>
      obtain ⟨m, hothers⟩ := ih (fun a ha => hlegible a (List.mem_cons_of_mem _ ha))
        (fun a ha => hread a (List.mem_cons_of_mem _ ha))
      refine .of_succ (max n m) fun fuel hfuel rest hrest => ?_
      rw [joined_cons_cons, List.append_assoc, List.append_assoc, List.append_assoc,
        ← List.append_assoc (joined _ _), readArguments, hopen,
        hfirst fuel (by omega) _ (by simp [Ends])]
      simp only [Option.bind_eq_bind, Option.bind_some, skip?_append,
        hothers fuel (by omega) rest hrest]
      rfl

/-- The operands behind the first one, each with a blank in front of it. -/
theorem reads_operands (operator : String) {operands : List JavaExpr} (hne : operands ≠ [])
    (hread : ∀ e ∈ operands, ReadsBack e) :
    Reads Anything (fun fuel => readOperands fuel operator)
      (" ".toList ++ (joined (" " ++ operator ++ " ") operands ++ ")".toList)) operands := by
  induction operands with
  | nil => exact absurd rfl hne
  | cons e operands ih =>
    obtain ⟨n, hfirst⟩ := hread e List.mem_cons_self
    cases operands with
    | nil =>
      refine .of_succ n fun fuel hfuel rest _ => ?_
      rw [joined_singleton, List.append_assoc, List.append_assoc, readOperands, skip?_append,
        Option.bind_eq_bind, Option.bind_some, hfirst fuel hfuel _ (by simp [Ends])]
      rfl
    | cons f operands =>
      obtain ⟨m, hothers⟩ := ih (by simp) (fun e he => hread e (List.mem_cons_of_mem _ he))
      refine .of_succ (max n m) fun fuel hfuel rest hrest => ?_
      have hblank (rest : List Char) : skip? ")" ((" " ++ operator ++ " ").toList ++ rest) = none :=
        skip?_eq_none (by decide) (by simp)
      have hseparator : (" " ++ operator ++ " ").toList = (" " ++ operator).toList ++ " ".toList :=
        String.toList_append
      rw [joined_cons_cons, List.append_assoc, List.append_assoc, List.append_assoc,
        List.append_assoc, readOperands, skip?_append, Option.bind_eq_bind, Option.bind_some,
        hfirst fuel (by omega) _ (by simp [Ends])]
      have hread : readOperands fuel operator (" ".toList
          ++ (joined (" " ++ operator ++ " ") (f :: operands) ++ (")".toList ++ rest)))
          = some (f :: operands, rest) := by
        rw [← List.append_assoc, ← List.append_assoc, List.append_assoc " ".toList]
        exact hothers fuel (by omega) rest hrest
      simp only [Option.bind_eq_bind, Option.bind_some, hblank]
      rw [hseparator, List.append_assoc, skip?_append, Option.bind_some, hread]
      rfl

/-! ### Paths -/

/-- The characters behind a path. -/
def EndsPath (rest : List Char) : Prop :=
  ∀ c ∈ rest.head?, isPart c = false ∧ c ≠ '(' ∧ c ≠ '.'

theorem Ends.endsPath {rest : List Char} (h : Ends rest) : EndsPath rest := by
  intro c hc
  rcases h c hc with rfl | rfl | rfl <;> decide

/-- A step whose name is a word and whose arguments are read back. -/
structure StepReads (s : JavaExpr.Step) : Prop where
  word : s.name.toList.all isPart = true
  arguments : ∀ as, s.arguments = some as →
    Reads Anything readArguments (joined ", " as ++ ")".toList) as

/-- The step that the text of a path starts with is read as such. -/
theorem reads_step {s : JavaExpr.Step} (h : StepReads s) :
    Reads (fun rest => ∀ c ∈ rest.head?, isPart c = false ∧ c ≠ '(') readStep
      s.expr.render.toList s.expr := by
  obtain ⟨name, arguments⟩ := s
  obtain ⟨hword, harguments⟩ := h
  cases arguments with
  | none =>
    refine .of_succ 0 fun fuel _ rest hrest => ?_
    show readStep (fuel + 1) (name.toList ++ rest) = _
    have hplain : skip? "(" rest = none :=
      skip?_eq_none (by decide) fun c hc heq => (hrest c hc).2 (Option.some.inj heq).symm
    rw [readStep, word_append hword fun c hc => (hrest c hc).1]
    simp only [hplain]
    rfl
  | some as =>
    obtain ⟨n, hread⟩ := harguments as rfl
    refine .of_succ n fun fuel hfuel rest _ => ?_
    have htext : (JavaExpr.Step.expr ⟨name, some as⟩).render.toList
        = name.toList ++ ("(".toList ++ (joined ", " as ++ ")".toList)) := by
      simp [JavaExpr.Step.expr, ← toList_intercalate_render]
    rw [htext, List.append_assoc, List.append_assoc, readStep,
      word_append hword (by simp; decide)]
    simp only [skip?_append, hread fuel hfuel rest trivial]
    rfl

theorem reads_steps {steps : List JavaExpr.Step} (hne : steps ≠ [])
    (hsteps : ∀ s ∈ steps, StepReads s) :
    Reads EndsPath readSteps (joined "." (steps.map JavaExpr.Step.expr))
      (steps.map JavaExpr.Step.expr) := by
  induction steps with
  | nil => exact absurd rfl hne
  | cons s steps ih =>
    obtain ⟨n, hstep⟩ := reads_step (hsteps s List.mem_cons_self)
    cases steps with
    | nil =>
      refine .of_succ n fun fuel hfuel rest hrest => ?_
      have hlast : skip? "." rest = none :=
        skip?_eq_none (by decide) fun c hc heq => (hrest c hc).2.2 (Option.some.inj heq).symm
      rw [List.map_cons, List.map_nil, joined_singleton, readSteps,
        hstep fuel hfuel rest fun c hc => ⟨(hrest c hc).1, (hrest c hc).2.1⟩]
      simp only [Option.bind_eq_bind, Option.bind_some, hlast]
      rfl
    | cons next steps =>
      obtain ⟨m, hothers⟩ := ih (by simp) fun s hs => hsteps s (List.mem_cons_of_mem _ hs)
      refine .of_succ (max n m) fun fuel hfuel rest hrest => ?_
      rw [List.map_cons, List.map_cons, joined_cons_cons, List.append_assoc, List.append_assoc,
        readSteps, hstep fuel (by omega) _ (by simp; decide)]
      simp only [Option.bind_eq_bind, Option.bind_some, skip?_append]
      rw [← List.map_cons, hothers fuel (by omega) rest hrest]
      rfl
theorem StepReads.of_legible {s : JavaExpr.Step} (hname : JavaExpr.Declarable s.name)
    (hlegible : ∀ as, s.arguments = some as → ∀ a ∈ as, a.Legible)
    (hread : ∀ as, s.arguments = some as → ∀ a ∈ as, ReadsBack a) : StepReads s where
  word := hname.all_isPart
  arguments as has := reads_arguments (hlegible as has) (hread as has)

/-- The words that are no first step of a path. -/
theorem readWord_of_declarable {name : String} (hname : JavaExpr.Declarable name) {tail : List Char}
    (htail : ∀ c ∈ tail.head?, isPart c = false) (fuel : Nat) :
    readWord (fuel + 1) (name.toList ++ tail)
      = (readSteps fuel (name.toList ++ tail)).map fun r => (JavaExpr.path r.1, r.2) := by
  have hreserved := hname.not_reserved
  have hkeyword := Java.not_mem_keywords hname.isIdentifier
  rw [readWord, word_append hname.all_isPart htail]
  split
  · next heq => exact absurd ((Prod.mk.inj heq).1 ▸ by decide) hkeyword
  · next heq => exact absurd ((Prod.mk.inj heq).1 ▸ by decide) hkeyword
  · next heq => exact absurd ((Prod.mk.inj heq).1 ▸ by decide) hkeyword
  · next heq => exact absurd ((Prod.mk.inj heq).1 ▸ by decide) hreserved
  · next heq => exact absurd ((Prod.mk.inj heq).1 ▸ by decide) hreserved
  · next heq => exact absurd ((Prod.mk.inj heq).1 ▸ by decide) hreserved
  · cases readSteps fuel (name.toList ++ tail) <;> rfl

theorem readsBack_path {steps : List JavaExpr.Step} (hne : steps ≠ [])
    (hname : ∀ s ∈ steps, JavaExpr.Declarable s.name) (hsteps : ∀ s ∈ steps, StepReads s) :
    ReadsBack (JavaExpr.path (steps.map JavaExpr.Step.expr)) := by
  obtain ⟨n, hread⟩ := reads_steps hne hsteps
  obtain ⟨s, steps, rfl⟩ := List.exists_cons_of_ne_nil hne
  obtain ⟨tail, htext, htail⟩ := toList_render_path s steps
  obtain ⟨c, cs, hcs, hc⟩ := Java.isStart_head (hname s List.mem_cons_self).isIdentifier
  have hrender : (JavaExpr.path ((s :: steps).map JavaExpr.Step.expr)).render.toList
      = c :: (cs ++ tail) := by
    rw [htext, hcs, List.cons_append]
  rw [ReadsBack, hrender]
  refine .of_readWord (.of_succ n fun fuel hfuel rest hrest => ?_) hc
  -- the first word of the text is the name of the first step
  have hends : ∀ c ∈ (tail ++ rest).head?, isPart c = false := by
    cases tail with
    | nil => exact hrest.isPart
    | cons => exact htail
  have hjoined := hread fuel hfuel rest hrest.endsPath
  rw [← toList_intercalate_render, ← JavaExpr.render_path, htext, List.append_assoc] at hjoined
  rw [← List.cons_append, ← hcs, List.append_assoc,
    readWord_of_declarable (hname s List.mem_cons_self) hends, hjoined]
  rfl

/-! ### Parentheses -/

section

variable {follow : List Char → Prop} {cs : List Char} {e : JavaExpr}

/-- What stands in parentheses is read as a group. -/
theorem Reads.of_readGroup (h : Reads follow readGroup cs e) :
    Reads follow readExpr ("(".toList ++ cs) e := by
  obtain ⟨n, hread⟩ := h
  refine .of_succ n fun fuel hfuel rest hrest => ?_
  show readExpr (fuel + 1) ('(' :: (cs ++ rest)) = _
  rw [readExpr, if_neg (by decide), if_pos rfl]
  exact hread fuel hfuel rest hrest

end

theorem reads_not {e : JavaExpr} (h : ReadsBack e) :
    Reads Anything readExpr (JavaExpr.not e).render.toList (.not e) := by
  have htext : (JavaExpr.not e).render.toList
      = "(".toList ++ ("!".toList ++ (e.render.toList ++ ")".toList)) := by simp
  obtain ⟨n, hread⟩ := h
  rw [htext]
  refine .of_readGroup (.of_succ n fun fuel hfuel rest _ => ?_)
  rw [List.append_assoc, List.append_assoc, readGroup, skip?_append]
  simp only [hread fuel hfuel _ (show Ends (")".toList ++ rest) by simp [Ends]), skip?_append,
    Option.bind_eq_bind, Option.bind_some]
  rfl

theorem reads_group {e : JavaExpr} (hlegible : e.Legible) (h : ReadsBack e) :
    Reads Anything readExpr (JavaExpr.group e).render.toList (.group e) := by
  have htext : (JavaExpr.group e).render.toList
      = "(".toList ++ (e.render.toList ++ ")".toList) := by simp
  obtain ⟨n, hread⟩ := h
  rw [htext]
  refine .of_readGroup (.of_succ n fun fuel hfuel rest _ => ?_)
  rw [List.append_assoc, readGroup, (skip?_of_legible hlegible _).1, skip?_cast_of_legible hlegible]
  simp only [hread fuel hfuel _ (show Ends (")".toList ++ rest) by simp [Ends]), skip?_append,
    Option.bind_eq_bind, Option.bind_some]
  rfl

theorem reads_operation {operator : String} {operands : List JavaExpr}
    (hoperator : ' ' ∉ operator.toList) (htwo : 2 ≤ operands.length)
    (hlegible : ∀ e ∈ operands, e.Legible) (hread : ∀ e ∈ operands, ReadsBack e) :
    Reads Anything readExpr (JavaExpr.operation operator operands).render.toList
      (.operation operator operands) := by
  obtain ⟨e, f, others, rfl⟩ := exists_cons_cons htwo
  obtain ⟨n, hfirst⟩ := hread e List.mem_cons_self
  obtain ⟨m, hothers⟩ := reads_operands operator (List.cons_ne_nil f others)
    fun e he => hread e (List.mem_cons_of_mem _ he)
  have hseparator : (" " ++ operator ++ " ").toList
      = " ".toList ++ (operator.toList ++ " ".toList) := by simp
  rw [toList_render_operation, joined_cons_cons]
  refine .of_readGroup (.of_succ (max n m) fun fuel hfuel rest hrest => ?_)
  have hlegible := hlegible e List.mem_cons_self
  have hnot (rest : List Char) := (skip?_of_legible hlegible rest).1
  have hends (rest : List Char) : Ends (" ".toList ++ rest) := by simp [Ends]
  have hblank (rest : List Char) : skip? ")" (" ".toList ++ rest) = none :=
    skip?_append_eq_none (c := ' ') (by decide) rfl (by decide) rest
  have hplain : ∀ c ∈ operator.toList, decide (c ≠ ' ') = true := by
    intro c hc
    refine decide_eq_true ?_
    rintro rfl
    exact hoperator hc
  have hspan (rest : List Char) :=
    span_append operator.toList (" ".toList ++ rest) hplain (by simp)
  have hlast := hothers fuel (by omega) rest trivial
  -- the blank that ends the operator belongs to the operands behind it
  rw [hseparator]
  simp only [List.append_assoc] at hlast ⊢
  rw [readGroup, hnot, skip?_cast_of_legible hlegible]
  simp only [hfirst fuel (by omega) _ (hends _), hblank, skip?_append, (hspan _).1, (hspan _).2,
    String.ofList_toList, hlast, Option.bind_eq_bind, Option.bind_some]
  rfl

/-! ### Lengths -/

theorem reads_length {e : JavaExpr}
    (h : Reads Ends readMeasured (e.render.toList ++ ".length()".toList) e) :
    Reads Anything readExpr (JavaExpr.length e).render.toList (.length e) := by
  have htext : (JavaExpr.length e).render.toList = "(".toList
      ++ ("(double) ".toList ++ ((e.render.toList ++ ".length()".toList) ++ ")".toList)) := by simp
  obtain ⟨n, hread⟩ := h
  rw [htext]
  refine .of_readGroup (.of_succ n fun fuel hfuel rest _ => ?_)
  rw [List.append_assoc, List.append_assoc (e.render.toList ++ _), readGroup,
    skip?_append_eq_none (c := '(') (by decide) rfl (by decide), skip?_append]
  simp only [hread fuel hfuel _ (show Ends (")".toList ++ rest) by simp [Ends]), skip?_append,
    Option.bind_eq_bind, Option.bind_some]
  rfl

/-- What does not start with a word is measured as the expression that it is. -/
theorem readsMeasured {e : JavaExpr} {c : Char} (hhead : e.render.toList.head? = some c)
    (hc : isStart c = false) (h : Reads Anything readExpr e.render.toList e) :
    Reads Ends readMeasured (e.render.toList ++ ".length()".toList) e := by
  obtain ⟨n, hread⟩ := h
  refine .of_succ n fun fuel hfuel rest _ => ?_
  have hexpr := hread fuel hfuel (".length()".toList ++ rest) trivial
  obtain ⟨cs, htext⟩ := List.head?_eq_some_iff.1 hhead
  rw [List.append_assoc]
  rw [htext, List.cons_append] at hexpr ⊢
  rw [readMeasured, if_neg (by simp [hc]), hexpr]
  simp only [skip?_append, Option.bind_eq_bind, Option.bind_some]
  rfl

theorem joined_append_singleton {separator : String} {es : List JavaExpr} (hne : es ≠ [])
    (e : JavaExpr) : joined separator (es ++ [e])
      = joined separator es ++ (separator.toList ++ e.render.toList) := by
  induction es with
  | nil => exact absurd rfl hne
  | cons first es ih =>
    cases es with
    | nil => simp [joined_cons_cons, joined_singleton]
    | cons second es =>
      have htail := ih (by simp)
      rw [List.cons_append] at htail
      rw [List.cons_append, List.cons_append, joined_cons_cons, htail, joined_cons_cons,
        List.append_assoc, List.append_assoc]

/-- The call of the length, as a step. -/
def lengthStep : JavaExpr.Step := ⟨"length", some []⟩

theorem stepReads_lengthStep : StepReads lengthStep where
  word := by decide
  arguments _ has := Option.some.inj has ▸ reads_arguments (by simp) (by simp)

theorem measured?_append (steps : List JavaExpr) :
    measured? (steps ++ [lengthStep.expr]) = some (JavaExpr.path steps) := by
  simp [measured?, lengthStep, JavaExpr.Step.expr]

/-- The steps of a path are measured with the call of the length as another step. -/
theorem readsMeasured_path {steps : List JavaExpr.Step} (hne : steps ≠ [])
    (hname : ∀ s ∈ steps, JavaExpr.Declarable s.name) (hsteps : ∀ s ∈ steps, StepReads s) :
    Reads Ends readMeasured
      ((JavaExpr.path (steps.map JavaExpr.Step.expr)).render.toList ++ ".length()".toList)
      (JavaExpr.path (steps.map JavaExpr.Step.expr)) := by
  have hall : ∀ s ∈ steps ++ [lengthStep], StepReads s := by
    simpa [or_imp, forall_and, stepReads_lengthStep] using hsteps
  have htext : joined "." ((steps ++ [lengthStep]).map JavaExpr.Step.expr)
      = (JavaExpr.path (steps.map JavaExpr.Step.expr)).render.toList ++ ".length()".toList := by
    rw [List.map_append, List.map_singleton, joined_append_singleton (by simpa using hne),
      ← toList_intercalate_render, ← JavaExpr.render_path]
    simp [lengthStep, JavaExpr.Step.expr]
  obtain ⟨n, hread⟩ := reads_steps (List.append_ne_nil_of_right_ne_nil steps (by simp)) hall
  rw [htext] at hread
  obtain ⟨s, steps, rfl⟩ := List.exists_cons_of_ne_nil hne
  obtain ⟨tail, hrender, -⟩ := toList_render_path s steps
  obtain ⟨c, cs, hcs, hc⟩ := Java.isStart_head (hname s List.mem_cons_self).isIdentifier
  refine .of_succ n fun fuel hfuel rest hrest => ?_
  have hjoined := hread fuel hfuel rest hrest.endsPath
  rw [hrender, hcs, List.cons_append, List.cons_append, List.cons_append] at hjoined ⊢
  rw [readMeasured, if_pos hc, hjoined, List.map_append]
  simp only [Option.bind_eq_bind, Option.bind_some, List.map_singleton, measured?_append]
  rfl

/-! ### Calls of the library -/

theorem readsBack_stringOf {e : JavaExpr} (h : ReadsBack e) : ReadsBack (.stringOf e) := by
  have htext : (JavaExpr.stringOf e).render.toList
      = "String".toList ++ (".valueOf(".toList ++ (e.render.toList ++ ")".toList)) := by simp
  obtain ⟨n, hread⟩ := h
  rw [ReadsBack, htext]
  refine .of_readWord (.of_succ n fun fuel hfuel rest _ => ?_) (by decide)
  show readWord (fuel + 1)
    ("String".toList ++ (".valueOf(".toList ++ (e.render.toList ++ ")".toList)) ++ rest) = _
  rw [List.append_assoc, List.append_assoc, List.append_assoc, readWord,
    word_append (by decide) (by simp; decide)]
  simp only [skip?_append, hread fuel hfuel _ (show Ends (")".toList ++ rest) by simp [Ends]),
    Option.bind_eq_bind, Option.bind_some]
  rfl

theorem readsBack_objectsEqual {left right : JavaExpr} (hleft : ReadsBack left)
    (hright : ReadsBack right) : ReadsBack (.objectsEqual left right) := by
  have htext : (JavaExpr.objectsEqual left right).render.toList
      = "java".toList ++ (".util.Objects.equals(".toList ++ (left.render.toList
        ++ (", ".toList ++ (right.render.toList ++ ")".toList)))) := by simp
  obtain ⟨n, hleft⟩ := hleft
  obtain ⟨m, hright⟩ := hright
  rw [ReadsBack, htext]
  refine .of_readWord (.of_succ (max n m) fun fuel hfuel rest _ => ?_) (by decide)
  show readWord (fuel + 1) ("java".toList ++ (".util.Objects.equals(".toList ++ (left.render.toList
        ++ (", ".toList ++ (right.render.toList ++ ")".toList)))) ++ rest) = _
  simp only [List.append_assoc]
  rw [readWord, word_append (by decide) (by simp; decide)]
  simp only [skip?_append, hleft fuel (by omega) _ (show Ends (", ".toList ++ _) by simp [Ends]),
    hright fuel (by omega) _ (show Ends (")".toList ++ rest) by simp [Ends]),
    Option.bind_eq_bind, Option.bind_some]
  rfl

/-! ## Unique readability -/

theorem not_mem_infixes {operator : String} (h : operator ∈ JavaExpr.infixes) :
    ' ' ∉ operator.toList := by
  revert operator
  decide

/-- Every legible expression is read back from its text, and so is what its length is taken of. -/
theorem readsBack_of_legible {e : JavaExpr} (h : e.Legible) : ReadsBack e
    ∧ (e.Measurable → Reads Ends readMeasured (e.render.toList ++ ".length()".toList) e) := by
  have hends {text : List Char} {e : JavaExpr} (h : Reads Anything readExpr text e) :
      Reads Ends readExpr text e := h.mono fun _ _ => trivial
  induction h with
  | number d => exact ⟨readsBack_number d, False.elim⟩
  | boolean b => exact ⟨readsBack_boolean b, False.elim⟩
  | text s =>
    have hquote : (JavaExpr.text s).render.toList.head? = some '"' := by simp [Java.stringLiteral]
    exact ⟨hends (reads_text s), fun _ => readsMeasured hquote (by decide) (reads_text s)⟩
  | new creatable => exact ⟨readsBack_new creatable, False.elim⟩
  | path ne_nil declarable arguments ih =>
    have hsteps := fun s hs => StepReads.of_legible (declarable s hs) (arguments s hs)
      fun as has a ha => (ih s hs as has a ha).1
    -- a measured path is read with `length()` as its last step, not up to its own end
    exact ⟨readsBack_path ne_nil declarable hsteps,
      fun _ => readsMeasured_path ne_nil declarable hsteps⟩
  | operation operator_mem two_le legible ih =>
    have hread := reads_operation (not_mem_infixes operator_mem) two_le legible
      fun e he => (ih e he).1
    exact ⟨hends hread, fun _ => readsMeasured (c := '(') (by simp) (by decide) hread⟩
  | not _ ih => exact ⟨hends (reads_not ih.1), False.elim⟩
  | length _ measurable ih => exact ⟨hends (reads_length (ih.2 measurable)), False.elim⟩
  | stringOf _ ih => exact ⟨readsBack_stringOf ih.1, False.elim⟩
  | objectsEqual _ _ left right => exact ⟨readsBack_objectsEqual left.1 right.1, False.elim⟩
  | group legible ih => exact ⟨hends (reads_group legible ih.1), False.elim⟩

end Reader

/-- Legible expressions with the same text are the same. -/
theorem JavaExpr.Legible.render_injective {e e' : JavaExpr} (h : e.Legible) (h' : e'.Legible)
    (htext : e.render = e'.render) : e = e' := by
  obtain ⟨n, hread⟩ := (Reader.readsBack_of_legible h).1
  obtain ⟨m, hread'⟩ := (Reader.readsBack_of_legible h').1
  have hends : Reader.Ends [] := by simp [Reader.Ends]
  have heq := hread (max n m) (by omega) [] hends
  rw [htext, hread' (max n m) (by omega) [] hends] at heq
  exact (Prod.mk.inj (Option.some.inj heq)).1.symm

end Flowchart
