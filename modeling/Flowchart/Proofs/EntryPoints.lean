import Flowchart.Generation.EntryPoint
import Flowchart.Proofs.Success

set_option autoImplicit false

/-! # The method `main`

When an entry function gets its method `main`, and what that method does. The supplied names have to
be those of the parameters, and each value has to fit the type of its parameter; then `main` calls
the function with these values in the order of the declarations. Otherwise the names are reported
first, and then the first value that does not fit. -/

namespace Flowchart

/-! ## Keys of maps -/

namespace OrderedMap

variable {κ α : Type} [DecidableEq κ] {lt : κ → κ → Bool}

theorem mem_keys_iff {m : OrderedMap κ α lt} {key : κ} :
    key ∈ m.keys ↔ ∃ value, m.get? key = some value := by
  rw [keys, get?, ← Option.isSome_iff_exists]
  induction m.entries with
  | nil => simp
  | cons entry rest ih =>
    rw [List.map_cons, List.mem_cons, ih, List.lookup_cons]
    cases hkey : key == entry.1 with
    | true => simp [beq_iff_eq.1 hkey]
    | false => simp [beq_eq_false_iff_ne.1 hkey]

/-- If no key repeats, looking a key up finds the entry with this key. -/
theorem get?_eq_some_iff {m : OrderedMap κ α lt} (h : m.keys.Nodup) {key : κ} {value : α} :
    m.get? key = some value ↔ (key, value) ∈ m.entries := by
  rw [keys] at h
  rw [get?]
  generalize m.entries = entries at h ⊢
  induction entries with
  | nil => simp
  | cons entry rest ih =>
    rw [List.map_cons, List.nodup_cons] at h
    rw [List.lookup_cons, List.mem_cons]
    cases hkey : key == entry.1 with
    | true =>
      obtain rfl := beq_iff_eq.1 hkey
      have hfirst : (entry.1, value) ∉ rest :=
        fun hmem => h.1 (List.mem_map.2 ⟨(entry.1, value), hmem, rfl⟩)
      simp [Prod.ext_iff, hfirst, eq_comm]
    | false => simp [Prod.ext_iff, beq_eq_false_iff_ne.1 hkey, ih h.2]

end OrderedMap

/-- The keys of bindings are all different. -/
theorem Bindings.nodup_keys (supplied : Bindings) : supplied.keys.Nodup := by
  refine supplied.ascending.imp fun {a b} hlt => ?_
  rintro rfl
  exact String.lt_irrefl a (of_decide_eq_true hlt)

namespace EntryPoint

/-! ## Values -/

/-- A text can be supplied for a parameter of a basic type, and stands for a value of that type.
    Blanks around it count for texts only. -/
inductive Fits (parameter : Item) (value : String) : JavaExpr → Prop
  | number {d : Double} (type : parameter.typeName = some "NUMBER")
      (reads : Double.read? (Text.trim value) = some d) : Fits parameter value (.number d)
  | yes (type : parameter.typeName = some "BOOLEAN") (word : Text.trim value = "true") :
      Fits parameter value (.boolean true)
  | no (type : parameter.typeName = some "BOOLEAN") (word : Text.trim value = "false") :
      Fits parameter value (.boolean false)
  | text (type : parameter.typeName = some "TEXT") : Fits parameter value (.text value)

/-- Why a text cannot be supplied for a parameter. -/
inductive Misfit (parameter : Item) (value : String) : CompileError → Prop
  | number (type : parameter.typeName = some "NUMBER")
      (fails : Double.read? (Text.trim value) = none) :
      Misfit parameter value (.invalidEntryArgument parameter.name value .notNumber)
  | truth (type : parameter.typeName = some "BOOLEAN") (not_true : Text.trim value ≠ "true")
      (not_false : Text.trim value ≠ "false") :
      Misfit parameter value (.invalidEntryArgument parameter.name value .notTruth)
  | unsupplied {typeName : String} (type : parameter.typeName = some typeName)
      (other : typeName ∉ ["NUMBER", "BOOLEAN", "TEXT"]) :
      Misfit parameter value (.invalidEntryArgument parameter.name value (.unsupplied typeName))
  | untyped (type : parameter.typeName = none) :
      Misfit parameter value (.missingType parameter.name)

section

variable {parameter : Item} {value : String}

/-- A text becomes the value that it stands for. -/
theorem argument_eq_ok_iff {e : JavaExpr} :
    argument parameter value = .ok e ↔ Fits parameter value e := by
  constructor
  · intro h
    unfold argument at h
    split at h
    · cases h
    · next htype =>
        split at h
        · next hnumber =>
            subst hnumber
            split at h
            · next hreads =>
                cases h
                exact .number htype hreads
            · cases h
        split at h
        · next hboolean =>
            subst hboolean
            split at h
            · next b hreads =>
                cases h
                unfold readTruth? at hreads
                split at hreads
                · next hyes =>
                    cases hreads
                    exact .yes htype hyes
                split at hreads
                · next hno =>
                    cases hreads
                    exact .no htype hno
                · cases hreads
            · cases h
        split at h
        · next htext =>
            subst htext
            cases h
            exact .text htype
        · cases h
  · intro h
    cases h with
    | number type reads => simp [argument, type, reads]
    | yes type word => simp [argument, type, word, readTruth?]
    | no type word => simp [argument, type, word, readTruth?]
    | text type => simp [argument, type]

/-- Any other text is reported with the reason why it stands for nothing. -/
theorem argument_eq_error_iff {error : CompileError} :
    argument parameter value = .error error ↔ Misfit parameter value error := by
  constructor
  · intro h
    unfold argument at h
    split at h
    · next htype =>
        cases h
        exact .untyped htype
    · next typeName htype =>
        split at h
        · next hnumber =>
            subst hnumber
            split at h
            · cases h
            · next hfails =>
                cases h
                exact .number htype hfails
        next hnumber =>
        split at h
        · next hboolean =>
            subst hboolean
            split at h
            · cases h
            · next hfails =>
                cases h
                refine .truth htype ?_ ?_
                · intro hyes
                  simp [hyes, readTruth?] at hfails
                · intro hno
                  simp [hno, readTruth?] at hfails
        next hboolean =>
        split at h
        · cases h
        · next htext =>
            cases h
            exact .unsupplied htype (by simp [hnumber, hboolean, htext])
  · intro h
    cases h with
    | number type fails => simp [argument, type, fails]
    | truth type not_true not_false => simp [argument, type, not_true, not_false, readTruth?]
    | unsupplied type other =>
      simp only [List.mem_cons, List.not_mem_nil, or_false, not_or] at other
      simp [argument, type, other]
    | untyped type => simp [argument, type]

end

/-- What is supplied for a parameter fits it, and stands for a value. -/
def Gets (supplied : Bindings) (parameter : Item) (e : JavaExpr) : Prop :=
  ∃ value, supplied.get? parameter.name = some value ∧ Fits parameter value e

/-- What is supplied stands for one value only. -/
theorem Gets.unique {supplied : Bindings} : Relator.RightUnique (Gets supplied) := by
  rintro parameter e e' ⟨value, hvalue, hfits⟩ ⟨value', hvalue', hfits'⟩
  rw [hvalue, Option.some_inj] at hvalue'
  subst hvalue'
  have hsame := (argument_eq_ok_iff.2 hfits).symm.trans (argument_eq_ok_iff.2 hfits')
  cases hsame
  rfl

/-- What is supplied for a parameter does not fit it. -/
def Refuses (supplied : Bindings) (parameter : Item) (error : CompileError) : Prop :=
  ∃ value, supplied.get? parameter.name = some value ∧ Misfit parameter value error

section

variable {supplied : Bindings} {parameters : List Item}

theorem gets_iff {parameter : Item} {e : JavaExpr} (h : parameter.name ∈ supplied.keys) :
    argument parameter ((supplied.get? parameter.name).getD "") = .ok e
      ↔ Gets supplied parameter e := by
  obtain ⟨value, hvalue⟩ := OrderedMap.mem_keys_iff.1 h
  simp [Gets, hvalue, argument_eq_ok_iff]

theorem refuses_iff {parameter : Item} {error : CompileError}
    (h : parameter.name ∈ supplied.keys) :
    argument parameter ((supplied.get? parameter.name).getD "") = .error error
      ↔ Refuses supplied parameter error := by
  obtain ⟨value, hvalue⟩ := OrderedMap.mem_keys_iff.1 h
  simp [Refuses, hvalue, argument_eq_error_iff]

/-- The arguments are the values of all parameters, in order. -/
theorem arguments_eq_ok_iff (h : ∀ parameter ∈ parameters, parameter.name ∈ supplied.keys)
    {es : List JavaExpr} :
    arguments supplied parameters = .ok es
      ↔ List.Forall₂ (Gets supplied) parameters es := by
  induction parameters generalizing es with
  | nil => rw [arguments, List.forall₂_nil_left_iff, Except.ok.injEq, eq_comm]
  | cons parameter rest ih =>
    rw [List.forall_mem_cons] at h
    simp only [arguments, bind_eq_ok, pure_eq_ok, gets_iff h.1, ih h.2,
      List.forall₂_cons_left_iff]
    constructor
    · rintro ⟨e, he, others, hothers, rfl⟩
      exact ⟨e, others, he, hothers, rfl⟩
    · rintro ⟨e, others, he, hothers, rfl⟩
      exact ⟨e, he, others, hothers, rfl⟩

/-- The first parameter whose value does not fit is reported. -/
theorem arguments_eq_error_iff (h : ∀ parameter ∈ parameters, parameter.name ∈ supplied.keys)
    {error : CompileError} :
    arguments supplied parameters = .error error
      ↔ ∃ before parameter behind, parameters = before ++ parameter :: behind
        ∧ (∀ other ∈ before, ∃ e, Gets supplied other e) ∧ Refuses supplied parameter error := by
  induction parameters with
  | nil => simp [arguments]
  | cons first rest ih =>
    rw [List.forall_mem_cons] at h
    rw [arguments]
    cases hfirst : argument first ((supplied.get? first.name).getD "") with
    | error fault =>
      have hrefuses := (refuses_iff h.1).1 hfirst
      constructor
      · intro hfails
        cases hfails
        exact ⟨[], first, rest, rfl, nofun, hrefuses⟩
      · rintro ⟨before, parameter, behind, heq, hgets, hrefused⟩
        cases before with
        | nil =>
          cases heq
          rw [(refuses_iff h.1).2 hrefused] at hfirst
          cases hfirst
          rfl
        | cons other before =>
          cases heq
          obtain ⟨e, he⟩ := hgets _ List.mem_cons_self
          rw [(gets_iff h.1).2 he] at hfirst
          cases hfirst
    | ok e =>
      have hgets := (gets_iff h.1).1 hfirst
      have hrest : (do return e :: (← arguments supplied rest) : Except CompileError _)
          = .error error ↔ arguments supplied rest = .error error := by
        cases arguments supplied rest with
        | ok others => simp [pure, Except.pure]
        | error fault => rfl
      rw [ok_bind, hrest, ih h.2]
      constructor
      · rintro ⟨before, parameter, behind, rfl, hothers, hrefused⟩
        exact ⟨first :: before, parameter, behind, rfl,
          List.forall_mem_cons.2 ⟨⟨e, hgets⟩, hothers⟩, hrefused⟩
      · rintro ⟨before, parameter, behind, heq, hothers, hrefused⟩
        cases before with
        | nil =>
          cases heq
          rw [(refuses_iff h.1).2 hrefused] at hfirst
          cases hfirst
        | cons other before =>
          cases heq
          exact ⟨before, parameter, behind, rfl, (List.forall_mem_cons.1 hothers).2, hrefused⟩

end

/-! ## Names -/

/-- Names are those of the bindings exactly if they are in another order. -/
theorem sortNames_eq_keys_iff {names : List String} {supplied : Bindings} :
    sortNames names = supplied.keys ↔ names.Perm supplied.keys := by
  have hperm : (sortNames names).Perm names := List.mergeSort_perm _ _
  constructor
  · intro h
    rw [← h]
    exact hperm.symm
  · intro h
    have hpairwise : (sortNames names).Pairwise fun a b => decide (a ≤ b) = true := by
      refine List.pairwise_mergeSort (fun a b c hab hbc => ?_) (fun a b => ?_) names
      · simp only [decide_eq_true_eq] at *
        exact String.le_trans hab hbc
      · simpa using String.le_total a b
    have hsorted : (sortNames names).Pairwise (· ≤ ·) := hpairwise.imp of_decide_eq_true
    have hkeys : supplied.keys.Pairwise (· ≤ ·) := supplied.ascending.imp fun hlt =>
      String.not_lt.1 (String.lt_asymm (of_decide_eq_true hlt))
    exact List.Perm.eq_of_pairwise (fun _ _ _ _ => String.le_antisymm) hsorted hkeys
      (hperm.trans h)

/-- Exactly the parameters of a function are supplied. -/
def SameNames (function : Item) (supplied : Bindings) : Prop :=
  ∀ name, name ∈ supplied.keys ↔ ∃ parameter ∈ function.parameters, parameter.name = name

variable {function : Item} {fullName : String} {supplied : Bindings}

theorem sortNames_eq_keys_iff_sameNames (hnames : (function.parameters.map (·.name)).Nodup) :
    sortNames (function.parameters.map (·.name)) = supplied.keys ↔ SameNames function supplied := by
  rw [sortNames_eq_keys_iff, List.perm_ext_iff_of_nodup hnames supplied.nodup_keys]
  simp only [SameNames, List.mem_map, iff_comm]

end EntryPoint

/-! ## The method -/

/-- The method that a program starts with. -/
structure JavaMethod.IsMain (m : JavaMethod) : Prop where
  modifiers_eq : m.modifiers = [.publicMember, .staticMember]
  returnType_eq : m.returnType = .void
  name_eq : m.name = "main"
  parameters_eq : m.parameters = [{ type := .array .string, name := "args" }]

namespace EntryPoint

variable {function : Item} {fullName : String} {supplied : Bindings}

theorem mainMethod_eq_ok {main : JavaMethod}
    (h : mainMethod function fullName supplied = .ok main) :
    main.IsMain ∧ checkNames function fullName supplied = .ok ()
      ∧ ∃ es, arguments supplied function.parameters = .ok es
        ∧ main.body = [.expression (.invoke (fullName ++ "." ++ function.name) es)] := by
  obtain ⟨⟨⟩, hcheck, h⟩ := bind_eq_ok.1 h
  obtain ⟨es, hes, h⟩ := bind_eq_ok.1 h
  cases pure_eq_ok.1 h
  exact ⟨⟨rfl, rfl, rfl, rfl⟩, hcheck, es, hes, rfl⟩

/-- What becomes of an entry function and supplied values. -/
structure IsExact (function : Item) (fullName : String) (supplied : Bindings) : Prop where
  isOk_iff : (∃ main, mainMethod function fullName supplied = .ok main)
    ↔ SameNames function supplied
      ∧ ∀ parameter ∈ function.parameters, ∃ e, Gets supplied parameter e
  calls : ∀ main, mainMethod function fullName supplied = .ok main →
    main.IsMain ∧ ∃ es, List.Forall₂ (Gets supplied) function.parameters es
      ∧ main.body = [.expression (.invoke (fullName ++ "." ++ function.name) es)]
  /-- The names are looked at before the values. -/
  mismatch : ¬ SameNames function supplied → mainMethod function fullName supplied
    = .error (.entryParameterMismatch fullName (function.parameters.map (·.name)) supplied.keys)
  /-- Of the values the first one that does not fit is reported. -/
  refusal : SameNames function supplied → ∀ error,
    mainMethod function fullName supplied = .error error
      ↔ ∃ before parameter behind, function.parameters = before ++ parameter :: behind
        ∧ (∀ other ∈ before, ∃ e, Gets supplied other e) ∧ Refuses supplied parameter error

/-- Once the names are right, the method is made of the arguments. -/
theorem mainMethod_of_sameNames (hnames : (function.parameters.map (·.name)).Nodup)
    (h : SameNames function supplied) :
    mainMethod function fullName supplied
      = (arguments supplied function.parameters).map fun es =>
        { doc := [], modifiers := [.publicMember, .staticMember], returnType := .void
          name := "main", parameters := [{ type := .array .string, name := "args" }]
          body := [.expression (.invoke (fullName ++ "." ++ function.name) es)] } := by
  have hcheck : checkNames function fullName supplied = .ok () :=
    if_pos ((sortNames_eq_keys_iff_sameNames hnames).2 h)
  rw [mainMethod, hcheck, ok_bind]
  cases arguments supplied function.parameters with
  | ok es => rfl
  | error error => rfl

theorem isExact (fullName : String) (supplied : Bindings)
    (hnames : (function.parameters.map (·.name)).Nodup) :
    IsExact function fullName supplied := by
  have hmismatch : ¬ SameNames function supplied → mainMethod function fullName supplied
      = .error (.entryParameterMismatch fullName (function.parameters.map (·.name))
        supplied.keys) := by
    intro hdiffer
    have hcheck : checkNames function fullName supplied
        = .error (.entryParameterMismatch fullName (function.parameters.map (·.name))
          supplied.keys) :=
      if_neg (mt (sortNames_eq_keys_iff_sameNames hnames).1 hdiffer)
    rw [mainMethod, hcheck]
    rfl
  have hsame : ∀ main, mainMethod function fullName supplied = .ok main →
      SameNames function supplied := by
    intro main hmain
    by_contra hdiffer
    rw [hmismatch hdiffer] at hmain
    cases hmain
  have hkeys : SameNames function supplied →
      ∀ parameter ∈ function.parameters, parameter.name ∈ supplied.keys :=
    fun h parameter hparameter => (h parameter.name).2 ⟨parameter, hparameter, rfl⟩
  have hcalls : ∀ main, mainMethod function fullName supplied = .ok main →
      main.IsMain ∧ ∃ es, List.Forall₂ (Gets supplied) function.parameters es
        ∧ main.body = [.expression (.invoke (fullName ++ "." ++ function.name) es)] := by
    intro main hmain
    obtain ⟨hismain, -, es, hes, hbody⟩ := mainMethod_eq_ok hmain
    exact ⟨hismain, es, (arguments_eq_ok_iff (hkeys (hsame main hmain))).1 hes, hbody⟩
  refine ⟨⟨?_, ?_⟩, hcalls, hmismatch, ?_⟩
  · rintro ⟨main, hmain⟩
    obtain ⟨-, es, hes, -⟩ := hcalls main hmain
    refine ⟨hsame main hmain, fun parameter hparameter => ?_⟩
    obtain ⟨e, -, he⟩ := exists_right_of_forall₂ hes hparameter
    exact ⟨e, he⟩
  · rintro ⟨h, hgets⟩
    obtain ⟨es, hes⟩ := exists_forall₂_iff.2 hgets
    rw [mainMethod_of_sameNames hnames h, (arguments_eq_ok_iff (hkeys h)).2 hes]
    exact ⟨_, rfl⟩
  · intro h error
    rw [mainMethod_of_sameNames hnames h, ← arguments_eq_error_iff (hkeys h)]
    cases arguments supplied function.parameters with
    | ok es => simp [Except.map]
    | error fault => simp [Except.map]

end EntryPoint

end Flowchart
