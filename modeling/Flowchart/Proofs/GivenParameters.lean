import Flowchart.CommandLine.Arguments
import Flowchart.Proofs.Repetitions

set_option autoImplicit false

/-! # Parameters on the command line

The values that the options of a command line are given can be told argument by argument, without
regard to whether the command line is valid. Of a valid one, the parameters of the run are the
values of the option for parameters, each taken apart at its first equals sign. -/

namespace Flowchart.Arguments

/-! ## Values of options -/

/-- The value right behind a one-letter name, with or without an equals sign. -/
def inlineValue? : List Char → Option String
  | [] => none
  | '=' :: value => some (String.ofList value)
  | value => some (String.ofList value)

/-- Of one-letter names the first option that takes a value, and the value if it is there. -/
def shortValue? : List Char → Option (ValueOption × Option String)
  | [] => none
  | c :: rest =>
    match ofShort? c with
    | some (.value o) => some (o, inlineValue? rest)
    | _ => shortValue? rest

/-- The option with a long name, if it takes a value, and the value if it is there. -/
def longValue? (body : List Char) : Option (ValueOption × Option String) :=
  let (name, value) := match splitEquals? body with
    | some (name, value) => (name, some (String.ofList value))
    | none => (body, none)
  match ofLong? (String.ofList name) with
  | some (.value o) => some (o, value)
  | _ => none

/-- The option of an argument and the value with it, if there are. -/
def optionValue? : List Char → Option (ValueOption × Option String)
  | '-' :: '-' :: body => longValue? body
  | '-' :: body => shortValue? body
  | _ => none

/-- The same of an argument that may be the value of the option before it. -/
def given (awaiting : Option ValueOption) (argument : String) :
    Option (ValueOption × Option String) :=
  match awaiting with
  | some o => some (o, some argument)
  | none => optionValue? argument.toList

/-- The values of all options in order; `awaiting` is the option whose value comes next. -/
def values (awaiting : Option ValueOption) : List String → List (ValueOption × String)
  | [] => []
  | argument :: rest =>
    match given awaiting argument with
    | some (o, some value) => (o, value) :: values none rest
    | some (o, none) => values (some o) rest
    | none => values none rest

/-- The texts that are given for parameters. -/
def parameterTexts (arguments : List String) : List String :=
  ((values none arguments).filter (·.1 = .parameter)).map Prod.snd

/-- The name in such a text: what stands before the first equals sign, without the blanks around
    it. -/
def parameterName (text : String) : String :=
  String.ofList (Text.stripBlanks (text.toList.takeWhile (· ≠ '=')))

/-- The names of all parameters that are given. -/
def givenNames (arguments : List String) : List String :=
  (parameterTexts arguments).map parameterName

/-! ## Reading them -/

/-- The parameters among values. -/
def parametersOf (values : List (ValueOption × String)) : List (Option (String × String)) :=
  (values.filter (·.1 = .parameter)).map (readParameter? ·.2)

theorem parametersOf_cons (first : ValueOption × String) (rest : List (ValueOption × String)) :
    parametersOf (first :: rest) = parametersOf [first] ++ parametersOf rest := by
  rw [parametersOf, ← List.singleton_append, List.filter_append, List.map_append]
  rfl

/-- Parameters are those that were there before and some more. -/
def Adds (before after : List (String × String)) (more : List (Option (String × String))) : Prop :=
  after.map some = before.map some ++ more

theorem Adds.nothing (parameters : List (String × String)) : Adds parameters parameters [] :=
  (List.append_nil _).symm

theorem Adds.trans {before between after : List (String × String)}
    {added more : List (Option (String × String))} (h : Adds before between added)
    (h' : Adds between after more) : Adds before after (added ++ more) := by
  rw [Adds, h', h, List.append_assoc]

/-- What is read of an argument with an option and a value, an option, or neither. -/
def Follows (r r' : Reading) : Option (ValueOption × Option String) → Prop
  | some (o, some value) =>
    r'.awaiting = none ∧ Adds r.parameters r'.parameters (parametersOf [(o, value)])
  | some (o, none) => r'.awaiting = some o ∧ Adds r.parameters r'.parameters []
  | none => r'.awaiting = none ∧ Adds r.parameters r'.parameters []

/-- An argument either ends the reading without a run, or what has been read follows from what the
    argument has. -/
def Step.Fits (r : Reading) (value : Option (ValueOption × Option String)) : Step → Prop
  | .next r' => Follows r r' value
  | .done outcome => ∀ a, outcome ≠ .run a

section

variable {r r' : Reading} {value : Option (ValueOption × Option String)} {step : Step}

theorem Step.fits_invalid : (Step.done .invalid).Fits r value := by simp [Fits]

/-- What neither an option nor a value comes before makes no difference. -/
theorem Step.Fits.after (hfirst : Follows r r' none) (h : step.Fits r' value) :
    step.Fits r value := by
  cases step with
  | done outcome => exact h
  | next r'' =>
    obtain ⟨-, hadds⟩ := hfirst
    rcases value with - | ⟨o, - | value⟩
    · exact ⟨h.1, hadds.trans h.2⟩
    · exact ⟨h.1, hadds.trans h.2⟩
    · exact ⟨h.1, hadds.trans h.2⟩

theorem give_fits (o : ValueOption) (value : String) :
    (give r o value).Fits r (some (o, some value)) := by
  cases o with
  | path | function | output =>
    simp only [give]
    split
    · exact Step.fits_invalid
    · exact ⟨rfl, Adds.nothing _⟩
  | parameter =>
    simp only [give]
    split
    · next p hp => exact ⟨rfl, by simp [Adds, parametersOf, hp]⟩
    · exact Step.fits_invalid

theorem raise_fits (hawaiting : r.awaiting = none) (f : Flag) : (raise r f).Fits r none := by
  unfold raise
  split
  · simp [Step.Fits]
  · simp [Step.Fits]
  · split
    · exact Step.fits_invalid
    · exact ⟨hawaiting, Adds.nothing _⟩

theorem readLong_fits (hawaiting : r.awaiting = none) (body : List Char) :
    (readLong r body).Fits r (longValue? body) := by
  unfold readLong longValue?
  cases splitEquals? body with
  | some parts =>
    obtain ⟨name, value⟩ := parts
    cases hname : ofLong? (String.ofList name) with
    | none => simpa [hname] using Step.fits_invalid
    | some switch =>
      cases switch with
      | value o => simpa [hname] using give_fits o _
      | flag f => simpa [hname] using Step.fits_invalid
  | none =>
    cases hname : ofLong? (String.ofList body) with
    | none => simpa [hname] using Step.fits_invalid
    | some switch =>
      cases switch with
      | value o => simpa [hname] using ⟨rfl, Adds.nothing _⟩
      | flag f => simpa [hname] using raise_fits hawaiting f

theorem readShort_fits (hawaiting : r.awaiting = none) (body : List Char) :
    (readShort r body).Fits r (shortValue? body) := by
  induction body generalizing r with
  | nil => exact ⟨hawaiting, Adds.nothing _⟩
  | cons c rest ih =>
    unfold readShort shortValue?
    cases hname : ofShort? c with
    | none => exact Step.fits_invalid
    | some switch =>
      cases switch with
      | value o =>
        simp only
        split
        · exact ⟨rfl, Adds.nothing _⟩
        · exact give_fits o _
        · next hne hequals =>
          have hvalue : inlineValue? rest = some (String.ofList rest) := by
            unfold inlineValue?
            split
            · exact absurd rfl hne
            · exact absurd rfl (hequals _)
            · rfl
          rw [hvalue]
          exact give_fits o _
      | flag f =>
        have hraise := raise_fits hawaiting f
        simp only
        cases hnext : raise r f with
        | next r' =>
          rw [hnext] at hraise
          exact (ih hraise.1).after hraise
        | done outcome =>
          rw [hnext] at hraise
          exact hraise

theorem readOne_fits (r : Reading) (argument : String) :
    (readOne r argument).Fits r (given r.awaiting argument) := by
  unfold readOne
  cases hawaiting : r.awaiting with
  | some o =>
    simp only [given]
    split
    · exact Step.fits_invalid
    · exact Step.fits_invalid
    · exact give_fits o argument
  | none =>
    simp only [given]
    split
    · next body htext =>
      rw [htext]
      exact readLong_fits hawaiting body
    · next c body hlong htext =>
      have hshort : optionValue? ('-' :: c :: body) = shortValue? (c :: body) := by
        unfold optionValue?
        split
        · next heq => cases heq; exact absurd rfl hlong
        · next heq => cases heq; rfl
        · next hno => exact absurd rfl (hno _)
      simp only [htext, hshort]
      exact readShort_fits hawaiting (c :: body)
    · exact Step.fits_invalid

theorem conclude_eq_run {a : Arguments} (h : conclude r = .run a) :
    r.awaiting = none ∧ a.parameters = r.parameters := by
  unfold conclude at h
  split at h
  · next hawaiting _ _ =>
    cases h
    exact ⟨hawaiting, rfl⟩
  · cases h

theorem parameters_of_readFrom {arguments : List String} {a : Arguments}
    (h : readFrom r arguments = .run a) :
    Adds r.parameters a.parameters (parametersOf (values r.awaiting arguments)) := by
  -- on the arguments, with what has been read of those before
  induction arguments generalizing r with
  | nil =>
    rw [readFrom] at h
    rw [(conclude_eq_run h).2]
    exact Adds.nothing _
  | cons argument rest ih =>
    rw [readFrom] at h
    by_cases hend : argument = "--"
    · subst hend
      rw [if_pos rfl] at h
      split at h
      · next hempty =>
        obtain ⟨hawaiting, hparameters⟩ := conclude_eq_run h
        have hvalues : values none ["--"] = [] := by decide
        rw [List.isEmpty_iff.1 hempty, hawaiting, hvalues, hparameters]
        exact Adds.nothing _
      · cases h
    · rw [if_neg hend] at h
      have hone := readOne_fits r argument
      rw [values]
      cases hstep : readOne r argument with
      | done outcome =>
        rw [hstep] at hone h
        exact absurd h (hone a)
      | next r' =>
        rw [hstep] at hone h
        have hrest := ih h
        rcases hgiven : given r.awaiting argument with - | ⟨o, - | value⟩
        · rw [hgiven] at hone
          rw [hone.1] at hrest
          exact hone.2.trans hrest
        · rw [hgiven] at hone
          rw [hone.1] at hrest
          exact hone.2.trans hrest
        · rw [hgiven] at hone
          rw [hone.1] at hrest
          simp only
          rw [parametersOf_cons]
          exact hone.2.trans hrest

end

/-! ## The parameters of a run -/

section

variable {arguments : List String} {a : Arguments}

/-- The parameters of a command line that can be read are the texts that are given for parameters,
    each taken apart. -/
theorem parameters_of_read (h : read arguments = .run a) :
    (parameterTexts arguments).map readParameter? = a.parameters.map some := by
  rw [parameters_of_readFrom h, parameterTexts, List.map_map]
  rfl

theorem name_of_readParameter? {text : String} {p : String × String}
    (h : readParameter? text = some p) : p.1 = parameterName text := by
  unfold readParameter? splitEquals? at h
  dsimp only at h
  split at h
  · cases h
  · next name value hsplit =>
    split at hsplit
    · cases hsplit
      split_ifs at h
      cases h
      rfl
    · cases hsplit

theorem givenNames_eq (h : read arguments = .run a) :
    givenNames arguments = a.parameters.map Prod.fst := by
  have hread := parameters_of_read h
  have hname : ∀ text ∈ parameterTexts arguments,
      some (parameterName text) = (readParameter? text).map Prod.fst := by
    intro text htext
    have hmem : readParameter? text ∈ a.parameters.map some := hread ▸ List.mem_map_of_mem htext
    obtain ⟨p, -, hp⟩ := List.mem_map.1 hmem
    rw [← hp, Option.map_some, name_of_readParameter? hp.symm]
  have hnames : (givenNames arguments).map some = (a.parameters.map Prod.fst).map some := by
    calc (givenNames arguments).map some
        = ((parameterTexts arguments).map readParameter?).map (Option.map Prod.fst) := by
          rw [givenNames, List.map_map, List.map_map]
          exact List.map_congr_left hname
      _ = (a.parameters.map Prod.fst).map some := by
          rw [hread, List.map_map, List.map_map]
          rfl
  exact List.map_injective_iff.2 (Option.some_injective _) hnames

example : givenNames ["-va=x=1", "--parameter", " x =2=3", "-ay=", "-p", "x=1"]
    = ["x", "x", "y"] := by
  decide +kernel

/-- No name is found to be given again exactly if the names differ. -/
theorem firstRepeated_eq_none_iff {parameters : List (String × String)} :
    firstRepeated [] parameters = none ↔ (parameters.map Prod.fst).Nodup := by
  have heq : ∀ seen, firstRepeated seen parameters
      = Flowchart.firstRepeated seen (parameters.map Prod.fst) := by
    induction parameters with
    | nil => exact fun _ => rfl
    | cons p rest ih =>
      intro seen
      rw [firstRepeated, List.map_cons, Flowchart.firstRepeated, ih]
  rw [heq, Flowchart.firstRepeated_eq_none_iff]
  simp

end

end Flowchart.Arguments
