import Flowchart.Generation.Comments
import Flowchart.Java.JavaClass
import Flowchart.Proofs.Escapes
import Mathlib.Data.List.Chain
import Mathlib.Data.List.TakeWhile

set_option autoImplicit false

/-! # Where a comment ends

A comment of a source file ends at the first star that a slash follows once Unicode escapes are
translated. So a documentation block is one comment exactly if no line in it spells a malformed
escape or an end. Of the lines of an item's comments that is true exactly if every escape in the
comments is well formed and every end in them is spelled by a star and a slash themselves: those are
replaced, the others are not. -/

namespace Flowchart

namespace Java

/-! ## Comments -/

/-- A code unit of white space or of a line break. -/
def isWhite (unit : CodeUnit) : Bool := [9, 10, 12, 13, 32].contains unit

/-- What is left behind the first end of a comment. -/
def skipComment : List CodeUnit → Option (List CodeUnit)
  | a :: b :: rest =>
    if a = '*'.toNat ∧ b = '/'.toNat then some rest else skipComment (b :: rest)
  | _ => none

/-- What is left behind the comment that a source text starts with, after white space. -/
def lexComment (source : List Char) : Option (List CodeUnit) :=
  (translate source).bind fun units =>
    match units.dropWhile isWhite with
    | a :: b :: rest => if a = '/'.toNat ∧ b = '*'.toNat then skipComment rest else none
    | _ => none

/-- A source text is one comment, with nothing but white space around it. -/
def IsComment (source : String) : Prop :=
  ∃ rest, lexComment source.toList = some rest ∧ rest.all isWhite = true

instance (source : String) : Decidable (IsComment source) :=
  decidable_of_iff ((lexComment source.toList).any fun rest => rest.all isWhite) (by
    simp [IsComment, Option.any_eq_true])

/-- The end may be spelled with escapes, in upper or lower case. -/
example : ¬ IsComment "/** a */ b */\n" ∧ ¬ IsComment "/** a *\\uu002F b */\n"
    ∧ IsComment "/** a * / b \\\\u */\n" := by decide

/-! ## Neighbours in a source text -/

/-- Two input characters that end a comment. -/
def EndsComment (a b : InputChar) : Prop := a.units = ['*'.toNat] ∧ b.units = ['/'.toNat]

/-- The Unicode escapes of a source text are well formed, and every two input characters that
    follow each other in it are related. -/
def Neighbours (R : InputChar → InputChar → Prop) (text : List Char) : Prop :=
  ∃ cs, inputChars .outside text = some cs ∧ cs.IsChain R

/-- A text that does not end the comment it stands in. -/
def Closed (text : List Char) : Prop := Neighbours (fun a b => ¬ EndsComment a b) text

theorem codeUnits_inj {c d : Char} (h : codeUnits c = codeUnits d) : c = d :=
  (@codeUnits_append_inj c d [] [] (by simpa using h)).1

theorem endsComment_raw_left {c : Char} {b : InputChar} (h : EndsComment (.raw c) b) : c = '*' :=
  codeUnits_inj h.1

theorem endsComment_raw_right {a : InputChar} {c : Char} (h : EndsComment a (.raw c)) : c = '/' :=
  codeUnits_inj h.2

theorem hexDigit?_toNat {c : Char} {d : Nat} (h : hexDigit? c = some d) :
    0x2F < c.toNat ∧ c.toNat < 0x67 := by
  simp only [hexDigit?, Char.le_def, UInt32.le_iff_toNat_le] at h
  have hval : c.val.toNat = c.toNat := rfl
  split at h
  · next hrange =>
    have hlow : 48 ≤ c.toNat := hrange.1
    have hhigh : c.toNat ≤ 57 := hrange.2
    omega
  · split at h
    · next hrange =>
      have hlow : 97 ≤ c.toNat := hrange.1
      have hhigh : c.toNat ≤ 102 := hrange.2
      omega
    · split at h
      · next hrange =>
        have hlow : 65 ≤ c.toNat := hrange.1
        have hhigh : c.toNat ≤ 70 := hrange.2
        omega
      · cases h

/-- A blank has no part in Unicode escapes and in the ends of comments. -/
theorem blank_inert {c : Char} (h : Text.isBlank c = true) :
    c ≠ '\\' ∧ c ≠ 'u' ∧ hexDigit? c = none ∧ c ≠ '*' ∧ c ≠ '/' := by
  have hrange : c.toNat < 0x21 ∨ 0x84 < c.toNat := by
    simp only [Text.isBlank, Bool.or_eq_true, Bool.and_eq_true, decide_eq_true_eq, beq_iff_eq] at h
    omega
  have hne : ∀ d : Char, 0x20 < d.toNat → d.toNat < 0x85 → c ≠ d := by
    rintro d hlow hhigh rfl
    omega
  refine ⟨hne _ (by decide) (by decide), hne _ (by decide) (by decide), ?_,
    hne _ (by decide) (by decide), hne _ (by decide) (by decide)⟩
  cases hdigit : hexDigit? c with
  | none => rfl
  | some d =>
    have hdigits := hexDigit?_toNat hdigit
    omega

/-- A blank ends whatever stands before it, so the texts around it are read on their own. -/
theorem inputChars_append_blank {c : Char} (hc : Text.isBlank c = true) (rest : List Char) :
    ∀ (state : EscapeState) (text : List Char), inputChars state (text ++ c :: rest)
      = (inputChars state text).bind fun cs =>
        (inputChars .outside rest).map fun others => cs ++ .raw c :: others := by
  obtain ⟨hbackslash, hu, hdigit, -, -⟩ := blank_inert hc
  intro state text
  fun_induction inputChars state text with
  | case4 missing value => cases missing <;> simp [inputChars, hdigit]
  | _ =>
    simp_all [inputChars, Option.map_bind, Option.bind_map, Option.bind_assoc, Function.comp_def]

section

variable {R : InputChar → InputChar → Prop} (hR : ∀ a b, ¬ EndsComment a b → R a b)

include hR

/-- Neighbourhood is only tested within the texts around a blank. -/
theorem neighbours_append_blank {c : Char} (hc : Text.isBlank c = true) (text rest : List Char) :
    Neighbours R (text ++ c :: rest) ↔ Neighbours R text ∧ Neighbours R rest := by
  obtain ⟨-, -, -, hstar, hslash⟩ := blank_inert hc
  have hchain : ∀ cs others : List InputChar, (cs ++ .raw c :: others).IsChain R
      ↔ cs.IsChain R ∧ others.IsChain R := by
    intro cs others
    rw [List.isChain_append, List.isChain_cons]
    have hbefore : ∀ a, R a (.raw c) := fun a => hR a _ fun h => hslash (endsComment_raw_right h)
    have hafter : ∀ b, R (.raw c) b := fun b => hR _ b fun h => hstar (endsComment_raw_left h)
    simp [hbefore, hafter]
  simp only [Neighbours, inputChars_append_blank hc, Option.bind_eq_some_iff,
    Option.map_eq_some_iff]
  constructor
  · rintro ⟨_, ⟨cs, hcs, others, hothers, rfl⟩, hall⟩
    obtain ⟨hfirst, hsecond⟩ := (hchain cs others).1 hall
    exact ⟨⟨cs, hcs, hfirst⟩, ⟨others, hothers, hsecond⟩⟩
  · rintro ⟨⟨cs, hcs, hfirst⟩, ⟨others, hothers, hsecond⟩⟩
    exact ⟨_, ⟨cs, hcs, others, hothers, rfl⟩, (hchain cs others).2 ⟨hfirst, hsecond⟩⟩

omit hR in
theorem neighbours_nil : Neighbours R [] := ⟨[], rfl, .nil⟩

theorem neighbours_blank_cons {c : Char} (hc : Text.isBlank c = true) (rest : List Char) :
    Neighbours R (c :: rest) ↔ Neighbours R rest := by
  have hsplit := neighbours_append_blank hR hc [] rest
  rw [List.nil_append] at hsplit
  rw [hsplit, and_iff_right neighbours_nil]

theorem neighbours_blanks_append (blanks rest : List Char)
    (hblanks : ∀ c ∈ blanks, Text.isBlank c = true) :
    Neighbours R (blanks ++ rest) ↔ Neighbours R rest := by
  induction blanks with
  | nil => rfl
  | cons c blanks ih =>
    rw [List.cons_append, neighbours_blank_cons hR (hblanks c List.mem_cons_self)]
    exact ih fun d hd => hblanks d (List.mem_cons_of_mem _ hd)

theorem neighbours_append_blanks (text blanks : List Char)
    (hblanks : ∀ c ∈ blanks, Text.isBlank c = true) :
    Neighbours R (text ++ blanks) ↔ Neighbours R text := by
  cases blanks with
  | nil => rw [List.append_nil]
  | cons c blanks =>
    rw [neighbours_append_blank hR (hblanks c List.mem_cons_self)]
    have hrest := neighbours_blanks_append hR blanks []
      fun d hd => hblanks d (List.mem_cons_of_mem _ hd)
    rw [List.append_nil] at hrest
    exact and_iff_left (hrest.2 neighbours_nil)

theorem neighbours_intercalate {c : Char} (hc : Text.isBlank c = true) (texts : List (List Char)) :
    Neighbours R ([c].intercalate texts) ↔ ∀ text ∈ texts, Neighbours R text := by
  induction texts with
  | nil => simpa using neighbours_nil
  | cons text texts ih =>
    cases texts with
    | nil => simp
    | cons next texts =>
      rw [List.intercalate_cons_cons, List.append_assoc, List.singleton_append,
        neighbours_append_blank hR hc, ih, List.forall_mem_cons (a := text)]

theorem neighbours_dropTrailingBlanks (text : List Char) :
    Neighbours R (Text.dropTrailingBlanks text) ↔ Neighbours R text := by
  have hsplit : Text.dropTrailingBlanks text ++ (text.reverse.takeWhile Text.isBlank).reverse
      = text := by
    rw [Text.dropTrailingBlanks, ← List.reverse_append, List.takeWhile_append_dropWhile,
      List.reverse_reverse]
  have hblanks : ∀ c ∈ (text.reverse.takeWhile Text.isBlank).reverse, Text.isBlank c = true :=
    fun c hc => List.mem_takeWhile_imp (List.mem_reverse.1 hc)
  rw [← neighbours_append_blanks hR (Text.dropTrailingBlanks text) _ hblanks, hsplit]

theorem neighbours_stripBlanks (text : List Char) :
    Neighbours R (Text.stripBlanks text) ↔ Neighbours R text := by
  have hsplit : text.takeWhile Text.isBlank ++ Text.dropBlanks text = text :=
    List.takeWhile_append_dropWhile
  have hblanks : ∀ c ∈ text.takeWhile Text.isBlank, Text.isBlank c = true :=
    fun c hc => List.mem_takeWhile_imp hc
  rw [Text.stripBlanks, neighbours_dropTrailingBlanks hR,
    ← neighbours_blanks_append hR _ (Text.dropBlanks text) hblanks, hsplit]

end

/-! ## Lexing a closed text -/

theorem InputChar.units_cases (a : InputChar) :
    (∃ x, a.units = [x])
      ∨ ∃ high low, a.units = [high, low] ∧ high ≠ '*'.toNat ∧ low ≠ '*'.toNat
        ∧ high ≠ '/'.toNat := by
  cases a with
  | escape x => exact .inl ⟨x, rfl⟩
  | raw c =>
    by_cases hone : c.toNat < 0x10000
    · exact .inl ⟨c.toNat, by simp [units, codeUnits, hone]⟩
    · refine .inr ⟨_, _, by simp only [units, codeUnits, if_neg hone]; rfl, ?_, ?_, ?_⟩ <;>
        exact Nat.ne_of_gt (Nat.lt_of_lt_of_le (by decide) (Nat.le_add_right _ _))

theorem skipComment_cons_of_ne {unit : CodeUnit} (h : unit ≠ '*'.toNat) (rest : List CodeUnit) :
    skipComment (unit :: rest) = skipComment rest := by
  cases rest with
  | nil => rfl
  | cons b rest => rw [skipComment, if_neg fun hends => h hends.1]

/-- A text has no end of a comment exactly if no two of its input characters are one. -/
theorem skipComment_eq_none_iff (cs : List InputChar) :
    skipComment (cs.flatMap InputChar.units) = none
      ↔ cs.IsChain fun a b => ¬ EndsComment a b := by
  induction cs with
  | nil => simp [skipComment]
  | cons a cs ih =>
    rw [List.flatMap_cons, List.isChain_cons, ← ih]
    obtain ⟨x, ha⟩ | ⟨high, low, ha, hhigh, hlow, -⟩ := a.units_cases
    · cases cs with
      | nil => simp [ha, skipComment]
      | cons b cs =>
        -- the second unit of a pair of surrogates is never looked at behind a star
        obtain ⟨y, ys, hb, hend⟩ : ∃ y ys, b.units = y :: ys
            ∧ (b.units = ['/'.toNat] ↔ y = '/'.toNat) := by
          obtain ⟨y, hb⟩ | ⟨y, z, hb, -, -, hslash⟩ := b.units_cases
          · exact ⟨y, [], hb, by simp [hb]⟩
          · exact ⟨y, [z], hb, iff_of_false (by simp [hb]) hslash⟩
        have hends : EndsComment a b ↔ x = '*'.toNat ∧ y = '/'.toNat := by
          rw [EndsComment, hend, ha]
          simp
        simp only [ha, List.flatMap_cons, hb, List.cons_append, List.nil_append, List.head?_cons,
          Option.mem_def, Option.some.injEq, forall_eq', hends]
        rw [skipComment]
        by_cases hboth : x = '*'.toNat ∧ y = '/'.toNat
        · rw [if_pos hboth]
          exact iff_of_false (by simp) fun h => h.1 hboth
        · rw [if_neg hboth, and_iff_right hboth]
    · have hnot : ∀ b, ¬ EndsComment a b := fun b h => by simp [EndsComment, ha] at h
      rw [ha, List.cons_append, skipComment_cons_of_ne hhigh, List.cons_append,
        skipComment_cons_of_ne hlow]
      simp [hnot]

/-- The first end is in the first of two texts, or it is the first one of the second text. -/
theorem skipComment_append (unit : CodeUnit) (hunit : unit ≠ '/'.toNat)
    (units rest : List CodeUnit) :
    skipComment (units ++ unit :: rest)
      = (skipComment units).elim (skipComment (unit :: rest)) fun left =>
        some (left ++ unit :: rest) := by
  fun_induction skipComment units with
  | case1 a b left h => simp [skipComment, h]
  | case2 a b left h ih => rw [← ih, List.cons_append, List.cons_append, skipComment, if_neg h]
  | case3 units hshort =>
    match units, hshort with
    | [], _ => rfl
    | [a], _ => rw [List.cons_append, List.nil_append, skipComment, if_neg fun h => hunit h.2]; rfl
    | a :: b :: left, hshort => exact absurd rfl (hshort a b left)

/-- A text between the opening and the end of a comment, with what is left behind the first end. -/
theorem lexComment_block (depth : Nat) (text : List Char) :
    lexComment (List.replicate depth ' ' ++ '/' :: '*' :: (text ++ " */\n".toList))
      = (inputChars .outside text).map fun cs =>
        (skipComment (cs.flatMap InputChar.units)).elim ['\n'.toNat] fun left =>
          left ++ " */\n".toList.map Char.toNat := by
  have hindent : ∀ rest, inputChars .outside (List.replicate depth ' ' ++ rest)
      = (inputChars .outside rest).map (List.replicate depth (.raw ' ') ++ ·) := by
    intro rest
    induction depth with
    | zero => simp
    | succ depth ih => simp [List.replicate_succ, inputChars, ih, Function.comp_def]
  have hend : inputChars .outside "*/\n".toList = some ("*/\n".toList.map .raw) := by decide
  have htext := inputChars_append_blank (c := ' ') (by decide) "*/\n".toList .outside text
  have hsplit : text ++ " */\n".toList = text ++ ' ' :: "*/\n".toList := rfl
  have hwhite : ∀ rest, (List.replicate depth ' '.toNat ++ '/'.toNat :: rest).dropWhile isWhite
      = '/'.toNat :: rest := by
    intro rest
    rw [List.dropWhile_append_of_pos (by simp [isWhite])]
    rfl
  have hskip := fun units => skipComment_append ' '.toNat (by decide) units
    ("*/\n".toList.map Char.toNat)
  rw [lexComment, translate, hindent, inputChars, inputChars, if_neg (by decide),
    if_neg (by decide), hsplit, htext, hend]
  cases inputChars .outside text with
  | none => rfl
  | some cs =>
    have hunits : (List.replicate depth (InputChar.raw ' ') ++ InputChar.raw '/' ::
        InputChar.raw '*' :: (cs ++ InputChar.raw ' ' :: "*/\n".toList.map .raw)).flatMap
          InputChar.units
        = List.replicate depth ' '.toNat ++ '/'.toNat :: '*'.toNat ::
          (cs.flatMap InputChar.units ++ ' '.toNat :: "*/\n".toList.map Char.toNat) := by
      simp [InputChar.units, codeUnits, List.flatMap_replicate]
    simp only [Option.bind_some, Option.map_some, hunits, hwhite, and_self, if_true, hskip]
    cases skipComment (cs.flatMap InputChar.units) with
    | none => rfl
    | some left => rfl

/-- A text that stands between the opening and the end of a comment leaves it one comment exactly if
    it is closed. -/
theorem isComment_iff_closed (depth : Nat) (text : List Char) :
    IsComment (String.ofList (List.replicate depth ' ' ++ '/' :: '*' ::
      (text ++ " */\n".toList))) ↔ Closed text := by
  rw [IsComment, String.toList_ofList, lexComment_block, Closed, Neighbours]
  cases inputChars .outside text with
  | none => simp
  | some cs =>
    simp only [Option.map_some, Option.some.injEq, exists_eq_left', ← skipComment_eq_none_iff]
    cases skipComment (cs.flatMap InputChar.units) with
    | none => simp [isWhite]
    | some left => simp [isWhite]

end Java

namespace Comments

open Java

/-! ## Ends that are replaced -/

/-- The escapes in a text are well formed, and whatever ends a comment in it is spelled by a star
    and a slash themselves. -/
def Safe (text : List Char) : Prop :=
  Neighbours (fun a b => EndsComment a b → a = .raw '*' ∧ b = .raw '/') text

/-- Input characters and what they become if each star and slash among them is replaced. -/
inductive Neutralized : List InputChar → List InputChar → Prop
  | nil : Neutralized [] []
  | replace {cs others : List InputChar} : Neutralized cs others →
    Neutralized (.raw '*' :: .raw '/' :: cs) ("*&#47;".toList.map .raw ++ others)
  | keep {a : InputChar} {cs others : List InputChar} :
    (a = .raw '*' → cs.head? ≠ some (.raw '/')) → Neutralized cs others →
    Neutralized (a :: cs) (a :: others)

theorem Neutralized.head?_eq {cs others : List InputChar} (h : Neutralized cs others) :
    others.head? = cs.head? := by
  cases h with
  | nil => rfl
  | replace _ => rfl
  | keep _ _ => rfl

/-- What is replaced ends no comment, so none is ended exactly if all ends are replaced. -/
theorem Neutralized.isChain_iff {cs others : List InputChar} (h : Neutralized cs others) :
    others.IsChain (fun a b => ¬ EndsComment a b)
      ↔ cs.IsChain fun a b => EndsComment a b → a = .raw '*' ∧ b = .raw '/' := by
  induction h with
  | nil => simp
  | replace _ ih =>
    have hplain : ∀ {c : Char} {b : InputChar}, c ≠ '*' → ¬ EndsComment (.raw c) b :=
      fun hc h => hc (endsComment_raw_left h)
    have hstar : ¬ EndsComment (.raw '*') (.raw '&') := fun h =>
      absurd (endsComment_raw_right h) (by decide)
    simp [List.isChain_cons, hplain, hstar, ih]
  | @keep a cs others ha hrest ih =>
    rw [List.isChain_cons, List.isChain_cons, ih, hrest.head?_eq]
    refine and_congr_left' (forall₂_congr fun b hb => ?_)
    have hkept : ¬ (a = .raw '*' ∧ b = .raw '/') := by
      rintro ⟨hstar, rfl⟩
      exact ha hstar hb
    simp [hkept]

/-- A slash that is read as it stands is the next character. -/
theorem head?_of_inputChars {state : EscapeState} {text : List Char} {cs : List InputChar}
    (h : inputChars state text = some cs) (hslash : cs.head? = some (.raw '/')) :
    state = .outside ∧ text.head? = some '/' := by
  fun_induction inputChars state text generalizing cs with
  | case10 _ _ _ ih | case12 _ _ _ _ ih =>
    obtain ⟨d, -, hrest⟩ := Option.bind_eq_some_iff.1 h
    exact absurd (ih d hrest hslash).1 (by simp)
  | case11 value c rest ih =>
    obtain ⟨d, -, hrest⟩ := Option.bind_eq_some_iff.1 h
    obtain ⟨others, -, rfl⟩ := Option.map_eq_some_iff.1 hrest
    exact absurd hslash (by simp)
  | case5 rest ih | case7 rest ih | case9 rest ih => exact absurd (ih h hslash).1 (by simp)
  | case6 c rest hc ih =>
    obtain ⟨others, -, rfl⟩ := Option.map_eq_some_iff.1 h
    simpa using hslash
  | case8 c rest hc ih =>
    obtain ⟨others, -, rfl⟩ := Option.map_eq_some_iff.1 h
    exact absurd hslash (by simp)
  | case1 | case2 => cases h; exact absurd hslash (by decide)
  | case3 | case4 => cases h

theorem rel_map {x y : Option (List InputChar)} (h : Option.Rel Neutralized x y)
    {f g : List InputChar → List InputChar}
    (hfg : ∀ cs others, x = some cs → Neutralized cs others → Neutralized (f cs) (g others)) :
    Option.Rel Neutralized (x.map f) (y.map g) := by
  cases h with
  | none => exact .none
  | some h => exact .some (hfg _ _ rfl h)

section

variable {text text' : List Char}
  (h : ∀ state, Option.Rel Neutralized (inputChars state text) (inputChars state text'))

include h

/-- The two characters that are replaced are read as they stand, wherever they are read at all. -/
theorem rel_inputChars_end (state : EscapeState) :
    Option.Rel Neutralized (inputChars state ('*' :: '/' :: text))
      (inputChars state ("*&#47;".toList ++ text')) := by
  have hdigit : hexDigit? '*' = none := by decide
  have hreplaced : inputChars .outside ("*&#47;".toList ++ text')
      = (inputChars .outside text').map ("*&#47;".toList.map .raw ++ ·) := by
    simp [inputChars, Function.comp_def]
  rcases state with _ | _ | _ | ⟨_ | missing, value⟩
  · rw [hreplaced]
    simpa [inputChars, Function.comp_def] using rel_map (h .outside) fun _ _ _ h => .replace h
  · simpa [inputChars, Function.comp_def] using rel_map (h .outside) fun _ _ _ h =>
      .keep (fun h => absurd h (by decide)) (.replace h)
  · simp [inputChars, hdigit]
  · simp [inputChars, hdigit]
  · simp [inputChars, hdigit]

/-- A character in front of both texts is read in the same way, and kept. -/
theorem rel_inputChars_cons {c : Char} (hkeep : ∀ cs, inputChars .outside text = some cs →
      InputChar.raw c = .raw '*' → cs.head? ≠ some (.raw '/')) (state : EscapeState) :
    Option.Rel Neutralized (inputChars state (c :: text)) (inputChars state (c :: text')) := by
  rcases state with _ | _ | _ | ⟨_ | missing, value⟩
  · rw [inputChars, inputChars]
    split
    · exact h _
    · exact rel_map (h _) fun cs others hcs h => .keep (hkeep cs hcs) h
  · rw [inputChars, inputChars]
    split
    · exact h _
    · exact rel_map (h _) fun cs others hcs h =>
        .keep (fun h => absurd h (by decide)) (.keep (hkeep cs hcs) h)
  · rw [inputChars, inputChars]
    split
    · exact h _
    · cases hexDigit? c with
      | none => exact .none
      | some d => exact h _
  · rw [inputChars, inputChars]
    cases hexDigit? c with
    | none => exact .none
    | some d => exact rel_map (h _) fun _ _ _ h => .keep (fun h => absurd h (by simp)) h
  · rw [inputChars, inputChars]
    cases hexDigit? c with
    | none => exact .none
    | some d => exact h _

end

theorem inputChars_neutralize (text : List Char) (state : EscapeState) :
    Option.Rel Neutralized (inputChars state text) (inputChars state (neutralize text)) := by
  fun_induction neutralize text generalizing state with
  | case1 rest ih => exact rel_inputChars_end ih state
  | case2 c rest hkept ih =>
    refine rel_inputChars_cons ih (fun cs hcs hstar hslash => ?_) state
    obtain ⟨-, hhead⟩ := head?_of_inputChars hcs hslash
    obtain ⟨others, hrest⟩ := List.head?_eq_some_iff.1 hhead
    exact hkept others (by simpa using hstar) hrest
  | case3 =>
    rcases state with _ | _ | _ | ⟨_ | missing, value⟩
    · exact .some .nil
    · exact .some (.keep (fun h => absurd h (by decide)) .nil)
    · exact .none
    · exact .none
    · exact .none

theorem closed_neutralize (text : List Char) : Closed (neutralize text) ↔ Safe text := by
  have hrel := inputChars_neutralize text .outside
  rw [Closed, Safe, Neighbours, Neighbours]
  generalize inputChars .outside text = x, inputChars .outside (neutralize text) = y at hrel ⊢
  cases hrel with
  | none => simp
  | some h => simpa using h.isChain_iff

/-- The lines of a comment can stand in a documentation block exactly if the comment is safe. -/
theorem forall_closed_lines (comments : String) :
    (∀ line ∈ lines comments, Closed line.toList) ↔ Safe comments.toList := by
  have hR : ∀ a b : InputChar, ¬ EndsComment a b → EndsComment a b → a = .raw '*' ∧ b = .raw '/' :=
    fun _ _ hnot h => absurd h hnot
  rw [Safe, ← neighbours_stripBlanks hR, lines]
  split
  · next hempty =>
    rw [List.isEmpty_iff.1 hempty]
    simpa using neighbours_nil
  · have hlines : ∀ line : List Char, Closed (String.ofList
        (neutralize (Text.dropTrailingBlanks line))).toList ↔ Safe line := by
      intro line
      rw [String.toList_ofList, closed_neutralize, Safe, Safe, neighbours_dropTrailingBlanks hR]
    have hsplit := neighbours_intercalate hR (c := '\n') (by decide)
      ((Text.stripBlanks comments.toList).splitOn '\n')
    rw [List.intercalate_splitOn] at hsplit
    rw [hsplit, List.forall_mem_map]
    exact forall₂_congr fun line _ => hlines line

end Comments

end Flowchart
