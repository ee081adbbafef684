import Flowchart.Proofs.Escapes
import Flowchart.Proofs.Legible
import Flowchart.Proofs.Numerals

set_option autoImplicit false

/-! # Reading expressions

A reader for the texts of expressions. It looks at the next character, or at the next word, to find
out which form of expression comes next; what stands in parentheses goes on until they are closed,
so precedence plays no part. Names are read as paths of steps, each of which is a plain name. -/

namespace Flowchart

namespace Reader

open Java (isPart isStart escapeSequence? hexDigit?)

/-! ## Tokens -/

/-- What follows a token. -/
def skip? (token : String) (cs : List Char) : Option (List Char) :=
  if token.toList.isPrefixOf cs then some (cs.drop token.toList.length) else none

/-- The characters that a name goes on with, and the rest. -/
def word (cs : List Char) : String × List Char :=
  (String.ofList (cs.takeWhile isPart), cs.dropWhile isPart)

/-- The text of a string literal behind its opening quote. -/
def readText : List Char → Option (List Char × List Char)
  | [] => none
  | '"' :: rest => some ([], rest)
  | '\\' :: 'u' :: a :: b :: c :: d :: rest => do
    let n := 4096 * (← hexDigit? a) + 256 * (← hexDigit? b) + 16 * (← hexDigit? c) + (← hexDigit? d)
    let (text, rest) ← readText rest
    return (Char.ofNat n :: text, rest)
  | '\\' :: letter :: rest => do
    let value ← escapeSequence? letter.toNat
    let (text, rest) ← readText rest
    return (Char.ofNat value :: text, rest)
  | c :: rest => do
    let (text, rest) ← readText rest
    return (c :: text, rest)

/-- A numeral. -/
def readNumber (cs : List Char) : Option (JavaExpr × List Char) := do
  let d ← Decimal.read? (cs.takeWhile NumberFormat.isNumeral)
  return (.number d.toDouble, cs.dropWhile NumberFormat.isNumeral)

/-- A double that is named by a constant. -/
def readConstant (cs : List Char) : Option (JavaExpr × List Char) :=
  match skip? ".NaN" cs, skip? ".POSITIVE_INFINITY" cs, skip? ".NEGATIVE_INFINITY" cs with
  | some rest, _, _ => some (.number .nan, rest)
  | _, some rest, _ => some (.number (.infinite false), rest)
  | _, _, some rest => some (.number (.infinite true), rest)
  | _, _, _ => none

/-- The type with a name. -/
def typeNamed (name : String) : JavaType :=
  if name = "double" then .double
  else if name = "boolean" then .boolean
  else if name = "String" then .string
  else .class name

/-- A new object, behind the keyword. -/
def readNew (cs : List Char) : Option (JavaExpr × List Char) := do
  let cs ← skip? " " cs
  let rest ← skip? "()" (cs.dropWhile (· ≠ '('))
  return (.new (typeNamed (String.ofList (cs.takeWhile (· ≠ '(')))) [], rest)

/-- The operand that the length is taken of, from the steps behind which it is called. -/
def measured? (steps : List JavaExpr) : Option JavaExpr :=
  match steps.getLast? with
  | some (.invoke "length" []) => some (JavaExpr.path steps.dropLast)
  | _ => none

/-! ## Expressions -/

mutual

/-- An expression. -/
def readExpr : Nat → List Char → Option (JavaExpr × List Char)
  | 0, _ => none
  | _, [] => none
  | fuel + 1, c :: cs =>
    if c = '"' then (readText cs).map fun r => (.text (String.ofList r.1), r.2)
    else if c = '(' then readGroup fuel cs
    else if isStart c then readWord fuel (c :: cs)
    else readNumber (c :: cs)

/-- An expression that starts with a word. -/
def readWord : Nat → List Char → Option (JavaExpr × List Char)
  | 0, _ => none
  | fuel + 1, cs =>
    match word cs with
    | ("true", rest) => some (.boolean true, rest)
    | ("false", rest) => some (.boolean false, rest)
    | ("new", rest) => readNew rest
    | ("Double", rest) => readConstant rest
    | ("String", rest) => do
      let (e, rest) ← readExpr fuel (← skip? ".valueOf(" rest)
      return (.stringOf e, ← skip? ")" rest)
    | ("java", rest) => do
      let (left, rest) ← readExpr fuel (← skip? ".util.Objects.equals(" rest)
      let (right, rest) ← readExpr fuel (← skip? ", " rest)
      return (.objectsEqual left right, ← skip? ")" rest)
    | _ => do
      let (steps, rest) ← readSteps fuel cs
      return (JavaExpr.path steps, rest)

/-- An expression in parentheses, behind the opening one. -/
def readGroup : Nat → List Char → Option (JavaExpr × List Char)
  | 0, _ => none
  | fuel + 1, cs =>
    match skip? "!" cs, skip? "(double) " cs with
    | some cs, _ => do
      let (e, rest) ← readExpr fuel cs
      return (.not e, ← skip? ")" rest)
    | none, some cs => do
      let (e, rest) ← readMeasured fuel cs
      return (.length e, ← skip? ")" rest)
    | none, none => do
      let (e, rest) ← readExpr fuel cs
      match skip? ")" rest with
      | some rest => return (.group e, rest)
      | none =>
        -- without a closing parenthesis there is an operator behind the first operand
        let rest ← skip? " " rest
        let operator := rest.takeWhile (· ≠ ' ')
        let (others, rest) ← readOperands fuel (String.ofList operator) (rest.dropWhile (· ≠ ' '))
        return (.operation (String.ofList operator) (e :: others), rest)

/-- The operands behind the first operator, from the blank behind it. -/
def readOperands : Nat → String → List Char → Option (List JavaExpr × List Char)
  | 0, _, _ => none
  | fuel + 1, operator, cs => do
    let (e, rest) ← readExpr fuel (← skip? " " cs)
    match skip? ")" rest with
    | some rest => return ([e], rest)
    | none =>
      let (others, rest) ← readOperands fuel operator (← skip? (" " ++ operator) rest)
      return (e :: others, rest)

/-- What the length is taken of, with the call. -/
def readMeasured : Nat → List Char → Option (JavaExpr × List Char)
  | 0, _ => none
  | _, [] => none
  | fuel + 1, c :: cs =>
    if isStart c then do
      let (steps, rest) ← readSteps fuel (c :: cs)
      return (← measured? steps, rest)
    else do
      let (e, rest) ← readExpr fuel (c :: cs)
      return (e, ← skip? ".length()" rest)

/-- Steps joined by points. -/
def readSteps : Nat → List Char → Option (List JavaExpr × List Char)
  | 0, _ => none
  | fuel + 1, cs => do
    let (step, rest) ← readStep fuel cs
    match skip? "." rest with
    | some rest => do
      let (others, rest) ← readSteps fuel rest
      return (step :: others, rest)
    | none => return ([step], rest)

/-- A name, with the arguments that follow it. -/
def readStep : Nat → List Char → Option (JavaExpr × List Char)
  | 0, _ => none
  | fuel + 1, cs =>
    let (name, rest) := word cs
    match skip? "(" rest with
    | some rest => do
      let (arguments, rest) ← readArguments fuel rest
      return (.invoke name arguments, rest)
    | none => some (.name name, rest)

/-- Arguments up to the closing parenthesis. -/
def readArguments : Nat → List Char → Option (List JavaExpr × List Char)
  | 0, _ => none
  | fuel + 1, cs =>
    match skip? ")" cs with
    | some rest => some ([], rest)
    | none => do
      let (e, rest) ← readExpr fuel cs
      match skip? ", " rest with
      | some rest => do
        let (others, rest) ← readArguments fuel rest
        return (e :: others, rest)
      | none => return ([e], ← skip? ")" rest)

end

/-! ## Reading back tokens -/

theorem skip?_append (token : String) (rest : List Char) :
    skip? token (token.toList ++ rest) = some rest := by
  rw [skip?, if_pos (List.isPrefixOf_iff_prefix.2 (List.prefix_append _ _)), List.drop_left]

/-- A token does not stand where another character does. -/
theorem skip?_eq_none {token : String} {cs : List Char} (htoken : token.toList ≠ [])
    (h : ∀ c ∈ cs.head?, token.toList.head? ≠ some c) : skip? token cs = none := by
  refine if_neg fun hprefix => ?_
  obtain ⟨rest, rfl⟩ := List.isPrefixOf_iff_prefix.1 hprefix
  obtain ⟨c, others, heq⟩ := List.exists_cons_of_ne_nil htoken
  exact h c (by rw [heq]; rfl) (by rw [heq]; rfl)

/-- A token can be looked for piece by piece. -/
theorem skip?_append_append (first second : String) (cs : List Char) :
    skip? (first ++ second) (first.toList ++ cs) = skip? second cs := by
  simp only [skip?, String.toList_append, List.isPrefixOf_iff_prefix, List.prefix_append_right_inj,
    List.length_append, List.drop_length_add_append]

theorem skip?_append_eq_none {token : String} {text : List Char} {c : Char}
    (htoken : token.toList ≠ []) (hc : text.head? = some c) (h : token.toList.head? ≠ some c)
    (rest : List Char) : skip? token (text ++ rest) = none := by
  refine skip?_eq_none htoken fun d hd => ?_
  rw [List.head?_append, hc, Option.some_or, Option.mem_some_iff] at hd
  rwa [← hd]

theorem word_append {name : String} (hname : name.toList.all isPart = true)
    {rest : List Char} (hrest : ∀ c ∈ rest.head?, isPart c = false) :
    word (name.toList ++ rest) = (name, rest) := by
  obtain ⟨htake, hdrop⟩ := span_append name.toList rest (List.all_eq_true.1 hname) hrest
  rw [word, htake, hdrop, String.ofList_toList]

/-- An escaped character is read as the character. -/
theorem readText_escape (c : Char) (rest : List Char) :
    readText (Java.escape c ++ rest) = (readText rest).map fun r => (c :: r.1, r.2) := by
  obtain ⟨letter, hu, hescape, -, hvalue, -⟩ | ⟨hcontrol, hescape⟩
    | ⟨⟨hquote, -, -, hbackslash⟩, hescape⟩ := Java.escape_cases c
  · rw [hescape, List.cons_append, List.cons_append, List.nil_append, readText]
    · simp [hvalue, Char.ofNat_toNat]
      cases readText rest <;> rfl
    · rintro a b d e others rfl
      exact absurd rfl hu
  · have hsmall : c.toNat < 0x10000 := by omega
    have hdigits : ∀ n, hexDigit? (Nat.digitChar (n % 16)) = some (n % 16) := fun n =>
      Java.hexDigit?_digitChar _ (Nat.mod_lt _ (by decide))
    have hvalue : 4096 * (c.toNat / 4096 % 16) + 256 * (c.toNat / 256 % 16)
        + 16 * (c.toNat / 16 % 16) + c.toNat % 16 = c.toNat := by omega
    rw [hescape, Java.fourHexDigits]
    simp only [List.cons_append, List.nil_append]
    rw [readText]
    simp [hdigits, hvalue, Char.ofNat_toNat]
    cases readText rest <;> rfl
  · rw [hescape, List.cons_append, List.nil_append, readText]
    · cases readText rest <;> rfl
    · exact hquote
    · rintro a b d e others rfl
      exact absurd rfl hbackslash
    · rintro letter others rfl
      exact absurd rfl hbackslash

theorem readText_literal (text rest : List Char) :
    readText (text.flatMap Java.escape ++ '"' :: rest) = some (text, rest) := by
  induction text with
  | nil => rfl
  | cons c text ih => rw [List.flatMap_cons, List.append_assoc, readText_escape, ih]; rfl

/-! ## What can be read -/

theorem isStart_of_isDigit {c : Char} (h : c.isDigit = true) : isStart c = false := by
  have hdigits : ∀ n < 10, isStart (Char.ofNat (48 + n)) = false := by decide
  have hlow : 48 ≤ c.toNat := by
    simp only [Char.isDigit, Bool.and_eq_true, decide_eq_true_eq, ge_iff_le] at h
    exact UInt32.le_iff_toNat_le.1 h.1
  have hhigh : c.toNat ≤ 57 := by
    simp only [Char.isDigit, Bool.and_eq_true, decide_eq_true_eq, ge_iff_le] at h
    exact UInt32.le_iff_toNat_le.1 h.2
  have hdigit := hdigits (c.toNat - 48) (by omega)
  rwa [Nat.add_sub_cancel' hlow, Char.ofNat_toNat] at hdigit

/-- The characters behind an expression. -/
def Ends (rest : List Char) : Prop := ∀ c ∈ rest.head?, c = ' ' ∨ c = ')' ∨ c = ','

/-- With fuel enough, a text is read as a value whatever follows it, within limits. -/
def Reads {α : Type} (follow : List Char → Prop) (read : Nat → List Char → Option (α × List Char))
    (text : List Char) (value : α) : Prop :=
  ∃ least, ∀ fuel, least ≤ fuel → ∀ rest, follow rest →
    read fuel (text ++ rest) = some (value, rest)

/-- An expression is read back from its text. -/
def ReadsBack (e : JavaExpr) : Prop := Reads Ends readExpr e.render.toList e

theorem Ends.isPart {rest : List Char} (h : Ends rest) : ∀ c ∈ rest.head?, isPart c = false := by
  intro c hc
  rcases h c hc with rfl | rfl | rfl <;> decide

theorem Ends.isNumeral {rest : List Char} (h : Ends rest) :
    ∀ c ∈ rest.head?, NumberFormat.isNumeral c = false := by
  intro c hc
  rcases h c hc with rfl | rfl | rfl <;> decide

section

variable {α : Type} {follow : List Char → Prop} {read : Nat → List Char → Option (α × List Char)}
  {text : List Char} {value : α}

/-- Every reader takes one unit of fuel itself. -/
theorem Reads.of_succ (n : Nat) (h : ∀ fuel, n ≤ fuel → ∀ rest, follow rest →
    read (fuel + 1) (text ++ rest) = some (value, rest)) : Reads follow read text value := by
  refine ⟨n + 1, fun fuel hfuel rest hrest => ?_⟩
  obtain ⟨less, rfl⟩ : ∃ less, fuel = less + 1 := ⟨fuel - 1, by omega⟩
  exact h less (by omega) rest hrest

theorem Reads.mono {follow' : List Char → Prop} (h : Reads follow read text value)
    (hfollow : ∀ rest, follow' rest → follow rest) : Reads follow' read text value := by
  obtain ⟨n, hread⟩ := h
  exact ⟨n, fun fuel hfuel rest hrest => hread fuel hfuel rest (hfollow rest hrest)⟩

end

/-! ### Words -/

section

variable {follow : List Char → Prop} {c : Char} {cs : List Char} {e : JavaExpr}

/-- An expression that starts with a letter is read from its first word on. -/
theorem Reads.of_readWord (h : Reads follow readWord (c :: cs) e) (hc : isStart c = true) :
    Reads follow readExpr (c :: cs) e := by
  have hquote : c ≠ '"' := by
    rintro rfl
    exact absurd hc (by decide)
  have hopening : c ≠ '(' := by
    rintro rfl
    exact absurd hc (by decide)
  obtain ⟨n, hread⟩ := h
  refine .of_succ n fun fuel hfuel rest hrest => ?_
  rw [List.cons_append, readExpr, if_neg hquote, if_neg hopening, if_pos hc]
  exact hread fuel hfuel rest hrest

end

/-! ### Literals -/

theorem readsBack_constant {d : Double} (constant : String)
    (htext : (JavaExpr.number d).render = "Double" ++ constant)
    (hread : ∀ rest, readConstant (constant.toList ++ rest) = some (.number d, rest))
    (hconstant : ∀ rest, ∀ c ∈ (constant.toList ++ rest).head?, isPart c = false) :
    ReadsBack (.number d) := by
  rw [ReadsBack, htext, String.toList_append]
  refine .of_readWord (.of_succ 0 fun fuel _ rest _ => ?_) (by decide)
  show readWord (fuel + 1) ("Double".toList ++ constant.toList ++ rest) = _
  rw [List.append_assoc, readWord, word_append (by decide) (hconstant rest)]
  exact hread rest

theorem readsBack_number (d : Double) : ReadsBack (.number d) := by
  match d with
  | .nan => exact readsBack_constant ".NaN" rfl (fun _ => rfl) (by simp; decide)
  | .infinite false =>
    exact readsBack_constant ".POSITIVE_INFINITY" rfl (fun _ => rfl) (by simp; decide)
  | .infinite true =>
    exact readsBack_constant ".NEGATIVE_INFINITY" rfl (fun _ => rfl) (by simp; decide)
  | .finite negative a =>
    have hnumeral := NumberFormat.isNumeral_finite (f := Java.numberFormat) rfl negative a
    have hread := Java.numberFormat.toDouble_read?_finite negative a
    obtain ⟨c, cs, htext, hc⟩ := Java.numberFormat.head_finite negative a
    have hc' : c ≠ '"' ∧ c ≠ '(' ∧ isStart c = false := by
      rcases hc with hc | rfl
      · refine ⟨?_, ?_, isStart_of_isDigit hc⟩ <;> (rintro rfl; revert hc; decide)
      · decide
    refine .of_succ 0 fun fuel _ rest hrest => ?_
    show readExpr (fuel + 1) ((Java.numberFormat.finite negative a).toList ++ rest) = _
    obtain ⟨htake, hdrop⟩ := span_append _ rest hnumeral hrest.isNumeral
    obtain ⟨d, hd, hvalue⟩ := Option.map_eq_some_iff.1 hread
    have hnumber : readNumber ((Java.numberFormat.finite negative a).toList ++ rest)
        = some (.number (.finite negative a), rest) := by
      simp [readNumber, htake, hdrop, hd, hvalue]
    rw [htext, List.cons_append] at hnumber ⊢
    rw [readExpr, if_neg hc'.1, if_neg hc'.2.1, if_neg (by simp [hc'.2.2]), hnumber]

theorem readsBack_boolean (b : Bool) : ReadsBack (.boolean b) := by
  cases b with
  | true =>
    refine .of_readWord (.of_succ 0 fun fuel _ rest hrest => ?_) (by decide)
    show readWord (fuel + 1) ("true".toList ++ rest) = _
    rw [readWord, word_append (by decide) hrest.isPart]
    rfl
  | false =>
    refine .of_readWord (.of_succ 0 fun fuel _ rest hrest => ?_) (by decide)
    show readWord (fuel + 1) ("false".toList ++ rest) = _
    rw [readWord, word_append (by decide) hrest.isPart]
    rfl

/-- What may follow a literal or a closing parenthesis is not limited. -/
def Anything (_ : List Char) : Prop := True

theorem reads_text (s : String) :
    Reads Anything readExpr (JavaExpr.text s).render.toList (.text s) := by
  refine .of_succ 0 fun fuel _ rest _ => ?_
  have htext : (JavaExpr.text s).render.toList ++ rest
      = '"' :: (s.toList.flatMap Java.escape ++ '"' :: rest) := by
    simp [Java.stringLiteral]
  rw [htext, readExpr, if_pos rfl, readText_literal]
  simp

theorem typeNamed_render {type : JavaType} (h : JavaExpr.Creatable type) :
    typeNamed type.render = type := by
  cases h with
  | double | boolean | string => rfl
  | «class» declared plain =>
    simp only [List.mem_cons, List.not_mem_nil, or_false, not_or] at declared
    obtain ⟨hdouble, hboolean, hstring⟩ := declared
    rw [JavaType.render, typeNamed, if_neg hdouble, if_neg hboolean, if_neg hstring]

theorem readsBack_new {type : JavaType} (h : JavaExpr.Creatable type) :
    ReadsBack (.new type []) := by
  have htext : (JavaExpr.new type []).render.toList
      = "new".toList ++ (" ".toList ++ (type.render.toList ++ "()".toList)) := by
    simp
  have hplain : ∀ c ∈ type.render.toList, (decide (c ≠ '(')) = true := by
    cases h with
    | double | boolean | string => exact List.all_eq_true.1 (by decide)
    | «class» declared plain =>
      intro c hc
      refine decide_eq_true ?_
      rintro rfl
      exact plain hc
  rw [ReadsBack, htext]
  refine .of_readWord (.of_succ 0 fun fuel _ rest _ => ?_) (by decide)
  show readWord (fuel + 1) ("new".toList ++ (" ".toList ++ (type.render.toList ++ "()".toList))
    ++ rest) = _
  rw [List.append_assoc, readWord, word_append (by decide) (by simp; decide), List.append_assoc,
    List.append_assoc]
  obtain ⟨htake, hdrop⟩ := span_append _ ("()".toList ++ rest) hplain (by simp)
  simp only [readNew, skip?_append, htake, hdrop, Option.bind_eq_bind, Option.bind_some,
    String.ofList_toList, typeNamed_render h]
  rfl

end Reader

end Flowchart
