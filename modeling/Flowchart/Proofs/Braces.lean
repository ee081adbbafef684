import Flowchart.Proofs.Escapes
import Flowchart.Proofs.Legible
import Flowchart.Proofs.Numerals

set_option autoImplicit false

/-! # Lines and braces of source texts

A source text is looked at in two ways: as lines, and by the braces that are open in it. Braces
count only outside string literals, so a reader that counts them has to follow where literals begin
and end. The text of an expression is composed of words, literals and characters without a meaning
for such a reader. So it stays in its line, and leaves open the braces that were open before it. -/

namespace Flowchart

/-! ## Lines -/

namespace Text

/-- The lines of a text, without the line breaks that end them. -/
def lines : List Char → List (List Char)
  | [] => []
  | c :: rest =>
    if c = '\n' then [] :: lines rest
    else match lines rest with
      | [] => [[c]]
      | line :: others => (c :: line) :: others

/-- The text of lines that all end with a line break. -/
def ofLines (ls : List (List Char)) : List Char := ls.flatMap (· ++ ['\n'])

@[simp]
theorem ofLines_nil : ofLines [] = [] := rfl

@[simp]
theorem ofLines_cons (line : List Char) (ls : List (List Char)) :
    ofLines (line :: ls) = line ++ '\n' :: ofLines ls := by
  simp [ofLines]

theorem lines_append_break {line : List Char} (h : '\n' ∉ line) (rest : List Char) :
    lines (line ++ '\n' :: rest) = line :: lines rest := by
  induction line with
  | nil => simp [lines]
  | cons c line ih =>
    obtain ⟨hc, hline⟩ := List.ne_and_not_mem_of_not_mem_cons h
    rw [List.cons_append, lines, if_neg hc.symm, ih hline]

/-- Lines without further line breaks are found again in their text. -/
theorem lines_ofLines {ls : List (List Char)} (h : ∀ line ∈ ls, '\n' ∉ line) :
    lines (ofLines ls) = ls := by
  induction ls with
  | nil => rfl
  | cons line ls ih =>
    obtain ⟨hline, hls⟩ := List.forall_mem_cons.1 h
    rw [ofLines_cons, lines_append_break hline, ih hls]

theorem getLast?_ofLines {ls : List (List Char)} (h : ls ≠ []) :
    (ofLines ls).getLast? = some '\n' := by
  obtain ⟨first, last, rfl⟩ := List.eq_nil_or_concat' ls |>.resolve_left h
  simp [ofLines]

end Text

namespace Java

/-! ## Braces -/

/-- The characters that end lines, and that begin and end blocks and string literals. -/
def marks : List Char := ['\n', '\x7b', '\x7d', '"']

/-- What the next character of a source text belongs to. -/
inductive Mode where
  | code
  | literal
  /-- A string literal, behind a backslash. -/
  | escape
deriving DecidableEq

/-- Where in a source text a reader is: how many braces are open, and what comes next. -/
structure Nesting where
  braces : Nat
  mode : Mode
deriving DecidableEq

namespace Nesting

/-- Outside string literals, with so many braces open. -/
abbrev code (braces : Nat) : Nesting := ⟨braces, .code⟩

/-- Reads a character; a closing brace needs an open one. -/
def next : Nesting → Char → Option Nesting
  | ⟨braces, .code⟩, c =>
    if c = '"' then some ⟨braces, .literal⟩
    else if c = '\x7b' then some ⟨braces + 1, .code⟩
    else if c = '\x7d' then if braces = 0 then none else some ⟨braces - 1, .code⟩
    else some ⟨braces, .code⟩
  | ⟨braces, .literal⟩, c =>
    if c = '"' then some ⟨braces, .code⟩
    else if c = '\\' then some ⟨braces, .escape⟩
    else some ⟨braces, .literal⟩
  | ⟨braces, .escape⟩, _ => some ⟨braces, .literal⟩

/-- Reads a text. -/
def after (s : Nesting) (text : List Char) : Option Nesting := text.foldlM next s

@[simp]
theorem after_nil (s : Nesting) : s.after [] = some s := rfl

@[simp]
theorem after_cons (s : Nesting) (c : Char) (text : List Char) :
    s.after (c :: text) = (s.next c).bind (·.after text) := rfl

@[simp]
theorem after_append (s : Nesting) (first second : List Char) :
    s.after (first ++ second) = (s.after first).bind (·.after second) :=
  List.foldlM_append

/-- Braces in a literal do not count, and an escaped quote does not end it. -/
example : (code 0).after "f(\"\x7d \\\" \x7d\") \x7b".toList = some (code 1) := by decide

theorem after_code {text : List Char} (h : ∀ c ∈ text, c ∉ marks) (n : Nat) :
    (code n).after text = some (code n) := by
  induction text with
  | nil => rfl
  | cons c text ih =>
    obtain ⟨hc, htext⟩ := List.forall_mem_cons.1 h
    simp only [marks, List.mem_cons, List.not_mem_nil, or_false, not_or] at hc
    obtain ⟨-, hopen, hclose, hquote⟩ := hc
    rw [after_cons, next, if_neg hquote, if_neg hopen, if_neg hclose, Option.bind_some, ih htext]

theorem after_literal {text : List Char} (h : ∀ c ∈ text, c ≠ '"' ∧ c ≠ '\\') (n : Nat) :
    (Nesting.mk n .literal).after text = some ⟨n, .literal⟩ := by
  induction text with
  | nil => rfl
  | cons c text ih =>
    obtain ⟨⟨hquote, hbackslash⟩, htext⟩ := List.forall_mem_cons.1 h
    rw [after_cons, next, if_neg hquote, if_neg hbackslash, Option.bind_some, ih htext]

end Nesting

/-! ## String literals -/

/-- A line terminator. -/
def IsBreak (c : Char) : Prop := c = '\n' ∨ c = '\r'

instance (c : Char) : Decidable (IsBreak c) := inferInstanceAs (Decidable (_ ∨ _))

theorem exists_of_mem_fourHexDigits {n : Nat} {c : Char} (h : c ∈ fourHexDigits n) :
    ∃ d < 16, c = Nat.digitChar d := by
  simp only [fourHexDigits, List.mem_cons, List.not_mem_nil, or_false] at h
  rcases h with rfl | rfl | rfl | rfl <;> exact ⟨_, Nat.mod_lt _ (by decide), rfl⟩

theorem digitChar_inert : ∀ d < 16, Nat.digitChar d ≠ '"' ∧ Nat.digitChar d ≠ '\\'
    ∧ ¬ IsBreak (Nat.digitChar d) := by decide

/-- An escaped character does not end the literal that it stands in. -/
theorem after_escape (c : Char) (n : Nat) :
    (Nesting.mk n .literal).after (escape c) = some ⟨n, .literal⟩ := by
  obtain ⟨letter, -, hescape, -⟩ | ⟨-, hescape⟩ | ⟨⟨hquote, -, -, hbackslash⟩, hescape⟩ :=
    escape_cases c
  · -- the letter behind the backslash is not looked at, even if it is a quote
    rw [hescape]
    rfl
  · have hdigits : ∀ d ∈ fourHexDigits c.toNat, d ≠ '"' ∧ d ≠ '\\' := by
      intro d hd
      obtain ⟨k, hk, rfl⟩ := exists_of_mem_fourHexDigits hd
      exact ⟨(digitChar_inert k hk).1, (digitChar_inert k hk).2.1⟩
    rw [hescape]
    exact Nesting.after_literal hdigits n
  · rw [hescape]
    exact Nesting.after_literal (List.forall_mem_singleton.2 ⟨hquote, hbackslash⟩) n

/-- A string literal is left where it ends, and the braces in it do not count. -/
theorem after_stringLiteral (s : String) (n : Nat) :
    (Nesting.code n).after (stringLiteral s).toList = some (.code n) := by
  have hbody : (Nesting.mk n .literal).after (s.toList.flatMap escape) = some ⟨n, .literal⟩ := by
    induction s.toList with
    | nil => rfl
    | cons c text ih =>
      rw [List.flatMap_cons, Nesting.after_append, after_escape, Option.bind_some, ih]
  rw [stringLiteral, String.toList_ofList, List.cons_append, Nesting.after_cons, Nesting.next,
    if_pos rfl, Option.bind_some, Nesting.after_append, hbody]
  rfl

theorem not_isBreak_of_mem_escape {c d : Char} (h : d ∈ escape c) : ¬ IsBreak d := by
  obtain ⟨letter, -, hescape, -, hvalue, -⟩ | ⟨-, hescape⟩ | ⟨⟨-, hline, hreturn, -⟩, hescape⟩ :=
    escape_cases c
  · -- no escape sequence is written with a line terminator
    rw [hescape, List.mem_cons, List.mem_singleton] at h
    rintro (rfl | rfl)
    · obtain hslash | rfl := h
      · cases hslash
      · cases hvalue
    · obtain hslash | rfl := h
      · cases hslash
      · cases hvalue
  · rw [hescape, List.mem_cons, List.mem_cons] at h
    obtain rfl | rfl | h := h
    · decide
    · decide
    · obtain ⟨k, hk, rfl⟩ := exists_of_mem_fourHexDigits h
      exact (digitChar_inert k hk).2.2
  · rw [hescape, List.mem_singleton] at h
    subst h
    exact not_or.2 ⟨hline, hreturn⟩

/-- A string literal contains no line terminator, whatever its text. -/
theorem not_isBreak_of_mem_stringLiteral {s : String} {c : Char}
    (h : c ∈ (stringLiteral s).toList) : ¬ IsBreak c := by
  rw [stringLiteral, String.toList_ofList, List.mem_append, List.mem_cons, List.mem_flatMap,
    List.mem_singleton] at h
  obtain (rfl | ⟨d, -, h⟩) | rfl := h
  · decide
  · exact not_isBreak_of_mem_escape h
  · decide

/-! ## Composed texts -/

/-- A word that cannot change where lines, blocks and literals end. -/
def IsPlain (word : String) : Prop := ∀ c ∈ word.toList, c ∉ marks

instance (word : String) : Decidable (IsPlain word) := List.decidableBAll _ word.toList

/-- A plain text without carriage returns. -/
def IsInert (text : String) : Prop := ∀ c ∈ text.toList, c ∉ '\r' :: marks

instance (text : String) : Decidable (IsInert text) := List.decidableBAll _ text.toList

/-- A text that is put together from words, string literals and inert texts. -/
inductive Composed (words : List String) : String → Prop
  | inert {text : String} (inert : IsInert text) : Composed words text
  | word {text : String} (mem : text ∈ words) : Composed words text
  | literal (s : String) : Composed words (stringLiteral s)
  | append {first second : String} (left : Composed words first)
      (right : Composed words second) : Composed words (first ++ second)

/-- Every line terminator of a text stands in one of the words. -/
def BreaksIn (words : List String) (text : String) : Prop :=
  ∀ c ∈ text.toList, IsBreak c → ∃ w ∈ words, c ∈ w.toList

variable {words : List String} {text first second : String}

theorem BreaksIn.append (hfirst : BreaksIn words first) (hsecond : BreaksIn words second) :
    BreaksIn words (first ++ second) := by
  intro c hc
  rw [String.toList_append, List.mem_append] at hc
  exact hc.elim (hfirst c) (hsecond c)

theorem BreaksIn.of_not_isBreak (h : ∀ c ∈ text.toList, ¬ IsBreak c) : BreaksIn words text :=
  fun c hc hbreak => absurd hbreak (h c hc)

theorem breaksIn_openingBrace : BreaksIn words "\x7b" :=
  .of_not_isBreak (List.forall_mem_singleton.2 (by decide))

theorem breaksIn_closingBrace : BreaksIn words "\x7d" :=
  .of_not_isBreak (List.forall_mem_singleton.2 (by decide))

namespace Composed

theorem breaksIn (h : Composed words text) : BreaksIn words text := by
  induction h with
  | inert inert =>
    refine .of_not_isBreak fun c hc hbreak => inert c hc ?_
    rcases hbreak with rfl | rfl <;> decide
  | word mem => exact fun c hc _ => ⟨_, mem, hc⟩
  | literal s => exact .of_not_isBreak fun c hc => not_isBreak_of_mem_stringLiteral hc
  | append left right ihleft ihright => exact ihleft.append ihright

/-- The text leaves open the braces that were open before it. -/
theorem after_code (h : Composed words text) (hplain : ∀ w ∈ words, IsPlain w) (n : Nat) :
    (Nesting.code n).after text.toList = some (.code n) := by
  induction h with
  | inert inert =>
    exact Nesting.after_code (fun c hc hmark => inert c hc (List.mem_cons_of_mem _ hmark)) n
  | word mem => exact Nesting.after_code (hplain _ mem) n
  | literal s => exact after_stringLiteral s n
  | append left right ihleft ihright =>
    rw [String.toList_append, Nesting.after_append, ihleft, Option.bind_some, ihright]

theorem followed (h : Composed words text) (hsecond : IsInert second) :
    Composed words (text ++ second) :=
  .append h (.inert hsecond)

theorem enclosed (hfirst : IsInert first) (h : Composed words text) (hsecond : IsInert second) :
    Composed words (first ++ text ++ second) :=
  followed (.append (.inert hfirst) h) hsecond

theorem intercalate {separator : String} {texts : List String}
    (hseparator : Composed words separator) (htexts : ∀ text ∈ texts, Composed words text) :
    Composed words (String.intercalate separator texts) := by
  match texts with
  | [] =>
    rw [String.intercalate_nil]
    exact .inert (by decide)
  | [text] => simpa using htexts
  | text :: next :: texts =>
    obtain ⟨htext, htexts⟩ := List.forall_mem_cons.1 htexts
    rw [String.intercalate_cons_cons]
    exact (htext.append hseparator).append (intercalate hseparator htexts)

theorem numberLiteral (d : Double) : Composed words (numberLiteral d) := by
  have hnumeral : ∀ c : Char, NumberFormat.isNumeral c = true → c ∉ '\r' :: marks := by
    intro c hc hmem
    simp only [marks, List.mem_cons, List.not_mem_nil, or_false] at hmem
    rcases hmem with rfl | rfl | rfl | rfl | rfl <;> revert hc <;> decide
  cases d with
  | nan => exact .inert (by decide)
  | infinite negative => cases negative <;> exact .inert (by decide)
  | finite negative a =>
    exact .inert fun c hc => hnumeral c (NumberFormat.isNumeral_finite rfl negative a c hc)

end Composed

end Java

/-! ## Words of expressions -/

namespace JavaExpr

open Java (Composed)

mutual

/-- The names, types, operators and functions in an expression. -/
def words : JavaExpr → List String
  | .number _ | .boolean _ | .text _ => []
  | .new type arguments => type.render :: wordsAll arguments
  | .name n => [n]
  | .invoke function arguments => function :: wordsAll arguments
  | .chain steps => wordsAll steps
  | .operation operator operands => operator :: wordsAll operands
  | .not operand | .length operand | .stringOf operand | .group operand => operand.words
  | .objectsEqual left right => left.words ++ right.words

/-- The words of several expressions. -/
def wordsAll : List JavaExpr → List String
  | [] => []
  | e :: rest => e.words ++ wordsAll rest

end

mutual

/-- An expression is written with its words, string literals and inert texts. -/
theorem composed_render {ws : List String} :
    (e : JavaExpr) → e.words ⊆ ws → Composed ws e.render
  | .number d, _ => .numberLiteral d
  | .boolean b, _ => by cases b <;> exact .inert (by decide)
  | .text s, _ => .literal s
  | .new type arguments, h => by
    obtain ⟨htype, harguments⟩ := List.cons_subset.1 h
    have hlist : Composed ws (String.intercalate ", " (renderAll arguments)) :=
      .intercalate (.inert (by decide)) (composed_renderAll arguments harguments)
    have htyped : Composed ws ("new " ++ type.render ++ "(") :=
      .enclosed (by decide) (.word htype) (by decide)
    exact (htyped.append hlist).followed (by decide)
  | .name n, h => .word (h (List.mem_singleton_self n))
  | .invoke function arguments, h => by
    obtain ⟨hfunction, harguments⟩ := List.cons_subset.1 h
    have hlist : Composed ws (String.intercalate ", " (renderAll arguments)) :=
      .intercalate (.inert (by decide)) (composed_renderAll arguments harguments)
    have hcalled : Composed ws (function ++ "(") := .followed (.word hfunction) (by decide)
    exact (hcalled.append hlist).followed (by decide)
  | .chain steps, h => .intercalate (.inert (by decide)) (composed_renderAll steps h)
  | .operation operator operands, h => by
    obtain ⟨hoperator, hoperands⟩ := List.cons_subset.1 h
    have hseparator : Composed ws (" " ++ operator ++ " ") :=
      .enclosed (by decide) (.word hoperator) (by decide)
    exact .enclosed (by decide) (.intercalate hseparator (composed_renderAll operands hoperands))
      (by decide)
  | .not operand, h => .enclosed (by decide) (composed_render operand h) (by decide)
  | .length operand, h => .enclosed (by decide) (composed_render operand h) (by decide)
  | .stringOf operand, h => .enclosed (by decide) (composed_render operand h) (by decide)
  | .objectsEqual left right, h => by
    obtain ⟨hleft, hright⟩ := List.append_subset.1 h
    have hfirst : Composed ws ("java.util.Objects.equals(" ++ left.render ++ ", ") :=
      .enclosed (by decide) (composed_render left hleft) (by decide)
    exact (hfirst.append (composed_render right hright)).followed (by decide)
  | .group operand, h => .enclosed (by decide) (composed_render operand h) (by decide)

theorem composed_renderAll {ws : List String} :
    (es : List JavaExpr) → wordsAll es ⊆ ws → ∀ text ∈ renderAll es, Composed ws text
  | [], _ => List.forall_mem_nil _
  | e :: rest, h => by
    obtain ⟨he, hrest⟩ := List.append_subset.1 h
    exact List.forall_mem_cons.2 ⟨composed_render e he, composed_renderAll rest hrest⟩

end

end JavaExpr

end Flowchart
