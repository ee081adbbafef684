import Flowchart.Proofs.Names
import Flowchart.Text.Category

set_option autoImplicit false

/-! # Identifiers of Java

Java says by general category which characters make an identifier. The names that are accepted here
are said by the property `Alphabetic` and the categories of numbers, which is more: also marks and
circled letters are alphabetic, and not every number is a digit. An accepted name is an identifier
of Java exactly if it has no such character where Java does not allow it. -/

namespace Flowchart

/-! ## Ranges and categories -/

namespace Text

/-- Takes the code points up to the end of an entry out of ascending ranges. All of them have to lie
    in the entry, and the entry has to be allowed. -/
def takeOut (first last : Nat) (allowed : Bool) : List (Nat × Nat) → Option (List (Nat × Nat))
  | [] => some []
  | (a, b) :: rest =>
    if last < a then some ((a, b) :: rest)
    else if first ≤ a && allowed then
      if b ≤ last then takeOut first last allowed rest else some ((last + 1, b) :: rest)
    else none

/-- Whether all code points of ascending ranges have one of the allowed categories. -/
def covers (allowed : List Category) :
    List (Nat × Nat × Category) → List (Nat × Nat) → Bool
  | [], ranges => ranges.isEmpty
  | (first, last, category) :: entries, ranges =>
    match takeOut first last (allowed.contains category) ranges with
    | some rest => covers allowed entries rest
    | none => false

/-- What is taken out lies in the entry, and the rest lies behind it. -/
theorem inRanges_takeOut {first last n : Nat} {allowed : Bool} {ranges rest : List (Nat × Nat)}
    (h : takeOut first last allowed ranges = some rest) (hn : inRanges n ranges = true) :
    (first ≤ n ∧ n ≤ last ∧ allowed = true) ∨ (last < n ∧ inRanges n rest = true) := by
  induction ranges with
  | nil => cases hn
  | cons range ranges ih =>
    obtain ⟨a, b⟩ := range
    have hrange : a ≤ n ∧ (n ≤ b ∨ inRanges n ranges = true) := by
      simpa [inRanges] using hn
    rw [takeOut] at h
    split_ifs at h with hbehind hinside hwhole
    · cases h
      exact .inr ⟨by omega, hn⟩
    · obtain ⟨hfirst, hallowed⟩ := by simpa using hinside
      rcases hrange.2 with hb | hlater
      · exact .inl ⟨by omega, by omega, hallowed⟩
      · exact ih h hlater
    · obtain ⟨hfirst, hallowed⟩ := by simpa using hinside
      cases h
      by_cases hlast : n ≤ last
      · exact .inl ⟨by omega, hlast, hallowed⟩
      · refine .inr ⟨by omega, ?_⟩
        simpa [inRanges, show ¬ n < last + 1 by omega] using hrange.2

theorem categoryIn_of_covers {allowed : List Category} {entries : List (Nat × Nat × Category)}
    {ranges : List (Nat × Nat)} {n : Nat} (h : covers allowed entries ranges = true)
    (hn : inRanges n ranges = true) : categoryIn n entries ∈ allowed := by
  induction entries generalizing ranges with
  | nil =>
    rw [covers, List.isEmpty_iff] at h
    rw [h] at hn
    cases hn
  | cons entry entries ih =>
    obtain ⟨first, last, category⟩ := entry
    rw [covers] at h
    split at h
    · next rest htake =>
      rw [categoryIn]
      rcases inRanges_takeOut htake hn with ⟨hfirst, hlast, hallowed⟩ | ⟨hlast, hrest⟩
      · rw [if_neg (by omega), if_pos hfirst]
        simpa using hallowed
      · rw [if_pos hlast]
        exact ih h hrest
    · cases h

/-- Alphabetic are letters, numbers that are letters, and some marks and symbols. -/
theorem category_of_isAlphabetic {c : Char} (h : isAlphabetic c = true) :
    category c ∈ [.L, .Nl, .Mn, .Mc, .So] := by
  have hcovers : covers [.L, .Nl, .Mn, .Mc, .So] categoryRanges alphabeticRanges = true := by
    decide +kernel
  exact categoryIn_of_covers hcovers h

theorem category_of_isAlphanumeric {c : Char} (h : isAlphanumeric c = true) :
    category c ∈ [.L, .Nl, .Mn, .Mc, .So, .Nd, .No] := by
  have hcovers : covers [.Nl, .Nd, .No] categoryRanges numeralRanges = true := by
    decide +kernel
  rw [isAlphanumeric, Bool.or_eq_true] at h
  rcases h with hletter | hnumeral
  · exact List.mem_append_left [.Nd, .No] (category_of_isAlphabetic hletter)
  · have hsubset : [Category.Nl, .Nd, .No] ⊆ [.L, .Nl, .Mn, .Mc, .So, .Nd, .No] := by decide
    exact hsubset (categoryIn_of_covers hcovers hnumeral)

/-- Control characters have no category of the table. -/
theorem categoryIn_of_control {n : Nat} (h : n ≤ 0x1F ∨ 0x7F ≤ n ∧ n ≤ 0x9F) :
    categoryIn n categoryRanges = .other := by
  have hall : ∀ n < 0xA0, n ≤ 0x1F ∨ 0x7F ≤ n ∧ n ≤ 0x9F →
      categoryIn n categoryRanges = .other := by
    decide +kernel
  exact hall n (by omega) h

end Text

/-! ## The rules of Java -/

namespace Java

open Text (category)

/-- The keywords of the language, and the words that are literals. -/
def reservedWords : List String :=
  ["abstract", "assert", "boolean", "break", "byte", "case", "catch", "char", "class", "const",
    "continue", "default", "do", "double", "else", "enum", "extends", "final", "finally", "float",
    "for", "goto", "if", "implements", "import", "instanceof", "int", "interface", "long", "native",
    "new", "package", "private", "protected", "public", "return", "short", "static", "strictfp",
    "super", "switch", "synchronized", "this", "throw", "throws", "transient", "try", "void",
    "volatile", "while", "_", "true", "false", "null"]

/-- A letter, a letter number, a currency symbol or a connector. -/
def CanStart (c : Char) : Prop := category c ∈ [.L, .Nl, .Sc, .Pc]

/-- A control character that is no blank, or a format character. -/
def Ignorable (c : Char) : Prop :=
  c.toNat ≤ 8 ∨ (0xE ≤ c.toNat ∧ c.toNat ≤ 0x1B) ∨ (0x7F ≤ c.toNat ∧ c.toNat ≤ 0x9F)
    ∨ category c = .Cf

/-- A character of the start, a digit, a mark, or one that is ignored. -/
def CanFollow (c : Char) : Prop := CanStart c ∨ category c ∈ [.Nd, .Mc, .Mn] ∨ Ignorable c

/-- What the language takes for an identifier. -/
structure IsLegal (name : String) : Prop where
  start : ∃ c ∈ name.toList.head?, CanStart c
  follow : ∀ c ∈ name.toList.tail, CanFollow c
  not_reserved : name ∉ reservedWords

/-! ## Accepted names -/

section

variable {c : Char}

theorem category_of_isStart (h : isStart c = true) :
    category c ∈ [.L, .Nl, .Mn, .Mc, .So, .Pc, .Sc] := by
  simp only [isStart, Bool.or_eq_true, beq_iff_eq] at h
  rcases h with (hletter | rfl) | rfl
  · exact List.mem_append_left [.Pc, .Sc] (Text.category_of_isAlphabetic hletter)
  · decide +kernel
  · decide +kernel

theorem category_of_isPart (h : isPart c = true) :
    category c ∈ [.L, .Nl, .Mn, .Mc, .So, .Nd, .No, .Pc, .Sc] := by
  simp only [isPart, Bool.or_eq_true, beq_iff_eq] at h
  rcases h with (hletter | rfl) | rfl
  · exact List.mem_append_left [.Pc, .Sc] (Text.category_of_isAlphanumeric hletter)
  · decide +kernel
  · decide +kernel

theorem canStart_iff (h : isStart c = true) : CanStart c ↔ category c ∉ [.Mn, .Mc, .So] := by
  have hcategory := category_of_isStart h
  rw [CanStart]
  revert hcategory
  generalize category c = found
  revert found
  decide

theorem not_ignorable (h : category c ∈ [.No, .So]) : ¬ Ignorable c := by
  have hother : category c ≠ .other := by
    rintro heq
    simp [heq] at h
  rintro (hlow | hmiddle | hhigh | hformat)
  · exact hother (Text.categoryIn_of_control (.inl (by omega)))
  · exact hother (Text.categoryIn_of_control (.inl (by omega)))
  · exact hother (Text.categoryIn_of_control (.inr hhigh))
  · simp [hformat] at h

theorem canFollow_iff (h : isPart c = true) : CanFollow c ↔ category c ∉ [.No, .So] := by
  have hcategory := category_of_isPart h
  constructor
  · rintro (hstart | hfollow | hignorable) hmem
    · have hdisjoint : ∀ k ∈ [Text.Category.L, .Nl, .Sc, .Pc], k ∉ [.No, .So] := by decide
      exact hdisjoint _ hstart hmem
    · have hdisjoint : ∀ k ∈ [Text.Category.Nd, .Mc, .Mn], k ∉ [.No, .So] := by decide
      exact hdisjoint _ hfollow hmem
    · exact not_ignorable hmem hignorable
  · intro hmem
    have hleft : category c ∈ [.L, .Nl, .Sc, .Pc] ∨ category c ∈ [.Nd, .Mc, .Mn] := by
      revert hcategory hmem
      generalize category c = found
      revert found
      decide
    exact hleft.imp_right .inl

end

theorem not_mem_reservedWords {name : String} (h : isIdentifier name = true) :
    name ∉ reservedWords := by
  have hwords : reservedWords ⊆ "_" :: keywords := by decide
  intro hmem
  rcases List.mem_cons.1 (hwords hmem) with rfl | hkeyword
  · revert h
    decide +kernel
  · exact not_mem_keywords h hkeyword

/-- A name that is accepted is an identifier of the language exactly if it does not start with a mark
    or a symbol, and has no number that is neither digit nor letter, and no symbol, behind that. -/
theorem isLegal_iff {name : String} (h : isIdentifier name = true) :
    IsLegal name
      ↔ (∀ c ∈ name.toList.head?, category c ∉ [.Mn, .Mc, .So])
        ∧ ∀ c ∈ name.toList.tail, category c ∉ [.No, .So] := by
  obtain ⟨c, cs, htext, hstart⟩ := isStart_head h
  have hfollow : ∀ d ∈ cs, CanFollow d ↔ category d ∉ [.No, .So] := fun d hd =>
    canFollow_iff (isPart_of_mem h (htext ▸ List.mem_cons_of_mem c hd))
  constructor
  · rintro ⟨⟨d, hd, hfirst⟩, hothers, -⟩
    simp only [htext, List.head?_cons, Option.mem_some_iff, List.tail_cons] at hd hothers ⊢
    subst hd
    refine ⟨fun d hd => hd ▸ (canStart_iff hstart).1 hfirst, fun d hd => ?_⟩
    exact (hfollow d hd).1 (hothers d hd)
  · simp only [htext, List.head?_cons, Option.mem_some_iff, List.tail_cons]
    rintro ⟨hfirst, hothers⟩
    refine ⟨⟨c, by simp [htext], (canStart_iff hstart).2 (hfirst c rfl)⟩, ?_,
      not_mem_reservedWords h⟩
    rw [htext]
    exact fun d hd => (hfollow d hd).2 (hothers d hd)

/-- All characters of this name are letters. -/
theorem letters_isLegal : isIdentifier "Größe" = true ∧ IsLegal "Größe" := by
  have haccepted : isIdentifier "Größe" = true := by decide +kernel
  have hall : ("Größe".toList.all fun c => category c = .L) = true := by decide +kernel
  have hletter : ∀ c ∈ "Größe".toList, category c = .L := by simpa using hall
  refine ⟨haccepted, (isLegal_iff haccepted).2 ⟨fun c hc => ?_, fun c hc => ?_⟩⟩
  · rw [hletter c (List.mem_of_mem_head? hc)]
    decide
  · rw [hletter c (List.mem_of_mem_tail hc)]
    decide

/-- The superscript is a number, but neither a digit nor a letter. -/
theorem squared_not_isLegal : isIdentifier "x²" = true ∧ ¬ IsLegal "x²" := by
  refine ⟨by decide +kernel, fun hlegal => ?_⟩
  have hpart : isPart '²' = true := by decide +kernel
  have hnumber : category '²' = .No := by decide +kernel
  have hfollow := (canFollow_iff hpart).1 (hlegal.follow '²' (by decide))
  simp [hnumber] at hfollow

end Java

end Flowchart
