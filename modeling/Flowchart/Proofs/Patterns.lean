import Flowchart.Script.Expansion
import Mathlib.Data.List.Forall2
import Mathlib.Data.List.TakeWhile

set_option autoImplicit false

/-! # What patterns match

A text matches a pattern if it can be cut into pieces, one for each item of the pattern, such that
every item stands for its piece. Quoted characters are items that stand only for themselves. Where a
pattern trims a text, the piece that goes is the shortest or the longest one that matches. -/

namespace Flowchart

namespace Glob

/-! ## Matching -/

/-- The texts that an item stands for. -/
def Item.StandsFor : Item → List Char → Prop
  | .exactly c, piece => piece = [c]
  | .any, piece => ∃ c, piece = [c]
  | .oneOf inside sets, piece => ∃ c, piece = [c] ∧ sets.any (·.contains c) = inside
  | .many, _ => True

/-- A text matches a pattern. -/
def Matches (pattern : List Item) (cs : List Char) : Prop :=
  ∃ pieces : List (List Char), pieces.flatten = cs ∧ List.Forall₂ Item.StandsFor pattern pieces

variable {item : Item} {pattern rest : List Item} {cs : List Char}

theorem matches_nil_iff : Matches [] cs ↔ cs = [] := by
  simp [Matches, eq_comm]

theorem matches_cons_iff : Matches (item :: rest) cs ↔
    ∃ front back, cs = front ++ back ∧ item.StandsFor front ∧ Matches rest back := by
  constructor
  · rintro ⟨pieces, rfl, hall⟩
    obtain ⟨front, pieces, hfront, hrest, rfl⟩ := List.forall₂_cons_left_iff.1 hall
    exact ⟨front, pieces.flatten, rfl, hfront, pieces, rfl, hrest⟩
  · rintro ⟨front, back, rfl, hfront, pieces, rfl, hrest⟩
    exact ⟨front :: pieces, rfl, .cons hfront hrest⟩

/-- An item stands for single characters with a property. -/
def Item.IsSingle (item : Item) (p : Char → Prop) : Prop :=
  ∀ piece, item.StandsFor piece ↔ ∃ c, piece = [c] ∧ p c

section

variable {p : Char → Prop} (hitem : item.IsSingle p)

include hitem

theorem matches_cons_cons_iff {c : Char} :
    Matches (item :: rest) (c :: cs) ↔ p c ∧ Matches rest cs := by
  rw [matches_cons_iff]
  constructor
  · rintro ⟨front, back, heq, hfront, hback⟩
    obtain ⟨d, rfl, hd⟩ := (hitem front).1 hfront
    obtain ⟨rfl, rfl⟩ := List.cons.inj heq
    exact ⟨hd, hback⟩
  · rintro ⟨hc, hrest⟩
    exact ⟨[c], cs, rfl, (hitem [c]).2 ⟨c, rfl, hc⟩, hrest⟩

theorem not_matches_nil : ¬ Matches (item :: rest) [] := by
  rw [matches_cons_iff]
  rintro ⟨front, back, heq, hfront, -⟩
  obtain ⟨d, rfl, -⟩ := (hitem front).1 hfront
  cases heq

/-- An item for single characters takes the first one of a text. -/
theorem isMatch_single_iff (test : Char → Bool) (htest : ∀ c, test c = true ↔ p c)
    (hnil : isMatch (item :: rest) [] = false)
    (hcons : ∀ c cs, isMatch (item :: rest) (c :: cs) = (test c && isMatch rest cs))
    (hrest : ∀ cs, isMatch rest cs = true ↔ Matches rest cs) :
    isMatch (item :: rest) cs = true ↔ Matches (item :: rest) cs := by
  cases cs with
  | nil => simp [hnil, not_matches_nil hitem]
  | cons c cs => rw [hcons, Bool.and_eq_true, htest, hrest, matches_cons_cons_iff hitem]

end

theorem Item.isSingle_exactly (c : Char) : (Item.exactly c).IsSingle (c = ·) := by
  simp [IsSingle, StandsFor]

theorem Item.isSingle_any : Item.any.IsSingle fun _ => True := by
  simp [IsSingle, StandsFor]

theorem Item.isSingle_oneOf (inside : Bool) (sets : List CharSet) :
    (Item.oneOf inside sets).IsSingle fun c => sets.any (·.contains c) = inside :=
  fun _ => Iff.rfl

theorem isMatch_iff : isMatch pattern cs = true ↔ Matches pattern cs := by
  induction pattern generalizing cs with
  | nil => simp [isMatch, matches_nil_iff]
  | cons item rest ih =>
    have hrest : ∀ cs, isMatch rest cs = true ↔ Matches rest cs := fun _ => ih
    cases item with
    | exactly c =>
      exact isMatch_single_iff (Item.isSingle_exactly c) (c == ·) (by simp) rfl (fun _ _ => rfl)
        hrest
    | any =>
      exact isMatch_single_iff Item.isSingle_any (fun _ => true) (by simp) rfl (fun _ _ => rfl)
        hrest
    | oneOf inside sets =>
      exact isMatch_single_iff (Item.isSingle_oneOf inside sets)
        (fun c => sets.any (·.contains c) == inside) (by simp) rfl (fun _ _ => rfl) hrest
    | many =>
      -- Any piece will do, so every way to cut the text is tried.
      rw [isMatch, matches_cons_iff, List.any_eq_true]
      constructor
      · rintro ⟨n, -, hmatch⟩
        exact ⟨cs.take n, cs.drop n, (List.take_append_drop n cs).symm, trivial, ih.1 hmatch⟩
      · rintro ⟨front, back, rfl, -, hback⟩
        refine ⟨front.length, List.mem_range.2 (by rw [List.length_append]; omega), ?_⟩
        rw [List.drop_left]
        exact ih.2 hback

/-! ## Quoting -/

/-- Nothing in a text that is quoted has a meaning of its own. -/
theorem read_quoted (cs : List Char) : read (cs.map (·, true)) = cs.map Item.exactly := by
  unfold read
  induction cs with
  | nil => rfl
  | cons c rest ih => simpa [readWithin] using ih

theorem matches_exactly_iff {ds : List Char} : Matches (ds.map Item.exactly) cs ↔ cs = ds := by
  induction ds generalizing cs with
  | nil => exact matches_nil_iff
  | cons d ds ih =>
    rw [List.map_cons]
    cases cs with
    | nil => simp [not_matches_nil (Item.isSingle_exactly d)]
    | cons c cs =>
      rw [matches_cons_cons_iff (Item.isSingle_exactly d), ih, List.cons_eq_cons, eq_comm]

/-- A quoted text matches itself only. -/
theorem isMatch_quoted_iff {ds : List Char} :
    isMatch (read (ds.map (·, true))) cs = true ↔ cs = ds := by
  rw [read_quoted, isMatch_iff, matches_exactly_iff]

end Glob

/-! ## Trimming -/

namespace Expansion

open Glob (Matches isMatch_iff)

variable {pattern : List Glob.Item} {longest : Bool} {cs : List Char}

/-- A piece that goes is no longer than another one, or no shorter, as is wanted. -/
def IsPreferred (longest : Bool) (piece other : List Char) : Prop :=
  if longest then other.length ≤ piece.length else piece.length ≤ other.length

/-- The longest piece at the end begins first. -/
theorem isPreferred_drop {n : Nat} {other : List Char} (hle : n ≤ cs.length)
    (hother : other.length ≤ cs.length)
    (h : if !longest then cs.length - other.length ≤ n else n ≤ cs.length - other.length) :
    IsPreferred longest (cs.drop n) other := by
  rw [IsPreferred, List.length_drop]
  cases longest with
  | true =>
    simp only [Bool.not_true, Bool.false_eq_true, if_false] at h
    simp only [if_true]
    omega
  | false =>
    simp only [Bool.not_false, if_true] at h
    simp only [Bool.false_eq_true, if_false]
    omega

/-- What is found first comes before everything else that could have been found. -/
theorem find?_of_pairwise {α : Type} {R : α → α → Prop} {l : List α} {p : α → Bool} {a : α}
    (hl : l.Pairwise R) (h : l.find? p = some a) :
    a ∈ l ∧ p a = true ∧ ∀ b ∈ l, p b = true → b = a ∨ R a b := by
  obtain ⟨ha, front, back, rfl, hfront⟩ := List.find?_eq_some_iff_append.1 h
  refine ⟨by simp, ha, fun b hb hpb => ?_⟩
  rcases List.mem_append.1 hb with hb | hb
  · have hnot := hfront b hb
    simp [hpb] at hnot
  · rcases List.mem_cons.1 hb with rfl | hb
    · exact Or.inl rfl
    · exact Or.inr (List.rel_of_pairwise_cons (List.pairwise_append.1 hl).2.1 hb)

/-- Lengths are tried from the shortest or from the longest on. -/
theorem find?_lengths {n k : Nat} {p : Nat → Bool} (downwards : Bool)
    (h : (if downwards then (List.range (n + 1)).reverse
      else List.range (n + 1)).find? p = some k) :
    k ≤ n ∧ p k = true ∧ ∀ j ≤ n, p j = true → if downwards then j ≤ k else k ≤ j := by
  cases downwards with
  | true =>
    have hordered := List.pairwise_reverse.2 (List.pairwise_lt_range (n := n + 1))
    obtain ⟨hk, hpk, hfirst⟩ := find?_of_pairwise hordered h
    refine ⟨by simpa [Nat.lt_succ_iff] using hk, hpk, fun j hj hpj => ?_⟩
    have hbefore := hfirst j (by simpa [Nat.lt_succ_iff] using hj) hpj
    simp only [if_true]
    omega
  | false =>
    obtain ⟨hk, hpk, hfirst⟩ := find?_of_pairwise (List.pairwise_lt_range (n := n + 1)) h
    refine ⟨by simpa [Nat.lt_succ_iff] using hk, hpk, fun j hj hpj => ?_⟩
    have hbefore := hfirst j (by simpa [Nat.lt_succ_iff] using hj) hpj
    simp only [Bool.false_eq_true, if_false]
    omega

/-- If nothing is found, all lengths have been tried. -/
theorem find?_lengths_eq_none {n : Nat} {p : Nat → Bool} {downwards : Bool}
    (h : (if downwards then (List.range (n + 1)).reverse
      else List.range (n + 1)).find? p = none) {k : Nat} (hk : k ≤ n) : ¬ p k = true := by
  have hmem : k ∈ List.range (n + 1) := List.mem_range.2 (Nat.lt_succ_of_le hk)
  cases downwards with
  | true => exact List.find?_eq_none.1 h k (List.mem_reverse.2 hmem)
  | false => exact List.find?_eq_none.1 h k hmem

/-- A pattern sees the whole of a piece of a single value. -/
theorem isMatch_takeWhile_iff {piece : List Char} (h : between ∉ piece) :
    Glob.isMatch pattern (piece.takeWhile (· ≠ between)) = true ↔ Matches pattern piece := by
  have hwhole : piece.takeWhile (· ≠ between) = piece := by
    rw [List.takeWhile_eq_self_iff]
    intro c hc
    simpa using ne_of_mem_of_not_mem hc h
  rw [hwhole, isMatch_iff]

/-- Trimming a value at its start takes the preferred piece that matches away, if there is one. -/
theorem cutStart_spec (hcs : between ∉ cs) :
    (∃ piece, cs = piece ++ cutStart pattern longest cs ∧ Matches pattern piece
        ∧ ∀ other, other <+: cs → Matches pattern other → IsPreferred longest piece other)
      ∨ cutStart pattern longest cs = cs ∧ ∀ other, other <+: cs → ¬ Matches pattern other := by
  have hsees : ∀ n, Glob.isMatch pattern ((cs.take n).takeWhile (· ≠ between)) = true
      ↔ Matches pattern (cs.take n) :=
    fun n => isMatch_takeWhile_iff fun hin => hcs (List.mem_of_mem_take hin)
  have hother : ∀ other, other <+: cs → Matches pattern other → other.length ≤ cs.length
      ∧ Glob.isMatch pattern ((cs.take other.length).takeWhile (· ≠ between)) = true := by
    intro other hstart hmatches
    refine ⟨hstart.length_le, (hsees _).2 ?_⟩
    rwa [← List.prefix_iff_eq_take.1 hstart]
  unfold cutStart
  dsimp only
  split
  · next n hfind =>
    obtain ⟨hle, hmatch, hfirst⟩ := find?_lengths longest hfind
    refine Or.inl ⟨cs.take n, (List.take_append_drop n cs).symm, (hsees n).1 hmatch, ?_⟩
    intro other hstart hmatches
    obtain ⟨hlength, hfound⟩ := hother other hstart hmatches
    rw [IsPreferred, List.length_take_of_le hle]
    exact hfirst _ hlength hfound
  · next hfind =>
    refine Or.inr ⟨rfl, fun other hstart hmatches => ?_⟩
    obtain ⟨hlength, hfound⟩ := hother other hstart hmatches
    exact find?_lengths_eq_none hfind hlength hfound

/-- Trimming a value at its end takes the preferred piece that matches away, if there is one. -/
theorem cutEnd_spec (hcs : between ∉ cs) :
    (∃ piece, cs = cutEnd pattern longest cs ++ piece ∧ Matches pattern piece
        ∧ ∀ other, other <:+ cs → Matches pattern other → IsPreferred longest piece other)
      ∨ cutEnd pattern longest cs = cs ∧ ∀ other, other <:+ cs → ¬ Matches pattern other := by
  have hsees : ∀ n, Glob.isMatch pattern ((cs.drop n).takeWhile (· ≠ between)) = true
      ↔ Matches pattern (cs.drop n) :=
    fun n => isMatch_takeWhile_iff fun hin => hcs (List.mem_of_mem_drop hin)
  have hother : ∀ other, other <:+ cs → Matches pattern other → Glob.isMatch pattern
      ((cs.drop (cs.length - other.length)).takeWhile (· ≠ between)) = true := by
    intro other hsuffix hmatches
    rw [hsees, ← List.suffix_iff_eq_drop.1 hsuffix]
    exact hmatches
  -- From the end, lengths count what stays.
  have horder : ∀ lengths : List Nat, (if longest then lengths else lengths.reverse)
      = if !longest then lengths.reverse else lengths := by
    intro lengths
    cases longest <;> rfl
  unfold cutEnd
  dsimp only
  rw [horder]
  split
  · next n hfind =>
    obtain ⟨hle, hmatch, hfirst⟩ := find?_lengths (!longest) hfind
    refine Or.inl ⟨cs.drop n, (List.take_append_drop n cs).symm, (hsees n).1 hmatch, ?_⟩
    intro other hsuffix hmatches
    exact isPreferred_drop hle hsuffix.length_le
      (hfirst _ (Nat.sub_le _ _) (hother other hsuffix hmatches))
  · next hfind =>
    refine Or.inr ⟨rfl, fun other hsuffix hmatches => ?_⟩
    exact find?_lengths_eq_none hfind (Nat.sub_le _ _) (hother other hsuffix hmatches)

end Expansion

end Flowchart
