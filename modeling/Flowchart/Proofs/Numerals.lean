import Flowchart.Number.Format
import Flowchart.Proofs.Rounding
import Mathlib.Data.List.TakeWhile

set_option autoImplicit false

/-! # Numerals

Every finite double is read back from its text. The digits of the text are found by reading
candidates back, and the exact expansion that is left if there are none reads back as well; the
text only moves their point, which does not change what is read. -/

namespace Flowchart

/-- The first characters of one sort, if those of another follow. -/
theorem span_append {p : Char → Bool} (first rest : List Char) (hfirst : ∀ c ∈ first, p c = true)
    (hrest : ∀ c ∈ rest.head?, p c = false) :
    (first ++ rest).takeWhile p = first ∧ (first ++ rest).dropWhile p = rest := by
  rw [List.takeWhile_append_of_pos hfirst, List.dropWhile_append_of_pos hfirst]
  cases rest with
  | nil => simp
  | cons c rest => simp [hrest c rfl]

namespace Decimal

/-! ## The value of a decimal -/

theorem digitCount_le_iff {n k : Nat} (hk : 0 < k) : digitCount n ≤ k ↔ n < 10 ^ k :=
  Nat.length_toDigits_le_iff (by decide) hk

theorem lt_digitCount_iff {n k : Nat} (hk : 0 < k) : k < digitCount n ↔ 10 ^ k ≤ n := by
  rw [← Nat.not_le, digitCount_le_iff hk, Nat.not_lt]

theorem toDigits_mul_pow {n : Nat} (hn : n ≠ 0) (k : Nat) :
    Nat.toDigits 10 (n * 10 ^ k) = Nat.toDigits 10 n ++ List.replicate k '0' := by
  induction k with
  | zero => simp
  | succ k ih =>
    have hten : n * 10 ^ (k + 1) = n * 10 ^ k * 10 := by ring
    have hpos : 0 < n * 10 ^ k := Nat.mul_pos (Nat.pos_of_ne_zero hn) (Nat.pow_pos (by decide))
    rw [hten, Nat.toDigits_of_base_le (by decide) (by omega), Nat.mul_div_cancel _ (by decide),
      Nat.mul_mod_left, ih, List.replicate_succ', List.append_assoc]
    rfl

theorem digitCount_mul_pow {n : Nat} (hn : n ≠ 0) (k : Nat) :
    digitCount (n * 10 ^ k) = digitCount n + k := by
  simp [digitCount, toDigits_mul_pow hn]

/-- Where no power of ten is too large to be formed, the nearest double is that of a fraction. -/
theorem toDouble_eq {d : Decimal} (hd : d.coefficient ≠ 0)
    (horder : -330 ≤ digitCount d.coefficient + d.exponent)
    (horder' : digitCount d.coefficient + d.exponent ≤ 330) :
    d.toDouble = Double.nearest d.negative (d.coefficient * 10 ^ d.exponent.toNat)
      (10 ^ (-d.exponent).toNat) := by
  rw [toDouble, if_neg (by simp [hd]; omega), if_neg (by omega)]
  split
  · next hexponent =>
    have hzero : (-d.exponent).toNat = 0 := by omega
    rw [hzero]
    rfl
  · next hexponent =>
    have hzero : d.exponent.toNat = 0 := by omega
    rw [hzero, Nat.pow_zero, Nat.mul_one]
    rfl

/-- Moving the point changes neither the value nor what is read. -/
theorem toDouble_shift (negative : Bool) (c k : Nat) (e : Int) :
    toDouble ⟨negative, c * 10 ^ k, e - k⟩ = toDouble ⟨negative, c, e⟩ := by
  by_cases hc : c = 0
  · simp [hc, toDouble]
  · have hpos : 0 < 10 ^ k := Nat.pow_pos (by decide)
    have hc' : c * 10 ^ k ≠ 0 := Nat.mul_ne_zero hc hpos.ne'
    have horder : (digitCount (c * 10 ^ k) : Int) + (e - k) = digitCount c + e := by
      rw [digitCount_mul_pow hc]
      omega
    by_cases hlow : (digitCount c : Int) + e < -330
    · simp [toDouble, horder, hlow]
    · by_cases hhigh : 330 < (digitCount c : Int) + e
      · simp [toDouble, horder, hlow, hhigh, hc]
      · rw [toDouble_eq (d := ⟨negative, c * 10 ^ k, e - k⟩) hc' (by simp only; omega)
            (by simp only; omega),
          toDouble_eq (d := ⟨negative, c, e⟩) hc (by simp only; omega) (by simp only; omega)]
        refine Double.nearest_congr negative (Nat.pow_pos (by decide)) (Nat.pow_pos (by decide)) ?_
        have hsum : k + (e - k).toNat + (-e).toNat = e.toNat + (-(e - k)).toNat := by omega
        calc c * 10 ^ k * 10 ^ (e - k).toNat * 10 ^ (-e).toNat
            = c * 10 ^ (k + (e - k).toNat + (-e).toNat) := by ring
          _ = c * 10 ^ e.toNat * 10 ^ (-(e - k)).toNat := by rw [hsum]; ring

/-- The sign is carried over. -/
theorem toDouble_sign {c : Nat} {e : Int} {a : Magnitude}
    (h : toDouble ⟨false, c, e⟩ = .finite false a) (negative : Bool) :
    toDouble ⟨negative, c, e⟩ = .finite negative a := by
  have hnearest : ∀ {n d}, Double.nearest false n d = .finite false a →
      Double.nearest negative n d = .finite negative a := by
    intro n d h
    unfold Double.nearest at h ⊢
    split at h
    · next hlt => simpa [hlt] using h
    · cases h
  simp only [toDouble] at h ⊢
  split at h
  · next hzero =>
    cases h
    rw [if_pos hzero]
  · next hzero =>
    rw [if_neg hzero]
    split at h
    · cases h
    · next hfinite =>
      rw [if_neg hfinite]
      split at h
      · next hexponent =>
        rw [if_pos hexponent]
        exact hnearest h
      · next hexponent =>
        rw [if_neg hexponent]
        exact hnearest h

end Decimal

namespace Magnitude

/-! ## The exact expansion -/

theorem exponent_bounds (a : Magnitude) : -1074 ≤ a.exponent ∧ a.exponent ≤ 971 := by
  unfold exponent
  split
  · omega
  · next hlarge =>
    have hone : 1 ≤ a.val / binade := (Nat.one_le_div_iff (by decide)).2 (by omega)
    have hcount : a.val / binade < 2047 := Nat.div_lt_of_lt_mul (by
      rw [Nat.mul_comm]
      exact a.isLt)
    omega

/-- The digits of the largest whole numbers. -/
theorem digitCount_mul_two_pow {c n : Nat} (hc : c < 2 ^ 53) (hn : n ≤ 971) :
    Decimal.digitCount (c * 2 ^ n) ≤ 330 := by
  refine (Decimal.digitCount_le_iff (by decide)).2 ?_
  calc c * 2 ^ n < 2 ^ 53 * 2 ^ 971 :=
        Nat.mul_lt_mul_of_lt_of_le hc (Nat.pow_le_pow_right Nat.two_pos hn) (Nat.two_pow_pos 971)
    _ ≤ 10 ^ 330 := by decide +kernel

/-- The digits of an exact expansion are about as many as those behind its point. -/
theorem digitCount_mul_five_pow {c k : Nat} (hpos : 0 < c) (hc : c < 2 ^ 53) (hk : k ≤ 1074) :
    k ≤ Decimal.digitCount (c * 5 ^ k) + 330 ∧ Decimal.digitCount (c * 5 ^ k) ≤ k + 330 := by
  have hsmall : c * 5 ^ k < 10 ^ (k + 330) := by
    have hpower : 5 ^ k ≤ 10 ^ k := Nat.pow_le_pow_left (by decide) k
    calc c * 5 ^ k < 2 ^ 53 * 10 ^ k :=
          Nat.mul_lt_mul_of_lt_of_le hc hpower (Nat.pow_pos (by decide))
      _ ≤ 10 ^ 330 * 10 ^ k := Nat.mul_le_mul_right _ (by decide +kernel)
      _ = 10 ^ (k + 330) := by rw [Nat.pow_add, Nat.mul_comm]
  refine ⟨?_, (Decimal.digitCount_le_iff (by omega)).2 hsmall⟩
  by_cases hk331 : 331 < k
  · have hlarge : 10 ^ (k - 331) ≤ c * 5 ^ k := by
      have hsplit : 10 ^ k = 10 ^ (k - 331) * 10 ^ 331 := by
        rw [← Nat.pow_add]
        congr 1
        omega
      have hpower : 2 ^ k ≤ 10 ^ 331 :=
        Nat.le_trans (Nat.pow_le_pow_right (by decide) hk) (by decide +kernel)
      refine Nat.le_of_mul_le_mul_right ?_ (Nat.pow_pos (a := 10) (n := 331) (by decide))
      calc 10 ^ (k - 331) * 10 ^ 331 = 5 ^ k * 2 ^ k := by
            rw [← hsplit, ← Nat.mul_pow]
        _ ≤ 5 ^ k * 10 ^ 331 := Nat.mul_le_mul_left _ hpower
        _ ≤ c * 5 ^ k * 10 ^ 331 := Nat.mul_le_mul_right _ (Nat.le_mul_of_pos_left _ hpos)
    have hlt := (Decimal.lt_digitCount_iff (by omega)).2 hlarge
    omega
  · have hone : 0 < Decimal.digitCount (c * 5 ^ k) := Nat.length_toDigits_pos
    omega

/-- The exact value is read back as the magnitude. -/
theorem toDouble_expansion (a : Magnitude) (ha : a.significand ≠ 0) (negative : Bool) :
    Decimal.toDouble ⟨negative, a.expansion.1, a.expansion.2⟩ = .finite negative a := by
  have hbits : a.significand < 2 ^ 53 := a.significand_lt
  obtain ⟨hleast, hgreatest⟩ := a.exponent_bounds
  unfold expansion
  by_cases hexponent : 0 ≤ a.exponent
  · have hfraction : a.fraction = (a.significand * 2 ^ a.exponent.toNat, 1) := by
      rw [fraction, if_pos hexponent]
      rfl
    have hcount := digitCount_mul_two_pow hbits (n := a.exponent.toNat) (by omega)
    rw [if_pos hexponent]
    show Decimal.toDouble ⟨negative, a.significand * 2 ^ a.exponent.toNat, 0⟩ = _
    rw [Decimal.toDouble_eq (Nat.mul_ne_zero ha (Nat.two_pow_pos _).ne')
      (by simp only; omega) (by simp only; omega)]
    refine Double.nearest_of_fraction negative a (Nat.pow_pos (by decide)) ?_
    simp [hfraction]
  · obtain ⟨k, hk⟩ : ∃ k : Nat, a.exponent = -k := ⟨(-a.exponent).toNat, by omega⟩
    have hfraction : a.fraction = (a.significand, 2 ^ k) := by
      rw [fraction, if_neg hexponent, hk]
      simp
    obtain ⟨hlow, hhigh⟩ :=
      digitCount_mul_five_pow (Nat.pos_of_ne_zero ha) hbits (by omega : k ≤ 1074)
    rw [if_neg hexponent, hk]
    show Decimal.toDouble ⟨negative, a.significand * 5 ^ (- -(k : Int)).toNat, -k⟩ = _
    rw [neg_neg, Int.toNat_natCast]
    have hne : a.significand * 5 ^ k ≠ 0 := Nat.mul_ne_zero ha (Nat.pow_pos (by decide)).ne'
    rw [Decimal.toDouble_eq hne (by simp only; omega) (by simp only; omega)]
    refine Double.nearest_of_fraction negative a (Nat.pow_pos (by decide)) ?_
    have hten : 10 ^ k = 5 ^ k * 2 ^ k := by rw [← Nat.mul_pow]
    simp [hfraction, hten, Nat.mul_assoc]

end Magnitude

/-! ## Digits -/

namespace Decimal

theorem ofDigits_append (ds es : List Char) :
    ofDigits (ds ++ es) = ofDigits ds * 10 ^ es.length + ofDigits es := by
  unfold ofDigits
  rw [List.foldl_append]
  generalize ds.foldl (fun n c => 10 * n + digitValue c) 0 = start
  have hshift : ∀ (l : List Char) (m : Nat), l.foldl (fun n c => 10 * n + digitValue c) m
      = m * 10 ^ l.length + l.foldl (fun n c => 10 * n + digitValue c) 0 := by
    intro l
    induction l with
    | nil => simp
    | cons c l ih =>
      intro m
      rw [List.foldl_cons, List.foldl_cons, ih, ih (10 * 0 + digitValue c), List.length_cons]
      ring
  exact hshift es start

@[simp]
theorem ofDigits_zeros (k : Nat) : ofDigits (List.replicate k '0') = 0 := by
  induction k with
  | zero => rfl
  | succ k ih =>
    rw [List.replicate_succ', ofDigits_append, ih]
    rfl

@[simp]
theorem ofDigits_toDigits (n : Nat) : ofDigits (Nat.toDigits 10 n) = n :=
  Nat.ofDigitChars_ten_toDigits

end Decimal

namespace Digits

/-- The decimal that some digits and their point stand for. -/
def decimal (negative : Bool) (d : Digits) : Decimal :=
  ⟨negative, Decimal.ofDigits d.digits, d.point - d.digits.length⟩

/-- There are digits, and nothing else. -/
structure Proper (d : Digits) : Prop where
  ne_nil : d.digits ≠ []
  isDigit : ∀ c ∈ d.digits, c.isDigit = true

theorem exists_zeros (c : Nat) (e : Int) :
    ∃ k, Nat.toDigits 10 c = (ofDecimal c e).digits ++ List.replicate k '0' := by
  refine ⟨((Nat.toDigits 10 c).reverse.takeWhile (· == '0')).length, ?_⟩
  have hzeros : ((Nat.toDigits 10 c).reverse.takeWhile (· == '0'))
      = List.replicate ((Nat.toDigits 10 c).reverse.takeWhile (· == '0')).length '0' := by
    refine List.eq_replicate_of_mem fun d hd => ?_
    simpa using List.mem_takeWhile_imp hd
  have hsplit := List.takeWhile_append_dropWhile (p := (· == '0'))
    (l := (Nat.toDigits 10 c).reverse)
  rw [hzeros] at hsplit
  have hreverse := congrArg List.reverse hsplit
  rw [List.reverse_append, List.reverse_reverse, List.reverse_replicate] at hreverse
  exact hreverse.symm

/-- Leaving out trailing zeros keeps what is read. -/
theorem toDouble_ofDecimal (c : Nat) (e : Int) (negative : Bool) :
    ((ofDecimal c e).decimal negative).toDouble = Decimal.toDouble ⟨negative, c, e⟩ := by
  obtain ⟨k, hall⟩ := exists_zeros c e
  have hvalue : c = Decimal.ofDigits (ofDecimal c e).digits * 10 ^ k := by
    have hdigits := Decimal.ofDigits_toDigits c
    rw [hall, Decimal.ofDigits_append, Decimal.ofDigits_zeros, List.length_replicate] at hdigits
    exact hdigits.symm
  have hpoint : (ofDecimal c e).point - ((ofDecimal c e).digits.length : Int) = e + k := by
    have hlength := congrArg List.length hall
    rw [List.length_append, List.length_replicate] at hlength
    show ((Nat.toDigits 10 c).length : Int) + e - _ = _
    omega
  have hshift := Decimal.toDouble_shift negative (Decimal.ofDigits (ofDecimal c e).digits) k (e + k)
  rw [← hvalue, Int.add_sub_cancel] at hshift
  rw [decimal, hpoint, hshift]

theorem proper_ofDecimal {c : Nat} (hc : c ≠ 0) (e : Int) : (ofDecimal c e).Proper := by
  obtain ⟨k, hall⟩ := exists_zeros c e
  constructor
  · intro hnil
    have hdigits := Decimal.ofDigits_toDigits c
    rw [hall, hnil, List.nil_append, Decimal.ofDigits_zeros] at hdigits
    exact hc hdigits.symm
  · intro d hd
    refine Nat.isDigit_of_mem_toDigits (b := 10) (n := c) (by decide) (by decide) ?_
    rw [hall]
    exact List.mem_append_left _ hd

end Digits

/-! ## Shortest digits -/

namespace Magnitude

theorem readsBack_of_candidate? {tie : TieRule} {a : Magnitude} {e : Int} {c : Nat}
    (h : a.candidate? tie e = some c) :
    Decimal.toDouble ⟨false, c, e⟩ = .finite false a := by
  have heither : ∀ {low high : Nat} (p : Prop) [Decidable p], a.readsBack low e = true →
      a.readsBack high e = true → a.readsBack (if p then high else low) e = true := by
    intro low high p _ hlow hhigh
    split
    · exact hhigh
    · exact hlow
  have hread : a.readsBack c e = true := by
    rw [candidate?] at h
    generalize a.fraction = fraction at h
    simp only at h
    split at h
    · next hlow hhigh =>
      cases h
      exact heither _ hlow hhigh
    · next hlow hhigh =>
      cases h
      exact hlow
    · next hlow hhigh =>
      cases h
      exact hhigh
    · cases h
  exact beq_iff_eq.1 hread

/-- Whatever the search finds is read back. -/
theorem toDouble_search (tie : TieRule) (a : Magnitude) (ha : a.significand ≠ 0) (order : Int)
    (count grids : Nat) :
    Decimal.toDouble ⟨false, (search tie a order count grids).1, (search tie a order count grids).2⟩
      = .finite false a := by
  induction grids generalizing count with
  | zero => exact a.toDouble_expansion ha false
  | succ grids ih =>
    rw [search]
    cases hcandidate : a.candidate? tie (order - count) with
    | none => exact ih (count + 1)
    | some c => exact readsBack_of_candidate? hcandidate

theorem significand_ne_zero {a : Magnitude} (ha : a.val ≠ 0) : a.significand ≠ 0 := by
  unfold significand
  split
  · exact ha
  · unfold binade
    omega

/-- The shortest digits of a magnitude that is not zero are digits, and are read back. -/
theorem shortest_spec (tie : TieRule) {a : Magnitude} (ha : a.val ≠ 0) :
    (a.shortest tie).Proper
      ∧ ∀ negative, ((a.shortest tie).decimal negative).toDouble = .finite negative a := by
  have hsearch := a.toDouble_search tie (significand_ne_zero ha) a.decimalOrder 1 17
  have hcoefficient : (search tie a a.decimalOrder 1 17).1 ≠ 0 := by
    intro hzero
    rw [hzero] at hsearch
    cases hsearch
    exact ha rfl
  refine ⟨Digits.proper_ofDecimal hcoefficient _, fun negative => ?_⟩
  rw [shortest, Digits.toDouble_ofDecimal]
  exact Decimal.toDouble_sign hsearch negative

end Magnitude

/-! ## Reading texts -/

namespace NumberFormat

/-- Digits with a point between them and no exponent. -/
theorem readUnsigned?_point (negative : Bool) (whole fraction : List Char)
    (hwhole : ∀ c ∈ whole, c.isDigit = true) (hfraction : ∀ c ∈ fraction, c.isDigit = true)
    (hne : whole ≠ []) :
    Decimal.readUnsigned? negative (whole ++ '.' :: fraction)
      = some ⟨negative, Decimal.ofDigits (whole ++ fraction), -fraction.length⟩ := by
  obtain ⟨htake, hdrop⟩ := span_append whole ('.' :: fraction) hwhole (by
    rintro c ⟨⟩
    decide)
  obtain ⟨htake', hdrop'⟩ := span_append fraction [] hfraction (by simp)
  rw [List.append_nil] at htake' hdrop'
  simp [Decimal.readUnsigned?, htake, hdrop, Decimal.readFraction, htake', hdrop',
    Decimal.readExponent?, hne]

theorem isDigit_zeros (k : Nat) : ∀ c ∈ List.replicate k '0', c.isDigit = true := by
  intro c hc
  rw [List.eq_of_mem_replicate hc]
  decide

section

variable {d : Digits} (hd : d.Proper) (negative : Bool)

include hd

/-- All digits behind the point. -/
theorem readUnsigned?_fraction (hpoint : d.point ≤ 0) :
    Decimal.readUnsigned? negative
        (['0'] ++ '.' :: (List.replicate (-d.point).toNat '0' ++ d.digits))
      = some (d.decimal negative) := by
  have hzero : Decimal.ofDigits ['0'] = 0 := rfl
  have hdigits : ∀ c ∈ List.replicate (-d.point).toNat '0' ++ d.digits, c.isDigit = true :=
    List.forall_mem_append.2 ⟨isDigit_zeros _, hd.isDigit⟩
  have hvalue : Decimal.ofDigits (['0'] ++ (List.replicate (-d.point).toNat '0' ++ d.digits))
      = Decimal.ofDigits d.digits := by
    rw [Decimal.ofDigits_append, Decimal.ofDigits_append (List.replicate _ _),
      Decimal.ofDigits_zeros, hzero]
    simp
  have hexponent : -(((List.replicate (-d.point).toNat '0' ++ d.digits).length : Nat) : Int)
      = (d.decimal negative).exponent := by
    simp [Digits.decimal]
    omega
  rw [readUnsigned?_point negative ['0'] _ (isDigit_zeros 1) hdigits (by simp), hvalue, hexponent]
  rfl

/-- All digits in front of the point. -/
theorem readUnsigned?_whole (hshort : (d.digits.length : Int) ≤ d.point) :
    ∃ k : Nat, Decimal.readUnsigned? negative
        (d.digits ++ List.replicate (d.point.toNat - d.digits.length) '0' ++ '.' :: ['0'])
      = some ⟨negative, Decimal.ofDigits d.digits * 10 ^ k,
          (d.decimal negative).exponent - k⟩ := by
  have hzero : Decimal.ofDigits ['0'] = 0 := rfl
  have hdigits : ∀ c ∈ d.digits ++ List.replicate (d.point.toNat - d.digits.length) '0',
      c.isDigit = true := List.forall_mem_append.2 ⟨hd.isDigit, isDigit_zeros _⟩
  have hvalue : Decimal.ofDigits (d.digits
      ++ List.replicate (d.point.toNat - d.digits.length) '0' ++ ['0'])
      = Decimal.ofDigits d.digits * 10 ^ (d.point.toNat - d.digits.length + 1) := by
    rw [Decimal.ofDigits_append, Decimal.ofDigits_append, Decimal.ofDigits_zeros,
      hzero, List.length_replicate, List.length_singleton]
    ring
  have hexponent : -((['0'].length : Nat) : Int)
      = (d.decimal negative).exponent - (d.point.toNat - d.digits.length + 1 : Nat) := by
    simp [Digits.decimal]
    omega
  refine ⟨d.point.toNat - d.digits.length + 1, ?_⟩
  rw [readUnsigned?_point negative _ ['0'] hdigits (isDigit_zeros 1) (by simp [hd.ne_nil]), hvalue,
    hexponent]

/-- The point between the digits. -/
theorem readUnsigned?_split (hpoint : 0 < d.point) (hlong : d.point < d.digits.length) :
    Decimal.readUnsigned? negative
        (d.digits.take d.point.toNat ++ '.' :: d.digits.drop d.point.toNat)
      = some (d.decimal negative) := by
  have hne : d.digits.take d.point.toNat ≠ [] := by
    rw [← List.length_pos_iff, List.length_take]
    omega
  have hexponent : -(((d.digits.drop d.point.toNat).length : Nat) : Int)
      = (d.decimal negative).exponent := by
    simp [Digits.decimal]
    omega
  rw [readUnsigned?_point negative _ _ (fun c hc => hd.isDigit c (List.mem_of_mem_take hc))
    (fun c hc => hd.isDigit c (List.mem_of_mem_drop hc)) hne, List.take_append_drop, hexponent]
  rfl

theorem readUnsigned?_plain :
    ∃ k : Nat, Decimal.readUnsigned? negative (plain d)
      = some ⟨negative, Decimal.ofDigits d.digits * 10 ^ k, (d.decimal negative).exponent - k⟩ := by
  have hlength : 0 < d.digits.length := List.length_pos_iff.2 hd.ne_nil
  have hdecimal : d.decimal negative = ⟨negative, Decimal.ofDigits d.digits * 10 ^ 0,
      (d.decimal negative).exponent - (0 : Nat)⟩ := by simp [Digits.decimal]
  rw [plain]
  split
  · next hpoint =>
    have hread := readUnsigned?_fraction hd negative hpoint
    rw [hdecimal] at hread
    exact ⟨0, by simpa using hread⟩
  · next hpoint =>
    dsimp only
    split
    · next hshort =>
      obtain ⟨k, hread⟩ := readUnsigned?_whole hd negative (by omega)
      exact ⟨k, by simpa using hread⟩
    · next hlong =>
      have hread := readUnsigned?_split hd negative (by omega) (by omega)
      rw [hdecimal] at hread
      exact ⟨0, by simpa using hread⟩

end

theorem isDigit_toDigits (n : Nat) : ∀ c ∈ Nat.toDigits 10 n, c.isDigit = true :=
  fun _ hc => Nat.isDigit_of_mem_toDigits (by decide) (by decide) hc

/-- A sign is none of the digits. -/
theorem readSign_digits {ds : List Char} (hds : ∀ c ∈ ds.head?, c.isDigit = true) :
    Decimal.readSign ds = (false, ds) := by
  cases ds with
  | nil => rfl
  | cons c ds =>
    have hc : c.isDigit = true := hds c rfl
    rw [Decimal.readSign]
    · rintro rest ⟨⟩
      exact absurd hc (by decide)
    · rintro rest ⟨⟩
      exact absurd hc (by decide)

theorem readExponent?_integer (plus : Bool) (n : Int) :
    Decimal.readExponent? ('e' :: ((if plus && 0 ≤ n then ['+'] else []) ++ integer n))
      = some n := by
  have hdigits : ((Nat.toDigits 10 n.natAbs).isEmpty
      || !(Nat.toDigits 10 n.natAbs).all Char.isDigit) = false := by
    simpa using isDigit_toDigits n.natAbs
  have hread : Decimal.readSign (Nat.toDigits 10 n.natAbs) = (false, Nat.toDigits 10 n.natAbs) :=
    readSign_digits fun c hc => isDigit_toDigits n.natAbs c (List.mem_of_mem_head? hc)
  rw [Decimal.readExponent?, if_pos (by decide), integer]
  by_cases hn : n < 0
  · have hsign : Decimal.readSign ('-' :: Nat.toDigits 10 n.natAbs)
        = (true, Nat.toDigits 10 n.natAbs) := rfl
    have hnot : ¬ 0 ≤ n := by omega
    simp only [hn, hnot, decide_false, Bool.and_false, Bool.false_eq_true, if_false, if_true,
      List.nil_append, hsign, hdigits, Decimal.ofDigits_toDigits]
    congr 1
    omega
  · have hle : 0 ≤ n := by omega
    have hplus : Decimal.readSign ('+' :: Nat.toDigits 10 n.natAbs)
        = (false, Nat.toDigits 10 n.natAbs) := rfl
    cases plus with
    | true =>
      simp only [hn, hle, decide_true, Bool.and_self, if_true, if_false, List.cons_append,
        List.nil_append, hplus, hdigits, Bool.false_eq_true, Decimal.ofDigits_toDigits]
      congr 1
      omega
    | false =>
      simp only [hn, Bool.false_and, Bool.false_eq_true, if_false, List.nil_append, hread, hdigits,
        Decimal.ofDigits_toDigits]
      congr 1
      omega

theorem readUnsigned?_scientific (f : NumberFormat) (negative : Bool) {d : Digits}
    (hd : d.Proper) :
    Decimal.readUnsigned? negative (f.scientific d) = some (d.decimal negative) := by
  obtain ⟨digits, point⟩ := d
  obtain ⟨c, rest, rfl⟩ := List.exists_cons_of_ne_nil hd.ne_nil
  have hc : c.isDigit = true := hd.isDigit c List.mem_cons_self
  have hrest : ∀ d ∈ rest, d.isDigit = true := fun d h => hd.isDigit d (List.mem_cons_of_mem c h)
  obtain ⟨tail, hexponent, hone, hmore⟩ : ∃ tail,
      Decimal.readExponent? ('e' :: tail) = some (point - 1)
        ∧ f.scientific ⟨[c], point⟩ = c :: 'e' :: tail
        ∧ ∀ d rest, f.scientific ⟨c :: d :: rest, point⟩
          = c :: '.' :: (d :: rest ++ 'e' :: tail) :=
    ⟨_, readExponent?_integer f.exponentPlus (point - 1), by simp [scientific],
      fun d rest => by simp [scientific]⟩
  have hmark : ∀ d ∈ ('e' :: tail).head?, d.isDigit = false := by
    rintro d ⟨⟩
    decide
  cases rest with
  | nil =>
    obtain ⟨htake, hdrop⟩ := span_append [c] ('e' :: tail) (by simpa using hc) hmark
    rw [List.singleton_append] at htake hdrop
    simp only [hone, Decimal.readUnsigned?, htake, hdrop]
    simp [Decimal.readFraction, hexponent, Digits.decimal]
  | cons d rest =>
    obtain ⟨htake, hdrop⟩ := span_append [c]
      ('.' :: (d :: rest ++ 'e' :: tail)) (by simpa using hc) (by rintro d ⟨⟩; decide)
    obtain ⟨htake', hdrop'⟩ := span_append (d :: rest) ('e' :: tail) hrest hmark
    rw [List.singleton_append] at htake hdrop
    simp only [hmore, Decimal.readUnsigned?, htake, hdrop, Decimal.readFraction, htake', hdrop',
      hexponent]
    simp [Digits.decimal]
    omega

/-! ## Texts of doubles -/

/-- The characters of numerals without a plus sign. -/
def isNumeral (c : Char) : Bool := c.isDigit || c == '-' || c == '.' || c == 'e'

theorem isNumeral_of_isDigit {c : Char} (h : c.isDigit = true) : isNumeral c = true := by
  simp [isNumeral, h]

theorem isNumeral_plain {d : Digits} (hd : d.Proper) : ∀ c ∈ plain d, isNumeral c = true := by
  have hdigits : ∀ c ∈ d.digits, isNumeral c = true := fun c hc =>
    isNumeral_of_isDigit (hd.isDigit c hc)
  have hzeros : ∀ k, ∀ c ∈ List.replicate k '0', isNumeral c = true := fun k c hc =>
    isNumeral_of_isDigit (isDigit_zeros k c hc)
  have hpoint : isNumeral '.' = true := by decide
  have hzero : isNumeral '0' = true := by decide
  intro c hc
  rw [plain] at hc
  split at hc
  · simp only [List.mem_append, List.mem_cons, List.not_mem_nil, or_false] at hc
    rcases hc with ((rfl | rfl) | hc) | hc
    · exact hzero
    · exact hpoint
    · exact hzeros _ c hc
    · exact hdigits c hc
  · dsimp only at hc
    split at hc
    · simp only [List.mem_append, List.mem_cons, List.not_mem_nil, or_false] at hc
      rcases hc with (hc | hc) | rfl | rfl
      · exact hdigits c hc
      · exact hzeros _ c hc
      · exact hpoint
      · exact hzero
    · simp only [List.mem_append, List.mem_singleton] at hc
      rcases hc with (hc | rfl) | hc
      · exact hdigits c (List.mem_of_mem_take hc)
      · exact hpoint
      · exact hdigits c (List.mem_of_mem_drop hc)

theorem isNumeral_scientific {f : NumberFormat} (hplus : f.exponentPlus = false) {d : Digits}
    (hd : d.Proper) : ∀ c ∈ f.scientific d, isNumeral c = true := by
  obtain ⟨digits, point⟩ := d
  obtain ⟨first, rest, rfl⟩ := List.exists_cons_of_ne_nil hd.ne_nil
  have hdigits : ∀ c ∈ first :: rest, isNumeral c = true := fun c hc =>
    isNumeral_of_isDigit (hd.isDigit c hc)
  have hinteger : ∀ c ∈ integer (point - 1), isNumeral c = true := by
    have hnumber : ∀ c ∈ Nat.toDigits 10 (point - 1).natAbs, isNumeral c = true := fun c hc =>
      isNumeral_of_isDigit (isDigit_toDigits _ c hc)
    rw [integer]
    split
    · exact List.forall_mem_cons.2 ⟨by decide, hnumber⟩
    · exact hnumber
  have hmantissa : ∃ mantissa, f.scientific ⟨first :: rest, point⟩
        = mantissa ++ 'e' :: integer (point - 1) ∧ ∀ c ∈ mantissa, isNumeral c = true := by
    rw [scientific, hplus]
    cases rest with
    | nil => exact ⟨[first], by simp, hdigits⟩
    | cons second rest =>
      obtain ⟨hfirst, hrest⟩ := List.forall_mem_cons.1 hdigits
      refine ⟨first :: '.' :: second :: rest, by simp, ?_⟩
      exact List.forall_mem_cons.2 ⟨hfirst, List.forall_mem_cons.2 ⟨by decide, hrest⟩⟩
  obtain ⟨mantissa, hscientific, hmantissa⟩ := hmantissa
  rw [hscientific, List.forall_mem_append, List.forall_mem_cons]
  exact ⟨hmantissa, by decide, hinteger⟩

theorem head_plain {d : Digits} (hd : d.Proper) :
    ∃ c rest, plain d = c :: rest ∧ c.isDigit = true := by
  obtain ⟨c, rest, hdigits⟩ := List.exists_cons_of_ne_nil hd.ne_nil
  have hc : c.isDigit = true := hd.isDigit c (hdigits ▸ List.mem_cons_self)
  rw [plain]
  split
  · exact ⟨'0', _, rfl, by decide⟩
  · next hpoint =>
    obtain ⟨k, hk⟩ : ∃ k, d.point.toNat = k + 1 := ⟨d.point.toNat - 1, by omega⟩
    dsimp only
    split
    · exact ⟨c, _, by rw [hdigits]; rfl, hc⟩
    · exact ⟨c, _, by rw [hdigits, hk]; rfl, hc⟩

theorem head_scientific (f : NumberFormat) {d : Digits} (hd : d.Proper) :
    ∃ c rest, f.scientific d = c :: rest ∧ c.isDigit = true := by
  obtain ⟨digits, point⟩ := d
  obtain ⟨c, rest, rfl⟩ := List.exists_cons_of_ne_nil hd.ne_nil
  have hc : c.isDigit = true := hd.isDigit c List.mem_cons_self
  cases rest with
  | nil => exact ⟨c, _, rfl, hc⟩
  | cons d rest => exact ⟨c, _, rfl, hc⟩

/-- A magnitude starts with a digit, and its text is read as the double with the given sign. -/
theorem readUnsigned?_magnitude (f : NumberFormat) (a : Magnitude) :
    (∃ c rest, f.magnitude a = c :: rest ∧ c.isDigit = true)
      ∧ ∀ negative, (Decimal.readUnsigned? negative (f.magnitude a)).map Decimal.toDouble
        = some (.finite negative a) := by
  by_cases ha : a.val = 0
  · have hzero : a = Magnitude.zero := Fin.ext ha
    subst hzero
    exact ⟨⟨'0', _, rfl, by decide⟩, fun negative => by cases negative <;> rfl⟩
  · obtain ⟨hproper, hread⟩ := Magnitude.shortest_spec f.tie ha
    rw [magnitude, if_neg ha]
    dsimp only
    split
    · refine ⟨head_plain hproper, fun negative => ?_⟩
      obtain ⟨k, hplain⟩ := readUnsigned?_plain hproper negative
      rw [hplain, Option.map_some, Decimal.toDouble_shift]
      exact congrArg some (hread negative)
    · refine ⟨head_scientific f hproper, fun negative => ?_⟩
      rw [readUnsigned?_scientific f negative hproper, Option.map_some, hread]

theorem head_finite (f : NumberFormat) (negative : Bool) (a : Magnitude) :
    ∃ c cs, (f.finite negative a).toList = c :: cs ∧ (c.isDigit = true ∨ c = '-') := by
  obtain ⟨⟨c, cs, hhead, hc⟩, -⟩ := f.readUnsigned?_magnitude a
  rw [finite, String.toList_ofList]
  cases negative with
  | true => exact ⟨'-', _, rfl, Or.inr rfl⟩
  | false => exact ⟨c, cs, hhead, Or.inl hc⟩

theorem isNumeral_finite {f : NumberFormat} (hplus : f.exponentPlus = false) (negative : Bool)
    (a : Magnitude) : ∀ c ∈ (f.finite negative a).toList, isNumeral c = true := by
  have hmagnitude : ∀ c ∈ f.magnitude a, isNumeral c = true := by
    rw [magnitude]
    split
    · exact List.all_eq_true.1 (by decide)
    · next ha =>
      obtain ⟨hproper, -⟩ := Magnitude.shortest_spec f.tie ha
      dsimp only
      split
      · exact isNumeral_plain hproper
      · exact isNumeral_scientific hplus hproper
  rw [finite, String.toList_ofList]
  cases negative with
  | true => exact List.forall_mem_cons.2 ⟨by decide, hmagnitude⟩
  | false => exact hmagnitude

/-- Every finite double is read back from its text, so different doubles have different texts. -/
theorem toDouble_read?_finite (f : NumberFormat) (negative : Bool) (a : Magnitude) :
    (Decimal.read? (f.finite negative a).toList).map Decimal.toDouble
      = some (.finite negative a) := by
  obtain ⟨⟨c, rest, hhead, hc⟩, hread⟩ := f.readUnsigned?_magnitude a
  rw [finite, String.toList_ofList]
  cases negative with
  | true => exact hread true
  | false =>
    have hsign : Decimal.readSign (f.magnitude a) = (false, f.magnitude a) :=
      readSign_digits (by rw [hhead]; rintro d ⟨⟩; exact hc)
    rw [if_neg (by decide), List.nil_append, Decimal.read?, hsign]
    exact hread false

end NumberFormat

end Flowchart
