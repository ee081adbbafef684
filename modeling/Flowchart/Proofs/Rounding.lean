import Flowchart.Number.Double
import Mathlib.Tactic.Ring

set_option autoImplicit false

/-! # Rounding to doubles

The ordinal a fraction is rounded to does not depend on how far it is scaled first, if only enough
bits are kept: from the 55th bit on, a bit more moves the sticky bit away from the tie it would be
mistaken for. So fractions of the same value are rounded alike, and the exact value of a magnitude
is rounded to the magnitude. -/

namespace Flowchart

/-! ## Rounding a quotient -/

theorem roundQuotient_two_mul (t unit : Nat) :
    roundQuotient (2 * t) (2 * unit) = roundQuotient t unit := by
  have hdiv : 2 * t / (2 * unit) = t / unit := Nat.mul_div_mul_left t unit (by decide)
  have hmod : 2 * t % (2 * unit) = 2 * (t % unit) := Nat.mul_mod_mul_left 2 t unit
  have hlt : 2 * (t % unit) * 2 < 2 * unit ↔ t % unit * 2 < unit := by omega
  have hgt : 2 * unit < 2 * (t % unit) * 2 ↔ unit < t % unit * 2 := by omega
  simp only [roundQuotient, hdiv, hmod, hlt, hgt]

theorem roundQuotient_mul_self (m : Nat) {unit : Nat} (hunit : 0 < unit) :
    roundQuotient (m * unit) unit = m := by
  simp [roundQuotient, Nat.mul_div_cancel m hunit, hunit]

theorem roundQuotient_of_lt {w r unit : Nat} (hr : r < unit) :
    roundQuotient (unit * w + r) unit
      = if r * 2 < unit then w else if unit < r * 2 then w + 1 else w + w % 2 := by
  have hdiv : (unit * w + r) / unit = w := by
    rw [Nat.mul_add_div (by omega), Nat.div_eq_of_lt hr, Nat.add_zero]
  have hmod : (unit * w + r) % unit = r := by
    rw [Nat.mul_add_mod, Nat.mod_eq_of_lt hr]
  simp only [roundQuotient, hdiv, hmod]

/-- Half a unit is even, so an odd number is not near a tie. -/
theorem roundQuotient_near {t t' v : Nat} (hv : 0 < v) (hodd : t % 2 = 1) (hlow : 2 * t ≤ t' + 1)
    (hhigh : t' ≤ 2 * t + 1) :
    roundQuotient t' (2 * (4 * v)) = roundQuotient t (4 * v) := by
  obtain ⟨w, r, rfl, hr⟩ : ∃ w r, t = 4 * v * w + r ∧ r < 4 * v :=
    ⟨t / (4 * v), t % (4 * v), (Nat.div_add_mod t (4 * v)).symm, Nat.mod_lt _ (by omega)⟩
  have hodd' : r % 2 = 1 := by
    have hmultiple : 4 * v * w = 2 * (2 * v * w) := by ring
    omega
  obtain ⟨r', rfl⟩ : ∃ r', t' = 2 * (4 * v) * w + r' := by
    refine ⟨t' - 2 * (4 * v) * w, ?_⟩
    have hdouble : 2 * (4 * v) * w = 2 * (4 * v * w) := by ring
    omega
  have hdouble : 2 * (4 * v) * w = 2 * (4 * v * w) := by ring
  have hr' : r' + 1 = 2 * r ∨ r' = 2 * r ∨ r' = 2 * r + 1 := by omega
  rw [roundQuotient_of_lt hr, roundQuotient_of_lt (by omega)]
  have hlt : r' * 2 < 2 * (4 * v) ↔ r * 2 < 4 * v := by omega
  have hgt : 2 * (4 * v) < r' * 2 ↔ 4 * v < r * 2 := by omega
  simp only [hlt, hgt]

namespace Double

/-- The integer part of a fraction scaled by a power of two, and one more bit that tells whether
    anything was cut off. -/
def stickyQuotient (n d s : Nat) : Nat :=
  2 * (n * 2 ^ s / d) + if n * 2 ^ s % d = 0 then 0 else 1

/-- The exponent of the unit that the scaled fraction is rounded to. -/
def unitExponent (t s : Nat) : Int := max ((t.log2 : Int) - 52 - (s + 1)) (-1074)

/-- The ordinal that the scaled fraction is rounded to. -/
def ordinalAt (n d s : Nat) : Nat :=
  (unitExponent (stickyQuotient n d s) s + 1074).toNat * binade
    + roundQuotient (stickyQuotient n d s)
      (2 ^ (unitExponent (stickyQuotient n d s) s + (s + 1)).toNat)

theorem nearestOrdinal_eq {n : Nat} (hn : n ≠ 0) (d : Nat) :
    nearestOrdinal n d = ordinalAt n d (55 + d.log2 - n.log2) := by
  rw [nearestOrdinal, if_neg hn]
  rfl

/-! ## Scaling further -/

/-- One more bit doubles the quotient, or shows one of the bits that were cut off. -/
theorem stickyQuotient_succ (n : Nat) {d : Nat} (hd : 0 < d) (s : Nat) :
    stickyQuotient n d (s + 1) = 2 * stickyQuotient n d s
      ∨ stickyQuotient n d s % 2 = 1
        ∧ 2 * stickyQuotient n d s ≤ stickyQuotient n d (s + 1) + 1
        ∧ stickyQuotient n d (s + 1) ≤ 2 * stickyQuotient n d s + 1 := by
  obtain ⟨w, r, hscaled, hr⟩ : ∃ w r, n * 2 ^ s = d * w + r ∧ r < d :=
    ⟨n * 2 ^ s / d, n * 2 ^ s % d, (Nat.div_add_mod _ _).symm, Nat.mod_lt _ hd⟩
  have hquotient : ∀ {x w r}, x = d * w + r → r < d → x / d = w ∧ x % d = r := by
    rintro x w r rfl hr
    rw [Nat.mul_add_div hd, Nat.div_eq_of_lt hr, Nat.mul_add_mod, Nat.mod_eq_of_lt hr]
    exact ⟨Nat.add_zero w, rfl⟩
  have hnext : n * 2 ^ (s + 1) = d * (2 * w) + 2 * r := by
    rw [Nat.pow_succ, ← Nat.mul_assoc, hscaled]
    ring
  obtain ⟨hdiv, hmod⟩ := hquotient hscaled hr
  simp only [stickyQuotient, hdiv, hmod]
  by_cases hhalf : 2 * r < d
  · obtain ⟨hdiv', hmod'⟩ := hquotient hnext hhalf
    simp only [hdiv', hmod']
    by_cases hzero : r = 0
    · left
      simp [hzero]
    · right
      simp [hzero]
      omega
  · obtain ⟨hdiv', hmod'⟩ := hquotient (x := n * 2 ^ (s + 1)) (w := 2 * w + 1) (r := 2 * r - d)
      (by rw [hnext, Nat.mul_add]; omega) (by omega)
    simp only [hdiv', hmod', if_neg (show r ≠ 0 by omega)]
    right
    split <;> omega

theorem log2_stickyQuotient_succ {n d s : Nat} (hd : 0 < d) (ht : 2 ≤ stickyQuotient n d s) :
    (stickyQuotient n d (s + 1)).log2 = (stickyQuotient n d s).log2 + 1 := by
  generalize hk : (stickyQuotient n d s).log2 = k
  obtain ⟨hlow, hhigh⟩ := (Nat.log2_eq_iff (by omega)).1 hk
  obtain ⟨j, rfl⟩ : ∃ j, k = j + 1 := by
    refine ⟨k - 1, ?_⟩
    have hone : 1 ≤ k := hk ▸ (Nat.le_log2 (by omega)).2 (by omega)
    omega
  have hnext := stickyQuotient_succ n hd s
  have hpow : ∀ i, 2 ^ (i + 1) = 2 * 2 ^ i := fun i => by ring
  rw [Nat.log2_eq_iff (by omega)]
  simp only [hpow] at hlow hhigh ⊢
  omega

/-- The fraction is scaled until its integer part has at least 55 bits. -/
def Scaled (n d s : Nat) : Prop := 2 ^ 54 ≤ n * 2 ^ s / d

theorem ordinalAt_succ {n d s : Nat} (hd : 0 < d) (h : Scaled n d s) :
    ordinalAt n d (s + 1) = ordinalAt n d s := by
  have ht : 2 ^ 55 ≤ stickyQuotient n d s := by
    have hdouble : stickyQuotient n d s = 2 * (n * 2 ^ s / d) + _ := rfl
    unfold Scaled at h
    omega
  have hlog : 55 ≤ (stickyQuotient n d s).log2 := (Nat.le_log2 (by omega)).2 ht
  have hlog' := log2_stickyQuotient_succ hd (show 2 ≤ stickyQuotient n d s by omega)
  have hunit : unitExponent (stickyQuotient n d (s + 1)) (s + 1)
      = unitExponent (stickyQuotient n d s) s := by
    rw [unitExponent, unitExponent, hlog']
    congr 1
    omega
  obtain ⟨shift, hshift⟩ : ∃ shift,
      (unitExponent (stickyQuotient n d s) s + (s + 1)).toNat = shift + 2 := by
    refine ⟨(unitExponent (stickyQuotient n d s) s + (s + 1)).toNat - 2, ?_⟩
    have hle : ((stickyQuotient n d s).log2 : Int) - 52 - (s + 1)
        ≤ unitExponent (stickyQuotient n d s) s := le_max_left _ _
    omega
  have hshift' : (unitExponent (stickyQuotient n d s) s + ((s + 1 : Nat) + 1)).toNat
      = shift + 3 := by omega
  rw [ordinalAt, ordinalAt, hunit, hshift, hshift']
  congr 1
  have hpow : 2 ^ (shift + 2) = 4 * 2 ^ shift := by ring
  have hpow' : 2 ^ (shift + 3) = 2 * (4 * 2 ^ shift) := by ring
  rw [hpow, hpow']
  rcases stickyQuotient_succ n hd s with heq | ⟨hodd, hlow, hhigh⟩
  · rw [heq, roundQuotient_two_mul]
  · exact roundQuotient_near (Nat.two_pow_pos shift) hodd hlow hhigh

theorem Scaled.mono {n d s s' : Nat} (h : Scaled n d s) (hs : s ≤ s') : Scaled n d s' := by
  refine Nat.le_trans h (Nat.div_le_div_right (Nat.mul_le_mul_left n ?_))
  exact Nat.pow_le_pow_right (by decide) hs

theorem ordinalAt_eq {n d s s' : Nat} (hd : 0 < d) (h : Scaled n d s) (hs : s ≤ s') :
    ordinalAt n d s' = ordinalAt n d s := by
  induction s', hs using Nat.le_induction with
  | base => rfl
  | succ s' hs ih => rw [ordinalAt_succ hd (h.mono hs), ih]

theorem scaled_default {n d : Nat} (hn : n ≠ 0) (hd : 0 < d) :
    Scaled n d (55 + d.log2 - n.log2) := by
  have hlow : 2 ^ n.log2 ≤ n := Nat.log2_self_le hn
  have hhigh : d < 2 ^ (d.log2 + 1) := Nat.lt_log2_self
  refine (Nat.le_div_iff_mul_le hd).2 ?_
  calc 2 ^ 54 * d ≤ 2 ^ 54 * 2 ^ (d.log2 + 1) := Nat.mul_le_mul_left _ (Nat.le_of_lt hhigh)
    _ = 2 ^ (55 + d.log2) := by ring
    _ ≤ 2 ^ (n.log2 + (55 + d.log2 - n.log2)) := Nat.pow_le_pow_right (by decide) (by omega)
    _ = 2 ^ n.log2 * 2 ^ (55 + d.log2 - n.log2) := Nat.pow_add 2 _ _
    _ ≤ n * 2 ^ (55 + d.log2 - n.log2) := Nat.mul_le_mul_right _ hlow

/-- Any scale that is large enough leads to the nearest ordinal. -/
theorem nearestOrdinal_eq_ordinalAt {n d s : Nat} (hn : n ≠ 0) (hd : 0 < d) (h : Scaled n d s) :
    nearestOrdinal n d = ordinalAt n d s := by
  have hdefault := scaled_default hn hd
  rw [nearestOrdinal_eq hn]
  rcases Nat.le_total s (55 + d.log2 - n.log2) with hs | hs
  · exact ordinalAt_eq hd h hs
  · exact (ordinalAt_eq hd hdefault hs).symm

/-! ## Fractions of the same value -/

theorem nearestOrdinal_mul {k : Nat} (hk : 0 < k) (n : Nat) {d : Nat} (hd : 0 < d) :
    nearestOrdinal (k * n) (k * d) = nearestOrdinal n d := by
  by_cases hn : n = 0
  · simp [hn, nearestOrdinal]
  · have hdiv : ∀ s, k * n * 2 ^ s / (k * d) = n * 2 ^ s / d := by
      intro s
      rw [Nat.mul_assoc, Nat.mul_div_mul_left _ _ hk]
    have hmod : ∀ s, k * n * 2 ^ s % (k * d) = 0 ↔ n * 2 ^ s % d = 0 := by
      intro s
      rw [Nat.mul_assoc, Nat.mul_mod_mul_left, Nat.mul_eq_zero]
      exact or_iff_right (by omega)
    have hscaled := scaled_default hn hd
    have hscaled' : Scaled (k * n) (k * d) (55 + d.log2 - n.log2) := by
      rw [Scaled, hdiv]
      exact hscaled
    rw [nearestOrdinal_eq_ordinalAt hn hd hscaled,
      nearestOrdinal_eq_ordinalAt (Nat.mul_ne_zero (by omega) hn) (Nat.mul_pos hk hd) hscaled']
    simp only [ordinalAt, stickyQuotient, hdiv, hmod]

/-- Fractions of the same value have the same nearest ordinal. -/
theorem nearestOrdinal_congr {n d n' d' : Nat} (hd : 0 < d) (hd' : 0 < d') (h : n * d' = n' * d) :
    nearestOrdinal n d = nearestOrdinal n' d' := by
  rw [← nearestOrdinal_mul hd' n hd, ← nearestOrdinal_mul hd n' hd', Nat.mul_comm d' n,
    Nat.mul_comm d n', h, Nat.mul_comm d' d]

end Double

/-! ## Magnitudes -/

namespace Magnitude

open Double

theorem exponent_val (a : Magnitude) :
    (a.exponent + 1074).toNat * binade + a.significand = a.val := by
  unfold exponent significand
  have hbinade : 0 < binade := by decide
  split
  · simp
  · next hlarge =>
    have hone : 1 ≤ a.val / binade := (Nat.one_le_div_iff hbinade).2 (by omega)
    have hsplit := Nat.div_add_mod' a.val binade
    obtain ⟨k, hk⟩ : ∃ k, a.val / binade = k + 1 := ⟨a.val / binade - 1, by omega⟩
    rw [hk] at hsplit ⊢
    have hexponent : (((k + 1 : Nat) : Int) - 1075 + 1074).toNat = k := by omega
    rw [hexponent]
    rw [Nat.add_mul] at hsplit
    omega

theorem log2_mul_two_pow {m : Nat} (hm : m ≠ 0) (j : Nat) : (m * 2 ^ j).log2 = m.log2 + j := by
  induction j with
  | zero => simp
  | succ j ih =>
    have hne : m * 2 ^ j ≠ 0 := Nat.mul_ne_zero hm (Nat.two_pow_pos j).ne'
    have hdouble : m * 2 ^ (j + 1) = 2 * (m * 2 ^ j) := by ring
    rw [hdouble, Nat.log2_two_mul hne, ih, Nat.add_assoc]

/-- A magnitude has 53 bits, or its unit is the least one. -/
theorem log2_significand (a : Magnitude) (ha : a.significand ≠ 0) :
    max ((a.significand.log2 : Int) - 52 + a.exponent) (-1074) = a.exponent := by
  by_cases hsmall : a.val < binade
  · simp only [significand, exponent, if_pos hsmall] at ha ⊢
    have hbits : a.val.log2 < 52 := (Nat.log2_lt ha).2 hsmall
    omega
  · simp only [significand, exponent, if_neg hsmall] at ha ⊢
    have hrest : a.val % binade < binade := Nat.mod_lt _ (by decide)
    have hbits : (binade + a.val % binade).log2 = 52 :=
      (Nat.log2_eq_iff ha).2 ⟨Nat.le_add_right _ _, by unfold binade at *; omega⟩
    have hone : 1 ≤ a.val / binade := (Nat.one_le_div_iff (by decide)).2 (by omega)
    omega

/-- A fraction that scales to the significand, with the bits of its unit left to be cut off, is
    rounded to the magnitude. -/
theorem nearestOrdinal_of_exact {a : Magnitude} (ha : a.significand ≠ 0) {n d s i : Nat}
    (hd : 0 < d) (hexact : n * 2 ^ s = d * (a.significand * 2 ^ i)) (hi : 54 ≤ i)
    (hunit : (i : Int) = a.exponent + s) : nearestOrdinal n d = a.val := by
  have hdiv : n * 2 ^ s / d = a.significand * 2 ^ i := by
    rw [hexact, Nat.mul_div_cancel_left _ hd]
  have hsticky : stickyQuotient n d s = a.significand * 2 ^ (i + 1) := by
    rw [stickyQuotient, hdiv, hexact, Nat.mul_mod_right, if_pos rfl]
    ring
  have hscaled : Scaled n d s := by
    rw [Scaled, hdiv]
    calc 2 ^ 54 ≤ 2 ^ i := Nat.pow_le_pow_right (by decide) hi
      _ ≤ a.significand * 2 ^ i := Nat.le_mul_of_pos_left _ (Nat.pos_of_ne_zero ha)
  have hn : n ≠ 0 := by
    rintro rfl
    rw [Nat.zero_mul] at hexact
    exact Nat.mul_ne_zero hd.ne' (Nat.mul_ne_zero ha (Nat.two_pow_pos i).ne') hexact.symm
  have hexponent : unitExponent (a.significand * 2 ^ (i + 1)) s = a.exponent := by
    rw [unitExponent, log2_mul_two_pow ha, ← a.log2_significand ha]
    congr 1
    omega
  have hshift : (a.exponent + (s + 1)).toNat = i + 1 := by omega
  rw [nearestOrdinal_eq_ordinalAt hn hd hscaled, ordinalAt, hsticky, hexponent, hshift,
    roundQuotient_mul_self _ (Nat.two_pow_pos (i + 1)), a.exponent_val]

/-- The exact value of a magnitude is rounded to the magnitude. -/
theorem nearestOrdinal_fraction (a : Magnitude) :
    nearestOrdinal a.fraction.1 a.fraction.2 = a.val := by
  by_cases ha : a.significand = 0
  · have hzero : a.val = 0 := by
      by_cases hsmall : a.val < binade
      · simpa [significand, hsmall] using ha
      · simp only [significand, if_neg hsmall] at ha
        unfold binade at ha
        omega
    have hfraction : a.fraction.1 = 0 := by
      unfold fraction
      split <;> simp [ha]
    rw [hfraction, hzero, nearestOrdinal, if_pos rfl]
  · unfold fraction
    by_cases hexponent : 0 ≤ a.exponent
    · rw [if_pos hexponent]
      refine nearestOrdinal_of_exact ha (s := 54) (i := a.exponent.toNat + 54) Nat.one_pos ?_
        (Nat.le_add_left _ _) (by omega)
      show a.significand * 2 ^ a.exponent.toNat * 2 ^ 54 = _
      rw [Nat.pow_add]
      ring
    · rw [if_neg hexponent]
      refine nearestOrdinal_of_exact ha (s := (-a.exponent).toNat + 54) (i := 54)
        (Nat.two_pow_pos _) ?_ (Nat.le_refl _) (by omega)
      show a.significand * 2 ^ ((-a.exponent).toNat + 54)
        = 2 ^ (-a.exponent).toNat * (a.significand * 2 ^ 54)
      rw [Nat.pow_add]
      ring

theorem fraction_pos (a : Magnitude) : 0 < a.fraction.2 := by
  unfold fraction
  split
  · exact Nat.one_pos
  · exact Nat.two_pow_pos _

end Magnitude

/-! ## Nearest doubles -/

namespace Double

theorem nearest_congr (negative : Bool) {n d n' d' : Nat} (hd : 0 < d) (hd' : 0 < d')
    (h : n * d' = n' * d) : nearest negative n d = nearest negative n' d' := by
  simp only [nearest, nearestOrdinal_congr hd hd' h]

/-- A fraction of the exact value of a magnitude has the magnitude as its nearest double. -/
theorem nearest_of_fraction (negative : Bool) (a : Magnitude) {n d : Nat} (hd : 0 < d)
    (h : n * a.fraction.2 = a.fraction.1 * d) : nearest negative n d = .finite negative a := by
  rw [nearest_congr negative hd a.fraction_pos h, nearest,
    dif_pos (a.nearestOrdinal_fraction ▸ a.isLt)]
  simp only [a.nearestOrdinal_fraction]

end Double

end Flowchart
