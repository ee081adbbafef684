set_option autoImplicit false

/-! # Double-precision numbers

A double is NaN, an infinity, or a sign with a magnitude. The finite magnitudes are numbered from
zero upward by their *ordinal*: zero is 0, the least positive double is 1, and so on, so neighbours
on the number line are neighbours in ordinal. The ordinal determines a significand `m` and an
exponent `q` with magnitude `m * 2 ^ q`, and `Double.nearest` rounds any non-negative fraction to
the nearest magnitude, ties to the even significand. All arithmetic is on natural numbers. -/

namespace Flowchart

/-- The number of magnitudes that share an exponent: `2 ^ 52`. -/
def binade : Nat := 4503599627370496

/-- How many finite magnitudes there are. -/
def magnitudeCount : Nat := 2047 * binade

/-- A finite magnitude, numbered from zero upward. -/
abbrev Magnitude := Fin magnitudeCount

/-- A double-precision number; every NaN is one value. -/
inductive Double where
  | nan
  | infinite (negative : Bool)
  | finite (negative : Bool) (magnitude : Magnitude)
deriving DecidableEq

namespace Magnitude

/-- The integer `m` of the magnitude `m * 2 ^ q`; magnitudes below `2 ^ 52` steps are subnormal. -/
def significand (a : Magnitude) : Nat :=
  if a.val < binade then a.val else binade + a.val % binade

/-- The power `q` of the magnitude `m * 2 ^ q`. -/
def exponent (a : Magnitude) : Int :=
  if a.val < binade then -1074 else (a.val / binade : Nat) - 1075

/-- The magnitude zero. -/
def zero : Magnitude := ⟨0, by decide⟩

/-- The exact value as a fraction, numerator over denominator. -/
def fraction (a : Magnitude) : Nat × Nat :=
  if 0 ≤ a.exponent then (a.significand * Nat.pow 2 a.exponent.toNat, 1)
  else (a.significand, Nat.pow 2 (-a.exponent).toNat)

theorem significand_lt (a : Magnitude) : a.significand < 2 * binade := by
  unfold significand
  have := Nat.mod_lt a.val (show 0 < binade by decide)
  split <;> omega

end Magnitude

/-! ## Rounding a fraction -/

/-- The fraction `t / unit` rounded to the nearest integer, ties to the even one. -/
def roundQuotient (t unit : Nat) : Nat :=
  let whole := t / unit
  let rest := t % unit * 2
  if rest < unit then whole
  else if unit < rest then whole + 1
  else whole + whole % 2

namespace Double

/-- The ordinal that rounding `numerator / denominator` leads to, before the range is checked.

    The fraction is scaled until its integer part has at least 54 bits; one more bit records
    whether anything was cut off, so the second rounding sees what the first one lost. The unit of
    the result is the power `2 ^ q` that leaves 53 bits, or `2 ^ (-1074)` if that is larger. A
    carry into the 54th bit needs no care: it is the first ordinal of the next power. -/
def nearestOrdinal (numerator denominator : Nat) : Nat :=
  if numerator = 0 then 0
  else
    let scale := 55 + denominator.log2 - numerator.log2
    let scaled := numerator * Nat.pow 2 scale
    let t := 2 * (scaled / denominator) + (if scaled % denominator = 0 then 0 else 1)
    let q : Int := max ((t.log2 : Int) - 52 - (scale + 1)) (-1074)
    let shift := (q + (scale + 1)).toNat
    (q + 1074).toNat * binade + roundQuotient t (Nat.pow 2 shift)

/-- The double nearest to a fraction with the given sign; beyond the largest magnitude, infinity. -/
def nearest (negative : Bool) (numerator denominator : Nat) : Double :=
  if h : nearestOrdinal numerator denominator < magnitudeCount then
    .finite negative ⟨nearestOrdinal numerator denominator, h⟩
  else .infinite negative

/-- The double nearest to an integer. -/
def ofInt (n : Int) : Double :=
  nearest (n < 0) n.natAbs 1

/-- Positive zero. -/
def zero : Double := .finite false Magnitude.zero

/-- Whether a double is neither NaN nor infinite. -/
def isFinite : Double → Bool
  | .finite .. => true
  | _ => false

end Double

end Flowchart
