import Flowchart.OrderedMap

set_option autoImplicit false

/-! # UUIDs

128-bit identifiers of projects and blocks, the spellings in which a file may give them, and the
one in which they are printed. -/

namespace Flowchart

/-- A 128-bit identifier. -/
structure Uuid where
  bits : BitVec 128
deriving DecidableEq

namespace Uuid

/-- The identifier whose bits are those of a number, modulo `2 ^ 128`. -/
def ofNat (n : Nat) : Uuid := ⟨BitVec.ofNat 128 n⟩

/-- The order of the bits as a number, which is also the order of the printed texts. -/
def lt (a b : Uuid) : Bool := decide (a.bits.toNat < b.bits.toNat)

instance : StrictTotal lt where
  trans a b c hab hbc := by
    simp only [lt, decide_eq_true_eq] at *
    omega
  total a b hne h := by
    obtain ⟨a⟩ := a
    obtain ⟨b⟩ := b
    simp only [lt, decide_eq_false_iff_not, decide_eq_true_eq] at *
    have : a.toNat ≠ b.toNat := fun e => hne (by rw [BitVec.eq_of_toNat_eq e])
    omega

/-! ## Printing -/

/-- The lower-case hexadecimal digit of a number below 16. -/
def hexDigit (n : Nat) : Char :=
  if n < 10 then Char.ofNat (48 + n) else Char.ofNat (87 + n)

/-- The last `count` hexadecimal digits of a number. -/
def hexDigits : Nat → Nat → List Char
  | 0, _ => []
  | count + 1, n => hexDigits count (n / 16) ++ [hexDigit (n % 16)]

/-- Cuts digits into hyphenated groups of 8, 4, 4, 4 and 12. -/
def hyphenate (ds : List Char) : List Char :=
  ds.take 8 ++ '-' :: (ds.drop 8).take 4 ++ '-' :: (ds.drop 12).take 4
    ++ '-' :: (ds.drop 16).take 4 ++ '-' :: ds.drop 20

/-- The hyphenated text in lower case. -/
def text (u : Uuid) : String :=
  String.ofList (hyphenate (hexDigits 32 u.bits.toNat))

/-! ## Reading -/

/-- The value of a hexadecimal digit of either case. -/
def hexValue? (c : Char) : Option Nat :=
  let n := c.toNat
  if 48 ≤ n && n ≤ 57 then some (n - 48)
  else if 97 ≤ n && n ≤ 102 then some (n - 87)
  else if 65 ≤ n && n ≤ 70 then some (n - 55)
  else none

/-- The number written by hexadecimal digits. -/
def readHex? (ds : List Char) : Option Nat :=
  ds.foldlM (fun n c => (hexValue? c).map (16 * n + ·)) 0

/-- Thirty-two digits without hyphens. -/
def readSimple? (cs : List Char) : Option Uuid :=
  if cs.length = 32 then (readHex? cs).map ofNat else none

/-- Groups of 8, 4, 4, 4 and 12 digits with hyphens between them. -/
def readHyphenated? (cs : List Char) : Option Uuid :=
  let digits := cs.filter (· ≠ '-')
  if digits.length = 32 ∧ hyphenate digits = cs then readSimple? digits else none

/-- Reads one of the four spellings: plain digits, hyphenated, hyphenated in braces, or hyphenated
    after `urn:uuid:` with letters of any case. -/
def read? (s : String) : Option Uuid :=
  let cs := s.toList
  match cs.length with
  | 32 => readSimple? cs
  | 36 => readHyphenated? cs
  | 38 =>
    if cs.head? = some '\x7b' ∧ cs.getLast? = some '\x7d' then readHyphenated? (cs.drop 1).dropLast
    else none
  | 45 =>
    if (cs.take 9).map Char.toLower = "urn:uuid:".toList then readHyphenated? (cs.drop 9)
    else none
  | _ => none

end Uuid

end Flowchart
