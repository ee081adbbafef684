set_option autoImplicit false

/-! # UTF-8

The bytes of a text, and the text that bytes stand for. Bytes that are no UTF-8 are read too: where
a character breaks off, and in place of a byte that can begin none, stands the replacement
character. -/

namespace Flowchart.Text.Utf8

/-- The bytes of a text. -/
def encode (s : String) : List UInt8 := s.toUTF8.toList

/-- The character in place of what cannot be read. -/
def replacement : Char := '\uFFFD'

/-- What has been read: the characters in reverse, the bits of a character that is not complete,
    the number of bytes it still needs, and the range of the next one. -/
structure Decoder where
  reversed : List Char := []
  bits : Nat := 0
  owed : Nat := 0
  low : Nat := 0x80
  high : Nat := 0xBF

namespace Decoder

/-- Adds a character. -/
def push (d : Decoder) (c : Char) : Decoder := { reversed := c :: d.reversed }

/-- The first byte of a character. -/
def begin (d : Decoder) (b : Nat) : Decoder :=
  if b < 0x80 then d.push (Char.ofNat b)
  else if 0xC2 ≤ b && b ≤ 0xDF then { d with bits := b - 0xC0, owed := 1 }
  else if 0xE0 ≤ b && b ≤ 0xEF then
    { d with
      bits := b - 0xE0
      owed := 2
      low := if b = 0xE0 then 0xA0 else 0x80
      high := if b = 0xED then 0x9F else 0xBF }
  else if 0xF0 ≤ b && b ≤ 0xF4 then
    { d with
      bits := b - 0xF0
      owed := 3
      low := if b = 0xF0 then 0x90 else 0x80
      high := if b = 0xF4 then 0x8F else 0xBF }
  else d.push replacement

/-- The next byte. -/
def step (d : Decoder) (b : UInt8) : Decoder :=
  let b := b.toNat
  if d.owed = 0 then d.begin b
  else if d.low ≤ b && b ≤ d.high then
    let bits := d.bits * 64 + (b - 0x80)
    if d.owed = 1 then d.push (Char.ofNat bits)
    else { reversed := d.reversed, bits, owed := d.owed - 1 }
  else (d.push replacement).begin b

/-- The text at the end of the bytes. -/
def finish (d : Decoder) : String :=
  String.ofList ((if d.owed = 0 then d else d.push replacement).reversed.reverse)

end Decoder

/-- The text that bytes stand for. -/
def decode (bytes : List UInt8) : String := (bytes.foldl Decoder.step {}).finish

/-! ## Bytes as characters

Where text is handled byte by byte, each byte is the character with its number. -/

/-- The bytes of a text, each as a character. -/
def spread (s : String) : List Char := (encode s).map fun b => Char.ofNat b.toNat

/-- The text whose bytes are given as characters. -/
def gather (cs : List Char) : String := decode (cs.map fun c => UInt8.ofNat c.toNat)

end Flowchart.Text.Utf8
