import Flowchart.Java.Literal
import Flowchart.Proofs.Success

set_option autoImplicit false

/-! # Unicode escapes and string literals

Java translates the Unicode escapes of a source text before it looks at anything else, so a
backslash in a string literal is read twice: it can start a Unicode escape, and what is left can
start an escape sequence of the literal. A backslash starts a Unicode escape only behind an even
number of other backslashes. Every escaped character leaves the reader behind an even number of
backslashes again, and so a literal is read back as the text that was written. -/

namespace Flowchart.Java

/-! ## Code units -/

/-- A UTF-16 code unit. -/
abbrev CodeUnit := Nat

/-- The code units of a character: its code point, or two surrogates. -/
def codeUnits (c : Char) : List CodeUnit :=
  if c.toNat < 0x10000 then [c.toNat]
  else [0xD800 + (c.toNat - 0x10000) / 0x400, 0xDC00 + (c.toNat - 0x10000) % 0x400]

/-- The value that a text has as a Java string. -/
def utf16 (s : String) : List CodeUnit := s.toList.flatMap codeUnits

/-! ## Unicode escapes -/

/-- A character of a source text once Unicode escapes are recognized: it stands there itself, or an
    escape stands there for a code unit. -/
inductive InputChar where
  | raw (c : Char)
  | escape (unit : CodeUnit)
deriving DecidableEq

/-- The code units that an input character is translated to. -/
def InputChar.units : InputChar → List CodeUnit
  | .raw c => codeUnits c
  | .escape unit => [unit]

/-- The value of a hexadecimal digit of either case. -/
def hexDigit? (c : Char) : Option Nat :=
  if '0' ≤ c ∧ c ≤ '9' then some (c.toNat - '0'.toNat)
  else if 'a' ≤ c ∧ c ≤ 'f' then some (c.toNat - 'a'.toNat + 10)
  else if 'A' ≤ c ∧ c ≤ 'F' then some (c.toNat - 'A'.toNat + 10)
  else none

/-- Where in a source text the reader of Unicode escapes is. -/
inductive EscapeState where
  /-- Behind an even number of backslashes. -/
  | outside
  /-- Behind a backslash that starts an escape if it is followed by `u`. -/
  | opened
  /-- Behind such a backslash and some `u`. -/
  | marked
  /-- Inside the digits: so many are missing besides the next one, and those read have a value. -/
  | digits (missing : Nat) (value : Nat)

/-- The input characters of a source text; there are none if an escape is malformed. A backslash
    that starts no escape makes the number of backslashes before the next character odd, so that
    this one starts no escape either, whatever it is. -/
def inputChars : EscapeState → List Char → Option (List InputChar)
  | .outside, [] => some []
  | .opened, [] => some [.raw '\\']
  | .marked, [] => none
  | .digits _ _, [] => none
  | .outside, c :: rest =>
    if c = '\\' then inputChars .opened rest
    else (inputChars .outside rest).map (.raw c :: ·)
  | .opened, c :: rest =>
    if c = 'u' then inputChars .marked rest
    else (inputChars .outside rest).map fun cs => .raw '\\' :: .raw c :: cs
  | .marked, c :: rest =>
    if c = 'u' then inputChars .marked rest
    else (hexDigit? c).bind fun d => inputChars (.digits 2 d) rest
  | .digits 0 value, c :: rest =>
    (hexDigit? c).bind fun d => (inputChars .outside rest).map (.escape (16 * value + d) :: ·)
  | .digits (missing + 1) value, c :: rest =>
    (hexDigit? c).bind fun d => inputChars (.digits missing (16 * value + d)) rest

/-- The code units of a source text with its Unicode escapes translated. -/
def translate (text : List Char) : Option (List CodeUnit) :=
  (inputChars .outside text).map fun cs => cs.flatMap InputChar.units

/-- The second backslash of two is no start of an escape. -/
example : (translate "\\\\u2122=\\u2122".toList)
    = some ("\\\\u2122=\u2122".toList.map Char.toNat) := by decide

/-! ## String literals -/

/-- The code unit that an escape sequence stands for, by what follows its backslash. -/
def escapeSequence? (unit : CodeUnit) : Option CodeUnit :=
  if unit = '"'.toNat then some '"'.toNat
  else if unit = '\\'.toNat then some '\\'.toNat
  else if unit = 'n'.toNat then some '\n'.toNat
  else if unit = 'r'.toNat then some '\r'.toNat
  else if unit = 't'.toNat then some '\t'.toNat
  else none

/-- The value of a string literal behind its opening quote, and what is left behind the closing
    one. -/
def readString : List CodeUnit → Option (List CodeUnit × List CodeUnit)
  | [] => none
  | unit :: rest =>
    if unit = '"'.toNat then some ([], rest)
    else if unit = '\n'.toNat ∨ unit = '\r'.toNat then none
    else if unit = '\\'.toNat then
      match rest with
      | [] => none
      | next :: rest =>
        (escapeSequence? next).bind fun v => (readString rest).map fun r => (v :: r.1, r.2)
    else (readString rest).map fun r => (unit :: r.1, r.2)

/-- The value of the string literal that a source text starts with, and what is left behind it. -/
def lexString (source : String) : Option (List CodeUnit × List CodeUnit) :=
  (translate source.toList).bind fun units =>
    match units with
    | [] => none
    | unit :: rest => if unit = '"'.toNat then readString rest else none

/-! ## Code units determine characters -/

theorem toNat_not_surrogate (c : Char) :
    c.toNat < 0xD800 ∨ 0xDFFF < c.toNat ∧ c.toNat < 0x110000 := by
  have hvalid : c.toNat.isValidChar := c.valid
  unfold Nat.isValidChar at hvalid
  omega

theorem codeUnits_append_inj {c c' : Char} {l l' : List CodeUnit}
    (h : codeUnits c ++ l = codeUnits c' ++ l') : c = c' ∧ l = l' := by
  have hc := toNat_not_surrogate c
  have hc' := toNat_not_surrogate c'
  -- the first unit is a surrogate exactly if there are two
  have hnat : c.toNat = c'.toNat ∧ l = l' := by
    by_cases hone : c.toNat < 0x10000 <;> by_cases hone' : c'.toNat < 0x10000
    · simpa [codeUnits, hone, hone'] using h
    · have hhead : c.toNat = 0xD800 + (c'.toNat - 0x10000) / 0x400 := by
        simp only [codeUnits, if_pos hone, if_neg hone', List.cons_append, List.cons.injEq] at h
        exact h.1
      omega
    · have hhead : 0xD800 + (c.toNat - 0x10000) / 0x400 = c'.toNat := by
        simp only [codeUnits, if_neg hone, if_pos hone', List.cons_append, List.cons.injEq] at h
        exact h.1
      omega
    · simp only [codeUnits, if_neg hone, if_neg hone', List.cons_append, List.nil_append,
        List.cons.injEq] at h
      obtain ⟨hhigh, hlow, hrest⟩ := h
      have hsum : c.toNat - 0x10000 = c'.toNat - 0x10000 := by
        rw [← Nat.div_add_mod (c.toNat - 0x10000) 0x400,
          ← Nat.div_add_mod (c'.toNat - 0x10000) 0x400, Nat.add_left_cancel hhigh,
          Nat.add_left_cancel hlow]
      exact ⟨by omega, hrest⟩
  exact ⟨Char.toNat_inj.1 hnat.1, hnat.2⟩

theorem codeUnits_ne_nil (c : Char) : codeUnits c ≠ [] := by
  unfold codeUnits
  split
  · simp
  · simp

theorem utf16_injective : Function.Injective utf16 := by
  intro s s' h
  have hlists : ∀ l l' : List Char, l.flatMap codeUnits = l'.flatMap codeUnits → l = l' := by
    intro l
    induction l with
    | nil =>
      intro l' h
      cases l' with
      | nil => rfl
      | cons c rest => simp [codeUnits_ne_nil] at h
    | cons c rest ih =>
      intro l' h
      cases l' with
      | nil => simp [codeUnits_ne_nil] at h
      | cons c' rest' =>
        obtain ⟨rfl, hrest⟩ := codeUnits_append_inj (by simpa using h)
        rw [ih rest' hrest]
  exact String.toList_inj.1 (hlists _ _ h)

/-! ## Reading escaped characters back -/

/-- What a character is escaped as: itself, a backslash and a letter, or a Unicode escape. -/
theorem escape_cases (c : Char) :
    (∃ letter, letter ≠ 'u' ∧ escape c = ['\\', letter] ∧ letter.toNat < 0x10000
        ∧ escapeSequence? letter.toNat = some c.toNat ∧ c.toNat < 0x10000)
      ∨ (c.toNat < 0x20 ∨ 0x7F ≤ c.toNat ∧ c.toNat ≤ 0x9F)
        ∧ escape c = '\\' :: 'u' :: fourHexDigits c.toNat
      ∨ (c ≠ '"' ∧ c ≠ '\n' ∧ c ≠ '\r' ∧ c ≠ '\\') ∧ escape c = [c] := by
  unfold escape
  split
  case h_1 => exact .inl ⟨'"', by decide⟩
  case h_2 => exact .inl ⟨'\\', by decide⟩
  case h_3 => exact .inl ⟨'n', by decide⟩
  case h_4 => exact .inl ⟨'r', by decide⟩
  case h_5 => exact .inl ⟨'t', by decide⟩
  case h_6 hquote hbackslash hbreak hreturn htab =>
    by_cases hcontrol : Text.isControl c = true
    · rw [if_pos hcontrol]
      exact .inr (.inl ⟨by simpa [Text.isControl] using hcontrol, rfl⟩)
    · rw [if_neg hcontrol]
      exact .inr (.inr ⟨⟨hquote, hbreak, hreturn, hbackslash⟩, rfl⟩)

theorem hexDigit?_digitChar : ∀ d < 16, hexDigit? (Nat.digitChar d) = some d := by decide

theorem digitChar_ne_u : ∀ d < 16, Nat.digitChar d ≠ 'u' := by decide

theorem inputChars_fourHexDigits {n : Nat} (hn : n < 0x10000) (rest : List Char) :
    inputChars .marked (fourHexDigits n ++ rest)
      = (inputChars .outside rest).map (.escape n :: ·) := by
  have hu := digitChar_ne_u (n / 4096 % 16) (Nat.mod_lt _ (by decide))
  have hvalue : 16 * (16 * (16 * (n / 4096 % 16) + n / 256 % 16) + n / 16 % 16) + n % 16 = n := by
    omega
  simp only [fourHexDigits, List.cons_append, List.nil_append, inputChars, if_neg hu,
    hexDigit?_digitChar _ (Nat.mod_lt _ (by decide : 0 < 16)), Option.bind_some, hvalue]

theorem readString_plain {unit : CodeUnit} (rest : List CodeUnit)
    (h : unit ≠ '"'.toNat ∧ unit ≠ '\n'.toNat ∧ unit ≠ '\r'.toNat ∧ unit ≠ '\\'.toNat) :
    readString (unit :: rest) = (readString rest).map fun r => (unit :: r.1, r.2) := by
  obtain ⟨hquote, hbreak, hreturn, hbackslash⟩ := h
  rw [readString.eq_def]
  simp only [if_neg hquote, if_neg (not_or.2 ⟨hbreak, hreturn⟩), if_neg hbackslash]

theorem readString_escape {next v : CodeUnit} (rest : List CodeUnit)
    (h : escapeSequence? next = some v) :
    readString ('\\'.toNat :: next :: rest)
      = (readString rest).map fun r => (v :: r.1, r.2) := by
  rw [readString.eq_def]
  simp [h]

/-- A character whose code units are no delimiters goes on a literal as itself. -/
theorem readString_codeUnits {c : Char} (rest : List CodeUnit)
    (h : c ≠ '"' ∧ c ≠ '\n' ∧ c ≠ '\r' ∧ c ≠ '\\') :
    readString (codeUnits c ++ rest)
      = (readString rest).map fun r => (codeUnits c ++ r.1, r.2) := by
  by_cases hone : c.toNat < 0x10000
  · have hplain : c.toNat ≠ '"'.toNat ∧ c.toNat ≠ '\n'.toNat ∧ c.toNat ≠ '\r'.toNat
        ∧ c.toNat ≠ '\\'.toNat := by
      simpa only [ne_eq, Char.toNat_inj] using h
    simp only [codeUnits, if_pos hone, List.cons_append, List.nil_append,
      readString_plain rest hplain]
  · have hsurrogate : ∀ unit, 0xD800 ≤ unit → unit ≠ '"'.toNat ∧ unit ≠ '\n'.toNat
        ∧ unit ≠ '\r'.toNat ∧ unit ≠ '\\'.toNat := by
      intro unit hunit
      refine ⟨?_, ?_, ?_, ?_⟩ <;> exact Nat.ne_of_gt (Nat.lt_of_lt_of_le (by decide) hunit)
    simp only [codeUnits, if_neg hone, List.cons_append, List.nil_append]
    rw [readString_plain _ (hsurrogate _ (by omega)),
      readString_plain _ (hsurrogate _ (by omega)), Option.map_map]
    rfl

/-- Reading on behind an escaped character: the reader is behind an even number of backslashes
    again, and the literal has gone on with the code units of the character. -/
theorem escape_read (c : Char) : ∃ cs : List InputChar,
    (∀ rest, inputChars .outside (escape c ++ rest) = (inputChars .outside rest).map (cs ++ ·))
      ∧ ∀ units, readString (cs.flatMap InputChar.units ++ units)
        = (readString units).map fun r => (codeUnits c ++ r.1, r.2) := by
  obtain ⟨letter, hu, hescape, hletter, hvalue⟩ | ⟨hcontrol, hescape⟩ |
    ⟨hplain, hescape⟩ := escape_cases c
  · refine ⟨[.raw '\\', .raw letter], ?_, ?_⟩
    · intro rest
      simp [hescape, inputChars, hu]
    · intro units
      have hunits : [InputChar.raw '\\', .raw letter].flatMap InputChar.units ++ units
          = '\\'.toNat :: letter.toNat :: units := by
        simp [InputChar.units, codeUnits, hletter]
      rw [hunits, readString_escape units hvalue.1, codeUnits, if_pos hvalue.2]
      rfl
  · have hsmall : c.toNat < 0x10000 := by omega
    refine ⟨[.escape c.toNat], ?_, ?_⟩
    · intro rest
      simpa [hescape, inputChars] using inputChars_fourHexDigits hsmall rest
    · intro units
      have hplain : c ≠ '"' ∧ c ≠ '\n' ∧ c ≠ '\r' ∧ c ≠ '\\' := by
        refine ⟨?_, ?_, ?_, ?_⟩ <;> rintro rfl
        · revert hcontrol; decide
        · revert hescape; decide
        · revert hescape; decide
        · revert hcontrol; decide
      have hunits : [InputChar.escape c.toNat].flatMap InputChar.units = codeUnits c := by
        simp [InputChar.units, codeUnits, hsmall]
      rw [hunits, readString_codeUnits units hplain]
  · refine ⟨[.raw c], ?_, ?_⟩
    · intro rest
      simp [hescape, inputChars, hplain.2.2.2]
    · intro units
      simpa [InputChar.units] using readString_codeUnits units hplain

/-- The literal of a text, its Unicode escapes translated, is read back up to the closing quote. -/
theorem escape_read_all (text : List Char) : ∃ cs : List InputChar,
    (∀ rest, inputChars .outside (text.flatMap escape ++ rest)
        = (inputChars .outside rest).map (cs ++ ·))
      ∧ ∀ units, readString (cs.flatMap InputChar.units ++ units)
        = (readString units).map fun r => (text.flatMap codeUnits ++ r.1, r.2) := by
  induction text with
  | nil => exact ⟨[], by simp, by simp⟩
  | cons c text ih =>
    obtain ⟨first, hfirst, hread⟩ := escape_read c
    obtain ⟨others, hothers, hreadAll⟩ := ih
    refine ⟨first ++ others, ?_, ?_⟩
    · intro rest
      simp [List.append_assoc, hfirst, hothers, Function.comp_def]
    · intro units
      simp [List.append_assoc, hread, hreadAll, Function.comp_def]

/-- A string literal of a text is lexed as that one literal, with nothing left over. -/
theorem lexString_stringLiteral (s : String) :
    lexString (stringLiteral s) = some (utf16 s, []) := by
  obtain ⟨cs, htranslate, hread⟩ := escape_read_all s.toList
  have hunits : translate (stringLiteral s).toList
      = some ('"'.toNat :: (cs.flatMap InputChar.units ++ ['"'.toNat])) := by
    have hopening : (stringLiteral s).toList = '"' :: (s.toList.flatMap escape ++ ['"']) := by
      simp [stringLiteral]
    simp [translate, hopening, inputChars, htranslate, InputChar.units, codeUnits]
  simp only [lexString, hunits, Option.bind_some, if_pos, hread]
  simp [readString, utf16]

/-- Reading a literal back tells which text was written. -/
theorem lexString_stringLiteral_iff (s s' : String) :
    lexString (stringLiteral s) = some (utf16 s', []) ↔ s' = s := by
  rw [lexString_stringLiteral]
  constructor
  · intro h
    exact utf16_injective (by simpa using h.symm)
  · rintro rfl
    rfl

end Flowchart.Java
