/-
  Byte strings and their readings as text.

  `Bytes.text?` reads well-formed UTF-8 only.
  `Bytes.lossyText` reads any bytes: each maximal run of bytes
  that starts a character without completing it, and each byte
  that starts none, becomes one replacement character.

  Main declarations:
    * `utf8`
    * `Bytes.text?`
    * `Bytes.lossyText`
    * `bigEndian`
-/

------------------------------------------------------------
-- Text to Bytes
------------------------------------------------------------

namespace Interchain

/- A string of octets. -/
abbrev Bytes := List UInt8

/- The UTF-8 encoding of a text. -/
def utf8 (s : String) : Bytes :=
  s.toUTF8.data.toList

/- The eight bytes of a word, most significant first. -/
def bigEndian (w : UInt64) : Bytes :=
  [ (w >>> 56).toUInt8, (w >>> 48).toUInt8,
    (w >>> 40).toUInt8, (w >>> 32).toUInt8,
    (w >>> 24).toUInt8, (w >>> 16).toUInt8,
    (w >>> 8).toUInt8, w.toUInt8 ]

theorem length_bigEndian (w : UInt64) :
    (bigEndian w).length = 8 := rfl

end Interchain

------------------------------------------------------------
-- Bytes to Text
------------------------------------------------------------

namespace Interchain

namespace Bytes

/- The text that the bytes encode, if they encode one. -/
def text? (bytes : Bytes) : Option String :=
  String.fromUTF8? ⟨bytes.toArray⟩

/- The character that stands for bytes that encode none. -/
def replacement : Char := '\uFFFD'

/-
  A character of which some bytes were seen: how many are
  missing after the next one, the bits seen so far, and the
  range in which the next byte lies.
-/
structure Pending where
  missing : Nat
  value : Nat
  low : UInt8
  high : UInt8

/-
  The first byte of a character.  The ranges for the second
  byte leave out overlong forms, surrogates, and code points
  past the last one.
-/
def start (b : UInt8) : List Char × Option Pending :=
  if b < 0x80 then ([Char.ofNat b.toNat], none)
  else if b < 0xC2 then ([replacement], none)
  else if b < 0xE0 then
    ([], some ⟨0, b.toNat - 0xC0, 0x80, 0xBF⟩)
  else if b = 0xE0 then ([], some ⟨1, 0, 0xA0, 0xBF⟩)
  else if b = 0xED then ([], some ⟨1, 0xD, 0x80, 0x9F⟩)
  else if b < 0xF0 then
    ([], some ⟨1, b.toNat - 0xE0, 0x80, 0xBF⟩)
  else if b = 0xF0 then ([], some ⟨2, 0, 0x90, 0xBF⟩)
  else if b < 0xF4 then
    ([], some ⟨2, b.toNat - 0xF0, 0x80, 0xBF⟩)
  else if b = 0xF4 then ([], some ⟨2, 4, 0x80, 0x8F⟩)
  else ([replacement], none)

/- The characters that one more byte decides. -/
def advance :
    Option Pending → UInt8 → List Char × Option Pending
  | none, b => start b
  | some p, b =>
      if p.low ≤ b && b ≤ p.high then
        let value := p.value * 64 + (b.toNat - 0x80)
        match p.missing with
        | 0 => ([Char.ofNat value], none)
        | n + 1 => ([], some ⟨n, value, 0x80, 0xBF⟩)
      else
        (replacement :: (start b).1, (start b).2)

/- The characters of the bytes that follow pending ones. -/
def lossyChars : Option Pending → Bytes → List Char
  | none, [] => []
  | some _, [] => [replacement]
  | pending, b :: rest =>
      (advance pending b).1 ++
        lossyChars (advance pending b).2 rest

/- The bytes read as text, whatever they hold. -/
def lossyText (bytes : Bytes) : String :=
  String.ofList (lossyChars none bytes)

end Bytes

end Interchain
