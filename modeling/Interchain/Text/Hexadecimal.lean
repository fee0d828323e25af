import Interchain.Bytes

/-
  Hexadecimal numerals of bytes.

  A byte is written with two digits, the higher half first,
  in lower case; digits of either case are read.

  Main declarations:
    * `Text.hexDigit?`
    * `Bytes.hex`
    * `Bytes.ofHex?`

  Main statements:
    * `Bytes.ofHex?_hex`
-/

------------------------------------------------------------
-- Digits
------------------------------------------------------------

namespace Interchain

namespace Text

/- The value of a hexadecimal digit. -/
def hexDigit? (c : Char) : Option Nat :=
  if '0' ≤ c ∧ c ≤ '9' then some (c.toNat - '0'.toNat)
  else if 'a' ≤ c ∧ c ≤ 'f' then
    some (c.toNat - 'a'.toNat + 10)
  else if 'A' ≤ c ∧ c ≤ 'F' then
    some (c.toNat - 'A'.toNat + 10)
  else none

/- The digit of each half byte reads back. -/
theorem hexDigit?_digitChar
    {n : Nat}
    (h : n < 16) :
    hexDigit? (Nat.digitChar n) = some n := by
  revert n
  decide

end Text

end Interchain

------------------------------------------------------------
-- Bytes
------------------------------------------------------------

namespace Interchain

namespace Bytes

/- The two digits of each byte. -/
def hexDigits (bytes : Bytes) : List Char :=
  bytes.flatMap fun b =>
    [Nat.digitChar (b.toNat / 16), Nat.digitChar (b.toNat % 16)]

/- The hexadecimal numeral of bytes. -/
def hex (bytes : Bytes) : String :=
  String.ofList bytes.hexDigits

/- The bytes that an even number of digits spells. -/
def ofHexDigits? : List Char → Option Bytes
  | [] => some []
  | [_] => none
  | high :: low :: rest => do
      let byte :=
        (← Text.hexDigit? high) * 16 + (← Text.hexDigit? low)
      return UInt8.ofNat byte :: (← ofHexDigits? rest)

/- Read a hexadecimal numeral of bytes. -/
def ofHex? (s : String) : Option Bytes :=
  ofHexDigits? s.toList

/- What is written reads back. -/
theorem ofHexDigits?_hexDigits (bytes : Bytes) :
    ofHexDigits? bytes.hexDigits = some bytes := by
  induction bytes with
  | nil => rfl
  | cons b rest ih =>
      have hByte : b.toNat < 256 := b.toNat_lt
      have hHigh :=
        Text.hexDigit?_digitChar (n := b.toNat / 16)
          (by omega)
      have hLow :=
        Text.hexDigit?_digitChar (n := b.toNat % 16)
          (by omega)
      have hSum :
          UInt8.ofNat (b.toNat / 16 * 16 + b.toNat % 16) = b := by
        rw [Nat.div_add_mod', UInt8.ofNat_toNat]
      have hStep :
          hexDigits (b :: rest) =
            Nat.digitChar (b.toNat / 16) ::
              Nat.digitChar (b.toNat % 16) ::
                hexDigits rest := rfl
      rw [hStep, ofHexDigits?, hHigh, hLow, ih]
      exact congrArg (fun b => some (b :: rest)) hSum

/- A numeral reads back. -/
theorem ofHex?_hex (bytes : Bytes) :
    ofHex? bytes.hex = some bytes := by
  simp [ofHex?, hex, ofHexDigits?_hexDigits]

end Bytes

end Interchain
