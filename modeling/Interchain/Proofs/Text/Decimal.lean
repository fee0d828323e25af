import Interchain.Proofs.Json.Lexing
import Interchain.Text.Decimal

/-
  Decimal numerals tell their numbers apart.

  A numeral is made of digits, and that of a word takes no
  more than twenty bytes.

  Main statements:
    * `Text.decimal_injective`
    * `Text.isDigit_of_mem_decimal`
    * `Text.utf8ByteSize_decimal`
-/

------------------------------------------------------------
-- Numerals
------------------------------------------------------------

namespace Interchain

namespace Text

/- A number is told by its digits. -/
theorem decimal_injective : Function.Injective decimal := by
  intro a b hSame
  have hDigits : Nat.toDigits 10 a = Nat.toDigits 10 b :=
    String.ofList_injective hSame
  have hRead :=
    congrArg (fun cs => Nat.ofDigitChars 10 cs 0) hDigits
  simpa only [Nat.ofDigitChars_ten_toDigits] using hRead

theorem isDigit_of_mem_decimal
    {n : Nat}
    {c : Char}
    (hMem : c ∈ (decimal n).toList) :
    c.isDigit = true := by
  rw [decimal, String.toList_ofList] at hMem
  exact Nat.isDigit_of_mem_toDigits (by decide) (by decide) hMem

/- Characters of one byte each are counted by their bytes. -/
theorem utf8ByteSize_ofList
    {cs : List Char}
    (hOne : ∀ c ∈ cs, c.utf8Size = 1) :
    (String.ofList cs).utf8ByteSize = cs.length := by
  rw [← String.size_toByteArray, String.toByteArray_ofList,
    List.utf8Encode, List.size_toByteArray, List.length_flatMap]
  simp only [String.length_utf8EncodeChar]
  rw [List.map_congr_left hOne]
  simp

/- A digit takes one byte. -/
theorem utf8ByteSize_decimal (n : Nat) :
    (decimal n).utf8ByteSize = (digits n).length := by
  have hDigit : ∀ d < 10, (Nat.digitChar d).utf8Size = 1 := by
    decide
  apply utf8ByteSize_ofList
  intro c hc
  rcases Json.isDigit_cases
      (Nat.isDigit_of_mem_toDigits (by decide) (by decide) hc)
    with ⟨d, hd, rfl⟩
  exact hDigit d hd

theorem length_digits_pos (n : Nat) : 0 < (digits n).length :=
  Nat.length_toDigits_pos

/- A word has twenty at most. -/
theorem length_digits_le (n : UInt64) :
    (digits n.toNat).length ≤ 20 := by
  rw [digits, Nat.length_toDigits_le_iff (by decide) (by decide)]
  have hWord := n.toNat_lt
  omega

end Text

end Interchain
