import Interchain.Channel.Sequence
import Mathlib.Order.Defs.LinearOrder
import Mathlib.Order.Lattice

/-
  The order of sequence numbers, and how counting respects it.

  Main statements:
    * `Sequence.lt_next`
    * `Sequence.le_previous_of_lt`
    * `Sequence.next_previous`
-/

------------------------------------------------------------
-- Order
------------------------------------------------------------

namespace Interchain

namespace Sequence

/- Sequences are ordered as the numbers that they are. -/
theorem le_iff_toNat_le {a b : Sequence} :
    a ≤ b ↔ a.number.toNat ≤ b.number.toNat :=
  UInt64.le_iff_toNat_le

theorem lt_iff_toNat_lt {a b : Sequence} :
    a < b ↔ a.number.toNat < b.number.toNat :=
  UInt64.lt_iff_toNat_lt

theorem eq_of_toNat_eq
    {a b : Sequence}
    (h : a.number.toNat = b.number.toNat) :
    a = b := by
  cases a
  cases b
  exact congrArg Sequence.mk (UInt64.toNat_inj.mp h)

instance : LinearOrder Sequence where
  le_refl a := by
    rw [le_iff_toNat_le]
  le_trans a b c := by
    simp only [le_iff_toNat_le]
    omega
  lt_iff_le_not_ge a b := by
    simp only [le_iff_toNat_le, lt_iff_toNat_lt]
    omega
  le_antisymm a b hab hba := by
    rw [le_iff_toNat_le] at hab hba
    exact eq_of_toNat_eq (by omega)
  le_total a b := by
    simp only [le_iff_toNat_le]
    omega
  toDecidableLE := inferInstance
  toDecidableEq := inferInstance
  toDecidableLT := inferInstance
  max_def a b := rfl
  compare_eq_compareOfLessAndEq a b := by
    change compare a.number b.number = _
    rw [compareOfLessAndEq]
    split
    case isTrue h =>
      exact Std.compare_eq_lt.mpr h
    case isFalse hLess =>
      split
      case isTrue hEq =>
        rw [hEq]
        exact Std.ReflCmp.compare_self
      case isFalse hNe =>
        apply Std.compare_eq_gt.mpr
        rw [lt_iff_toNat_lt] at hLess
        rw [UInt64.lt_iff_toNat_lt]
        have hNat : a.number.toNat ≠ b.number.toNat :=
          fun h => hNe (eq_of_toNat_eq h)
        omega

end Sequence

end Interchain

------------------------------------------------------------
-- Counting
------------------------------------------------------------

namespace Interchain

namespace Sequence

/- The next number is one more, up to the greatest. -/
theorem toNat_next (a : Sequence) :
    a.next.number.toNat =
      min (a.number.toNat + 1) (UInt64.size - 1) :=
  Word.toNat_add a.number 1

/- The previous number is one less, down to zero. -/
theorem toNat_previous (a : Sequence) :
    a.previous.number.toNat = a.number.toNat - 1 :=
  Word.toNat_pred a.number

theorem le_next (a : Sequence) : a ≤ a.next := by
  rw [le_iff_toNat_le, toNat_next, UInt64.size]
  have hBound := a.number.toNat_lt
  omega

theorem previous_le (a : Sequence) : a.previous ≤ a := by
  rw [le_iff_toNat_le, toNat_previous]
  omega

/- A sequence that is not the greatest can be counted up. -/
theorem toNat_next_of_ne_greatest
    {a : Sequence}
    (h : a.number ≠ Word.greatest) :
    a.next.number.toNat = a.number.toNat + 1 := by
  have hNat : a.number.toNat ≠ Word.greatest.toNat :=
    fun hEq => h (UInt64.toNat_inj.mp hEq)
  have hValue : Word.greatest.toNat = UInt64.size - 1 := rfl
  have hBound := a.number.toNat_lt
  rw [hValue, UInt64.size] at hNat
  rw [toNat_next, UInt64.size]
  omega

/- Only the greatest number has none after it. -/
theorem lt_next_of_ne_greatest
    {a : Sequence}
    (h : a.number ≠ Word.greatest) :
    a < a.next := by
  rw [lt_iff_toNat_lt, toNat_next_of_ne_greatest h]
  omega

/- No sequence is past the greatest word. -/
theorem le_of_number_eq_greatest
    {a b : Sequence}
    (h : b.number = Word.greatest) :
    a ≤ b := by
  have hValue : Word.greatest.toNat = UInt64.size - 1 := rfl
  have hBound := a.number.toNat_lt
  rw [UInt64.size] at hValue
  rw [le_iff_toNat_le, h]
  omega

/- What comes before a sequence below the greatest word is
   below it too. -/
theorem number_ne_greatest_of_le
    {a b : Sequence}
    (hLe : a ≤ b)
    (hLimit : b.number ≠ Word.greatest) :
    a.number ≠ Word.greatest := by
  intro hGreatest
  apply hLimit
  apply UInt64.toNat_inj.mp
  have hBound := b.number.toNat_lt
  rw [Sequence.le_iff_toNat_le, hGreatest] at hLe
  have hValue : Word.greatest.toNat = UInt64.size - 1 := rfl
  rw [UInt64.size] at hValue
  omega

/- A sequence below the greatest word was counted up. -/
theorem lt_next
    {a : Sequence}
    (h : a.next.number ≠ Word.greatest) :
    a < a.next :=
  lt_next_of_ne_greatest (number_ne_greatest_of_le a.le_next h)

/- What lies before a number is not after the one before it. -/
theorem le_previous_of_lt
    {a b : Sequence}
    (h : a < b) :
    a ≤ b.previous := by
  rw [lt_iff_toNat_lt] at h
  rw [le_iff_toNat_le, toNat_previous]
  omega

/- What is before the next sequence is not past the sequence
   itself. -/
theorem le_of_lt_next
    {a b : Sequence}
    (h : a < b.next) :
    a ≤ b := by
  rw [lt_iff_toNat_lt, toNat_next, UInt64.size] at h
  rw [le_iff_toNat_le]
  omega

/- A number with one before it follows that one. -/
theorem next_previous
    {a b : Sequence}
    (h : a < b) :
    b.previous.next = b := by
  apply eq_of_toNat_eq
  rw [lt_iff_toNat_lt] at h
  rw [toNat_next, toNat_previous, UInt64.size]
  have hBound := b.number.toNat_lt
  omega

/- Nothing lies between a sequence and its next one, unless
   the sequence is the greatest. -/
theorem eq_of_le_of_next_le
    {a b : Sequence}
    (hLe : b ≤ a)
    (hNext : a.next ≤ b) :
    a.next = b := by
  apply eq_of_toNat_eq
  rw [le_iff_toNat_le] at hLe
  rw [le_iff_toNat_le, toNat_next, UInt64.size] at hNext
  rw [toNat_next, UInt64.size]
  have hBound := a.number.toNat_lt
  omega

end Sequence

end Interchain
