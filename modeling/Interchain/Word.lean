/-
  Arithmetic of 64-bit words that stops at the ends of the
  range instead of wrapping around.

  Main declarations:
    * `Word.add`
    * `Word.pred`
-/

------------------------------------------------------------
-- Bounded Arithmetic
------------------------------------------------------------

namespace Interchain

namespace Word

/- The greatest word. -/
def greatest : UInt64 := 0xFFFFFFFFFFFFFFFF

/- A sum that stops at the greatest word. -/
def add (a b : UInt64) : UInt64 :=
  if a.toNat + b.toNat < UInt64.size then a + b else greatest

/- The word before, and zero for zero. -/
def pred (a : UInt64) : UInt64 :=
  if a = 0 then 0 else a - 1

/- A sum stops at the greatest word. -/
theorem toNat_add (a b : UInt64) :
    (add a b).toNat = min (a.toNat + b.toNat) (UInt64.size - 1) := by
  unfold add UInt64.size
  split
  · rename_i h
    rw [UInt64.toNat_add]
    omega
  · have : greatest.toNat = 0xFFFFFFFFFFFFFFFF := rfl
    omega

/- The word before zero is zero. -/
theorem toNat_pred (a : UInt64) :
    (pred a).toNat = a.toNat - 1 := by
  unfold pred
  split
  · rename_i h
    subst h
    rfl
  · rename_i h
    have hPos : a.toNat ≠ 0 := fun hZero =>
      h (UInt64.toNat_inj.mp hZero)
    have hOne : (1 : UInt64).toNat = 1 := rfl
    rw [UInt64.toNat_sub_of_le]
    · omega
    · rw [UInt64.le_iff_toNat_le]
      omega

end Word

end Interchain
