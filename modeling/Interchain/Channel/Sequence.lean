import Interchain.Json.Recorded
import Interchain.Order
import Interchain.Text.Decimal
import Interchain.Word

/-
  Sequence numbers of packets and of upgrade attempts.

  They count up to the greatest word and stay there.

  Main declarations:
    * `Sequence`
-/

------------------------------------------------------------
-- Sequence Numbers
------------------------------------------------------------

namespace Interchain

/- The number of a packet, or of an attempt. -/
structure Sequence where
  number : UInt64
  deriving DecidableEq

namespace Sequence

/- The number before the first. -/
def zero : Sequence := ⟨0⟩

/- Nothing was counted yet. -/
def isZero (s : Sequence) : Bool := s == zero

/- Counting on stops at the greatest number. -/
def add (s : Sequence) (n : UInt64) : Sequence :=
  ⟨Word.add s.number n⟩

/- The number that follows, which is the same at the end. -/
def next (s : Sequence) : Sequence := s.add 1

/- The sequence before, and zero for zero. -/
def previous (s : Sequence) : Sequence :=
  ⟨Word.pred s.number⟩

instance : LT Sequence where
  lt a b := a.number < b.number

instance : LE Sequence where
  le a b := a.number ≤ b.number

instance (a b : Sequence) : Decidable (a < b) :=
  inferInstanceAs (Decidable (a.number < b.number))

instance (a b : Sequence) : Decidable (a ≤ b) :=
  inferInstanceAs (Decidable (a.number ≤ b.number))

/- The greater of two sequences. -/
instance : Max Sequence where
  max a b := if a ≤ b then b else a

instance : Ord Sequence where
  compare := compareOn Sequence.number

instance : Std.TransOrd Sequence :=
  inferInstanceAs (Std.TransCmp (compareOn Sequence.number))

instance : Std.LawfulEqOrd Sequence :=
  lawfulEqCmp_compareOn fun a b h => by
    cases a
    cases b
    simp_all

end Sequence

end Interchain

------------------------------------------------------------
-- Written Sequences
------------------------------------------------------------

namespace Interchain

namespace Sequence

/- A sequence is read from its digits. -/
def ofText (s : String) : Except NumeralError Sequence :=
  (Text.readWord s).map Sequence.mk

/- The digits of a sequence. -/
def display (s : Sequence) : String :=
  Text.decimal s.number.toNat

/- The record of a sequence. -/
def toJson (s : Sequence) : Json := .ofWord s.number

/- The sequence that a record gives. -/
def ofJson? (value : Json) : Option Sequence :=
  value.word?.map Sequence.mk

instance : Recorded Sequence := ⟨toJson, ofJson?⟩

end Sequence

end Interchain
