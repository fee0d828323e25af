import Interchain.Proofs.Commitment.Reading
import Interchain.Proofs.Time.Addition

/-
  Timestamps as words of nanoseconds.

  A timestamp that was built from a word counts that word, and
  no other timestamp is counted faithfully: an instant before
  1970 or in a leap second is confused with another one, and
  the count of an instant after the year 2554 does not fit.

  Main declarations:
    * `Timestamp.count`
    * `Timestamp.IsFaithful`

  Main statements:
    * `Timestamp.nanoseconds_ofNanoseconds`
    * `Timestamp.isFaithful_iff`
-/

------------------------------------------------------------
-- Counting
------------------------------------------------------------

namespace Interchain

/- The nanoseconds since 1970, in numbers without an end.  No
   seconds are counted before 1970. -/
def Instant.count (i : Instant) : Nat :=
  i.seconds.toNat * Span.nanosPerSecond + i.nanos

/- An instant counts the nanoseconds that it is made of. -/
theorem Instant.count_ofNanoseconds (n : Nat) :
    (ofNanoseconds n).count = n := by
  simp only [count, ofNanoseconds, Span.nanosPerSecond]
  omega

namespace Timestamp

/- The count that a word has to hold. -/
def count (t : Timestamp) : Nat :=
  match t.time with
  | none => 0
  | some i => i.count

/- A word counts them up to its size. -/
theorem toNat_nanoseconds (t : Timestamp) :
    t.nanoseconds.toNat = t.count % UInt64.size := by
  rcases t with ⟨_ | i⟩
  · rfl
  · change
      (UInt64.ofNat i.seconds.toNat * 1000000000 +
          UInt64.ofNat i.nanos).toNat =
        i.count % UInt64.size
    rw [UInt64.toNat_add, UInt64.toNat_mul,
      UInt64.toNat_ofNat', UInt64.toNat_ofNat',
      Instant.count, Span.nanosPerSecond]
    simp only [UInt64.toNat_ofNat, UInt64.size]
    omega

theorem count_ofNanoseconds (n : UInt64) :
    (ofNanoseconds n).count = n.toNat := by
  unfold ofNanoseconds
  split
  case isTrue hZero =>
    rw [hZero]
    rfl
  case isFalse => exact Instant.count_ofNanoseconds n.toNat

@[simp] theorem nanoseconds_ofNanoseconds (n : UInt64) :
    (ofNanoseconds n).nanoseconds = n := by
  rw [← UInt64.toNat_inj, toNat_nanoseconds,
    count_ofNanoseconds]
  exact Nat.mod_eq_of_lt n.toNat_lt

end Timestamp

end Interchain

------------------------------------------------------------
-- Faithful Timestamps
------------------------------------------------------------

namespace Interchain

namespace Instant

/- What is made of nanoseconds lies that far after the epoch. -/
theorem position_ofNanoseconds (n : Nat) :
    (ofNanoseconds n).position = n := by
  simp only [position, ofNanoseconds, Span.nanosPerSecond]
  omega

/- From 1970 on, and outside a leap second, the position tells
   the instant. -/
theorem ofNanoseconds_toNat_position
    {i : Instant}
    (hNanos : i.nanos < Span.nanosPerSecond)
    (hPosition : 0 ≤ i.position) :
    ofNanoseconds i.position.toNat = i := by
  cases i
  simp only [position, ofNanoseconds, Span.nanosPerSecond,
    mk.injEq] at *
  omega

end Instant

namespace Timestamp

/- The count fits a word, and the word stands for the
   timestamp. -/
structure IsFaithful (t : Timestamp) : Prop where
  fits : t.count < UInt64.size
  returns : ofNanoseconds t.nanoseconds = t

/- What was built is counted faithfully. -/
theorem IsBuilt.isFaithful
    {t : Timestamp}
    (hBuilt : t.IsBuilt) :
    t.IsFaithful := by
  rcases hBuilt with ⟨n, rfl⟩
  refine ⟨?_, by rw [nanoseconds_ofNanoseconds]⟩
  rw [count_ofNanoseconds]
  exact n.toNat_lt

/- A timestamp has a moment unless it counts nothing. -/
theorem time_ofNanoseconds_eq_some_iff
    {n : UInt64}
    {i : Instant} :
    (ofNanoseconds n).time = some i ↔
      0 < n.toNat ∧ .ofNanoseconds n.toNat = i := by
  have hZero : n = 0 ↔ n.toNat = 0 := UInt64.toNat_inj.symm
  unfold ofNanoseconds
  split
  case isTrue hUnset =>
    simp [unset, hZero.mp hUnset]
  case isFalse hSet =>
    rw [hZero] at hSet
    simp [Nat.pos_of_ne_zero hSet]

/- Words stand for the instants after 1970 began, as far as
   they reach, leap seconds apart. -/
theorem isFaithful_iff {t : Timestamp} :
    t.IsFaithful ↔
      ∀ i, t.time = some i →
        i.nanos < Span.nanosPerSecond ∧
          0 < i.position ∧ i.position < UInt64.size := by
  constructor
  · intro hFaithful i hTime
    rw [← hFaithful.returns,
      time_ofNanoseconds_eq_some_iff] at hTime
    rcases hTime with ⟨hPositive, rfl⟩
    have hWord := t.nanoseconds.toNat_lt
    rw [Instant.position_ofNanoseconds]
    refine ⟨Nat.mod_lt _ (by decide), by omega, ?_⟩
    simp only [UInt64.size]
    omega
  · intro hWithin
    apply IsBuilt.isFaithful
    rcases t with ⟨_ | i⟩
    · exact ⟨0, rfl⟩
    · rcases hWithin i rfl with ⟨hNanos, hAfter, hReach⟩
      have hWord :
          (UInt64.ofNat i.position.toNat).toNat =
            i.position.toNat := by
        rw [UInt64.toNat_ofNat']
        simp only [UInt64.size] at hReach
        omega
      have hTime :
          (ofNanoseconds
              (UInt64.ofNat i.position.toNat)).time =
            some i := by
        rw [time_ofNanoseconds_eq_some_iff, hWord]
        exact ⟨by omega,
          Instant.ofNanoseconds_toNat_position hNanos
            hAfter.le⟩
      exact ⟨_, congrArg Timestamp.mk hTime.symm⟩

end Timestamp

end Interchain
