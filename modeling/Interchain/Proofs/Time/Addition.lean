import Interchain.Timestamp
import Mathlib.Order.Defs.PartialOrder

/-
  Spans added to times.

  Instants are ordered by their seconds, and within a second
  by its parts.  An instant moves on by any span that is not
  empty; outside a leap second it moves on by exactly the
  nanoseconds of the span.

  Main declarations:
    * `Instant.position`
    * `Instant.LeadsTo`
    * `Instant.Overflows`

  Main statements:
    * `Instant.leadsTo_iff`
    * `Timestamp.add_eq_ok_iff`
    * `Timestamp.add_eq_error_iff`
-/

------------------------------------------------------------
-- Order
------------------------------------------------------------

namespace Interchain

namespace Instant

/- Earlier: by seconds, then by the parts of a second. -/
instance : LE Instant where
  le i j :=
    i.seconds < j.seconds ∨
      (i.seconds = j.seconds ∧ i.nanos ≤ j.nanos)

/- Moments are ordered by their seconds first. -/
theorem le_iff {i j : Instant} :
    i ≤ j ↔
      i.seconds < j.seconds ∨
        (i.seconds = j.seconds ∧ i.nanos ≤ j.nanos) :=
  Iff.rfl

instance (i j : Instant) : Decidable (i ≤ j) :=
  inferInstanceAs (Decidable (_ ∨ _))

instance : PartialOrder Instant where
  le_refl i := by
    rw [le_iff]
    omega
  le_trans i j k := by
    simp only [le_iff]
    omega
  le_antisymm i j hij hji := by
    cases i
    cases j
    simp only [le_iff] at hij hji
    simp only [mk.injEq]
    omega

theorem lt_iff {i j : Instant} :
    i < j ↔
      i.seconds < j.seconds ∨
        (i.seconds = j.seconds ∧ i.nanos < j.nanos) := by
  rw [lt_iff_le_not_ge]
  simp only [le_iff]
  omega

/- Being at or after a moment is the order the other way round. -/
theorem isAtOrAfter_iff {i j : Instant} :
    i.isAtOrAfter j = true ↔ j ≤ i := by
  simp [isAtOrAfter, le_iff]

/- Comparing moments is their order. -/
theorem isLE_compare_iff {i j : Instant} :
    (i.compare j).isLE = true ↔ i ≤ j := by
  rw [compare, le_iff]
  split
  case isTrue hBefore => simp [hBefore]
  case isFalse hBefore =>
    split
    case isTrue hAfter =>
      simp only [Ordering.isLE_gt, Bool.false_eq_true,
        false_iff]
      omega
    case isFalse hAfter =>
      rw [Nat.isLE_compare]
      omega

end Instant

end Interchain

------------------------------------------------------------
-- Later Instants
------------------------------------------------------------

namespace Interchain

/- A span that is not zero takes time. -/
theorem Span.isZero_eq_false_iff {s : Span} :
    s.isZero = false ↔ 0 < s.totalNanos := by
  have hSeconds : s.seconds = 0 ↔ s.seconds.toNat = 0 :=
    UInt64.toNat_inj.symm
  have hNanos : s.nanos = 0 ↔ s.nanos.toNat = 0 :=
    UInt32.toNat_inj.symm
  have hZero : s = zero ↔ s.seconds = 0 ∧ s.nanos = 0 := by
    cases s
    simp [zero]
  rw [isZero, beq_eq_false_iff_ne, ne_eq, hZero, hSeconds,
    hNanos, totalNanos, nanosPerSecond]
  omega

namespace Instant

/- The nanoseconds from 1970 to an instant. -/
def position (i : Instant) : Int :=
  i.seconds * Span.nanosPerSecond + i.nanos

/-
  How a span leads from one instant to another: within a leap
  second, out of one, which counts for the second after it, or
  from outside of one.
-/
inductive LeadsTo (i : Instant) (s : Span) (j : Instant) : Prop
  | stays
      (hLeap : Span.nanosPerSecond ≤ i.nanos)
      (hSeconds : j.seconds = i.seconds)
      (hNanos : j.nanos = i.nanos + s.totalNanos)
      (hNear : j.nanos < 2 * Span.nanosPerSecond)
  | leaves
      (hLeap : Span.nanosPerSecond ≤ i.nanos)
      (hFar :
        2 * Span.nanosPerSecond ≤ i.nanos + s.totalNanos)
      (hNanos : j.nanos < Span.nanosPerSecond)
      (hPosition :
        j.position + Span.nanosPerSecond =
          i.position + s.totalNanos)
  | moves
      (hOutside : i.nanos < Span.nanosPerSecond)
      (hNanos : j.nanos < Span.nanosPerSecond)
      (hPosition : j.position = i.position + s.totalNanos)

/- A span leads to the later moment. -/
theorem leadsTo_later (i : Instant) (s : Span) :
    i.LeadsTo s (i.later s) := by
  have hSeconds : s.seconds = 0 ↔ s.seconds.toNat = 0 :=
    UInt64.toNat_inj.symm
  have hPositive : 0 < Span.nanosPerSecond := by decide
  rw [later]
  dsimp only
  split
  case isTrue hStays =>
    rcases hStays with ⟨hLeap, hNone, hNear⟩
    rw [hSeconds] at hNone
    refine .stays hLeap rfl ?_ hNear
    simp only [Span.totalNanos, hNone]
    omega
  case isFalse hStays =>
    split
    case isTrue hLeap =>
      refine .leaves hLeap ?_ (Nat.mod_lt _ hPositive) ?_
      · simp only [Span.totalNanos, Span.nanosPerSecond,
          hSeconds] at *
        omega
      · simp only [position, Span.totalNanos,
          Span.nanosPerSecond] at *
        omega
    case isFalse hLeap =>
      refine .moves (by omega) (Nat.mod_lt _ hPositive) ?_
      simp only [position, Span.totalNanos,
        Span.nanosPerSecond]
      omega

variable {i j : Instant} {s : Span}

/- It leads to that moment only. -/
theorem LeadsTo.unique
    {k : Instant}
    (hLeads : i.LeadsTo s j)
    (hOther : i.LeadsTo s k) :
    j = k := by
  cases j
  cases k
  cases hLeads <;> cases hOther <;>
    simp only [position, Span.nanosPerSecond, mk.injEq] at * <;>
    omega

theorem leadsTo_iff :
    i.LeadsTo s j ↔ i.later s = j := by
  constructor
  · exact (i.leadsTo_later s).unique
  · rintro rfl
    exact i.leadsTo_later s

/- Outside a leap second nothing of the span is lost. -/
theorem LeadsTo.moves_of_lt
    (hLeads : i.LeadsTo s j)
    (hOutside : i.nanos < Span.nanosPerSecond) :
    j.nanos < Span.nanosPerSecond ∧
      j.position = i.position + s.totalNanos := by
  cases hLeads with
  | stays hLeap _ _ _ => omega
  | leaves hLeap _ _ _ => omega
  | moves _ hNanos hPosition => exact ⟨hNanos, hPosition⟩

/- The second is never taken back. -/
theorem LeadsTo.seconds_le (hLeads : i.LeadsTo s j) :
    i.seconds ≤ j.seconds := by
  cases hLeads with
  | stays hLeap hSeconds hNanos hNear => omega
  | leaves hLeap hFar hNanos hPosition =>
      simp only [position, Span.nanosPerSecond] at *
      omega
  | moves hOutside hNanos hPosition =>
      simp only [position, Span.nanosPerSecond] at *
      omega

/- Leaving a leap second loses a second of the span. -/
theorem LeadsTo.position_le (hLeads : i.LeadsTo s j) :
    j.position ≤ i.position + s.totalNanos := by
  cases hLeads with
  | stays hLeap hSeconds hNanos hNear =>
      simp only [position, hSeconds, hNanos]
      omega
  | leaves hLeap hFar hNanos hPosition => omega
  | moves hOutside hNanos hPosition => omega

/- A moment stays within its leap second. -/
theorem LeadsTo.nanos_lt (hLeads : i.LeadsTo s j) :
    j.nanos < 2 * Span.nanosPerSecond := by
  cases hLeads with
  | stays hLeap hSeconds hNanos hNear => exact hNear
  | leaves hLeap hFar hNanos hPosition => omega
  | moves hOutside hNanos hPosition => omega

/- Within a second nothing of the span is lost. -/
theorem LeadsTo.nanos_eq
    (hLeads : i.LeadsTo s j)
    (hSame : j.seconds = i.seconds) :
    j.nanos = i.nanos + s.totalNanos := by
  cases hLeads with
  | stays hLeap hSeconds hNanos hNear => exact hNanos
  | leaves hLeap hFar hNanos hPosition =>
      simp only [position, Span.nanosPerSecond] at *
      omega
  | moves hOutside hNanos hPosition =>
      simp only [position, hSame] at hPosition
      omega

/- A span that is not empty leads to a later instant. -/
theorem LeadsTo.lt
    (hLeads : i.LeadsTo s j)
    (hSpan : s.isZero = false) :
    i < j := by
  rw [Span.isZero_eq_false_iff] at hSpan
  rw [lt_iff]
  cases hLeads with
  | stays hLeap hSeconds hNanos hNear => omega
  | leaves hLeap hFar hNanos hPosition =>
      simp only [position, Span.nanosPerSecond] at *
      omega
  | moves hOutside hNanos hPosition =>
      simp only [position, Span.nanosPerSecond] at *
      omega

end Instant

end Interchain

------------------------------------------------------------
-- Overflow
------------------------------------------------------------

namespace Interchain

namespace Instant

/- The span is too long for the clock, or the calendar ends
   before the instant that it leads to. -/
def Overflows (i : Instant) (s : Span) : Prop :=
  longestNanos < s.totalNanos ∨
    ∃ j, i.LeadsTo s j ∧ lastSecond < j.seconds

/- What goes too far: the span alone, or the last second. -/
theorem overflows_iff {i : Instant} {s : Span} :
    i.Overflows s ↔
      longestNanos < s.totalNanos ∨
        lastSecond < (i.later s).seconds := by
  simp [Overflows, leadsTo_iff]

/- A sum is the later moment, if it does not overflow. -/
theorem add?_eq_some_iff
    {i j : Instant}
    {s : Span} :
    i.add? s = some j ↔ ¬ i.Overflows s ∧ i.later s = j := by
  simp [add?, overflows_iff]

theorem add?_eq_none_iff
    {i : Instant}
    {s : Span} :
    i.add? s = none ↔ i.Overflows s := by
  simp only [add?, overflows_iff, ite_eq_right_iff, reduceCtorEq,
    imp_false]
  omega

end Instant

end Interchain

------------------------------------------------------------
-- Timestamps
------------------------------------------------------------

namespace Interchain

namespace Timestamp

variable {s t u : Timestamp}

/- A deadline is reached at its moment. -/
theorem isReached_iff :
    s.isReached t = true ↔
      ∃ i j, s.time = some i ∧ t.time = some j ∧ i ≤ j := by
  rcases s with ⟨_ | i⟩ <;> rcases t with ⟨_ | j⟩ <;>
    simp [isReached, Instant.isAtOrAfter_iff]

/- A timestamp that is not later may be missing. -/
theorem isLE_compare_iff :
    (s.compare t).isLE = true ↔
      ∀ i, s.time = some i → ∃ j, t.time = some j ∧ i ≤ j := by
  rcases s with ⟨_ | i⟩ <;> rcases t with ⟨_ | j⟩ <;>
    simp [compare, Instant.isLE_compare_iff]

/- What adding to a timestamp comes to. -/
theorem add_cases (t : Timestamp) (span : Span) :
    (t.time = none ∧ t.add span = .ok t) ∨
      (∃ i, t.time = some i ∧ ¬ i.Overflows span ∧
        t.add span = .ok ⟨some (i.later span)⟩) ∨
      (∃ i, t.time = some i ∧ i.Overflows span ∧
        t.add span = .error .overflow) := by
  unfold add
  -- Evaluating the limits of the clock would never end.
  obtain ⟨clock, hClock⟩ :
      ∃ clock : Instant → Option Instant,
        ∀ i, i.add? span = clock i :=
    ⟨fun i => i.add? span, fun _ => Eq.refl _⟩
  simp only [hClock]
  cases hTime : t.time with
  | none => exact .inl ⟨rfl, rfl⟩
  | some i =>
      cases hLater : clock i with
      | none =>
          have hOver := hLater
          rw [← hClock, Instant.add?_eq_none_iff] at hOver
          refine .inr (.inr ⟨i, rfl, hOver, ?_⟩)
          simp only [hLater]
      | some j =>
          have hFits := hLater
          rw [← hClock, Instant.add?_eq_some_iff] at hFits
          refine .inr (.inl ⟨i, rfl, hFits.1, ?_⟩)
          simp only [hLater, hFits.2]

/- A sum is the later moment, or none if there was none. -/
theorem add_eq_ok_iff {span : Span} :
    t.add span = .ok u ↔
      (t.time = none ∧ u = t) ∨
        ∃ i, t.time = some i ∧ ¬ i.Overflows span ∧
          u = ⟨some (i.later span)⟩ := by
  rcases t.add_cases span with
    ⟨hUnset, hAdd⟩ | ⟨i, hSet, hFits, hAdd⟩ |
      ⟨i, hSet, hOver, hAdd⟩
  · simp [hUnset, hAdd, eq_comm]
  · simp [hSet, hAdd, hFits, eq_comm]
  · simp [hSet, hAdd, hOver]

/- Only an overflow makes it fail. -/
theorem add_eq_error_iff
    {span : Span}
    {e : TimestampError} :
    t.add span = .error e ↔
      (∃ i, t.time = some i ∧ i.Overflows span) ∧
        e = .overflow := by
  rcases t.add_cases span with
    ⟨hUnset, hAdd⟩ | ⟨i, hSet, hFits, hAdd⟩ |
      ⟨i, hSet, hOver, hAdd⟩
  · simp [hUnset, hAdd]
  · simp [hSet, hAdd, hFits]
  · simp [hSet, hAdd, hOver, eq_comm]

end Timestamp

end Interchain
