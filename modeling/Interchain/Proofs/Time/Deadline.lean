import Interchain.Params
import Interchain.Proofs.Time.Addition
import Mathlib.Tactic.Common

/-
  The deadlines that a chain sets.

  A deadline counts blocks from a height and a span from a
  time, and is reached when either has passed.  An offset of
  zero counts nothing, and a span counts nothing from a
  missing time.

  Main declarations:
    * `Params.BlocksPassed`
    * `Params.SpanPassed`

  Main statements:
    * `Height.add_le_iff`
    * `UpgradeTimeout.hasElapsed_mono`
    * `Params.deadline_eq_error_iff`
    * `Params.deadline_elapses_exactly`
-/

------------------------------------------------------------
-- Heights
------------------------------------------------------------

namespace Interchain

namespace Height

/- Heights compare within a revision first. -/
theorem le_iff {a b : Height} :
    a ≤ b ↔
      a.revision < b.revision ∨
        (a.revision = b.revision ∧
          a.block.toNat ≤ b.block.toNat) := by
  have hEq : a = b ↔
      a.revision = b.revision ∧ a.block = b.block := by
    cases a
    cases b
    simp
  change (_ < _ ∨ _ ∧ _ < _) ∨ _ = _ ↔ _
  simp only [hEq, UInt64.lt_iff_toNat_lt, ← UInt64.toNat_inj]
  omega

/- What is later than a later height is later. -/
theorem le_trans
    {a b c : Height}
    (hab : a ≤ b)
    (hbc : b ≤ c) :
    a ≤ c := by
  simp only [le_iff, UInt64.lt_iff_toNat_lt,
    ← UInt64.toNat_inj] at *
  omega

/- Short of the greatest word, block numbers are added. -/
theorem add_le_iff
    {start now : Height}
    {blocks : UInt64}
    (hRoom :
      start.block.toNat + blocks.toNat < UInt64.size) :
    start.add blocks ≤ now ↔
      start.revision < now.revision ∨
        (start.revision = now.revision ∧
          start.block.toNat + blocks.toNat ≤
            now.block.toNat) := by
  have hBlock :
      (start.add blocks).block.toNat =
        start.block.toNat + blocks.toNat := by
    rw [add, Word.toNat_add]
    omega
  rw [le_iff, hBlock, add]

end Height

end Interchain

------------------------------------------------------------
-- Elapsed Timeouts
------------------------------------------------------------

namespace Interchain

/- A height that was reached stays so. -/
theorem TimeoutHeight.isReached_mono
    {timeout : TimeoutHeight}
    {before after : Height}
    (hLater : before ≤ after)
    (hReached : timeout.isReached before = true) :
    timeout.isReached after = true := by
  cases timeout with
  | never => exact hReached
  | «at» height =>
      simp only [isReached, decide_eq_true_eq] at *
      exact Height.le_trans hReached hLater

theorem Timestamp.isReached_mono
    {deadline before after : Timestamp}
    (hLater : (before.compare after).isLE = true)
    (hReached : deadline.isReached before = true) :
    deadline.isReached after = true := by
  rw [isReached_iff] at *
  rcases hReached with ⟨i, j, hDeadline, hBefore, hij⟩
  rcases isLE_compare_iff.mp hLater j hBefore with
    ⟨k, hAfter, hjk⟩
  exact ⟨i, k, hDeadline, hAfter, le_trans hij hjk⟩

/- A timeout that has elapsed stays so. -/
theorem UpgradeTimeout.hasElapsed_mono
    {timeout : UpgradeTimeout}
    {height height' : Height}
    {time time' : Timestamp}
    (hHeight : height ≤ height')
    (hTime : (time.compare time').isLE = true)
    (hElapsed : timeout.hasElapsed height time = true) :
    timeout.hasElapsed height' time' = true := by
  rw [hasElapsed, Bool.or_eq_true] at *
  rcases hElapsed with hReached | hReached
  · exact .inl (TimeoutHeight.isReached_mono hHeight hReached)
  · exact .inr (Timestamp.isReached_mono hTime hReached)

end Interchain

------------------------------------------------------------
-- Deadlines
------------------------------------------------------------

namespace Interchain

namespace Params

/- The blocks of a deadline, if it counts any, have passed
   since a height. -/
def BlocksPassed (p : Params) (start now : Height) : Prop :=
  p.blocks ≠ 0 ∧
    (start.revision < now.revision ∨
      (start.revision = now.revision ∧
        start.block.toNat + p.blocks.toNat ≤
          now.block.toNat))

/- The span of a deadline, if it counts one, has passed since
   a time. -/
def SpanPassed (p : Params) (start now : Timestamp) : Prop :=
  p.span.isZero = false ∧
    ∃ i j k, start.time = some i ∧ now.time = some j ∧
      i.LeadsTo p.span k ∧ k ≤ j

variable {p : Params}
variable {start : Height} {time : Timestamp}

/- The height of the deadline is reached when its blocks have
   passed. -/
theorem isReached_deadlineHeight_iff
    (hRoom :
      start.block.toNat + p.blocks.toNat < UInt64.size)
    {now : Height} :
    (p.deadlineHeight start).isReached now = true ↔
      p.BlocksPassed start now := by
  rw [deadlineHeight, BlocksPassed]
  split
  case isTrue hNone =>
    simp [TimeoutHeight.isReached, hNone]
  case isFalse hSome =>
    simp [TimeoutHeight.isReached, hSome,
      Height.add_le_iff hRoom]

/- The time of a deadline is the span ahead, if it is set and
   does not overflow. -/
theorem deadlineTime_eq_ok_iff {deadline : Timestamp} :
    p.deadlineTime time = .ok deadline ↔
      (p.span.isZero = true ∧ deadline = .unset) ∨
      (p.span.isZero = false ∧
        ((time.time = none ∧ deadline = time) ∨
          ∃ i, time.time = some i ∧ ¬ i.Overflows p.span ∧
            deadline = ⟨some (i.later p.span)⟩)) := by
  unfold deadlineTime
  split
  case isTrue hZero => simp [hZero, eq_comm]
  case isFalse hSpan =>
    rw [Timestamp.add_eq_ok_iff]
    simp [hSpan]

/- It is reached when the span has passed. -/
theorem isReached_deadlineTime_iff
    {deadline : Timestamp}
    (hDeadline : p.deadlineTime time = .ok deadline)
    {now : Timestamp} :
    deadline.isReached now = true ↔ p.SpanPassed time now := by
  rw [Timestamp.isReached_iff, SpanPassed]
  rcases deadlineTime_eq_ok_iff.mp hDeadline with
    ⟨hZero, rfl⟩ | ⟨hSpan, ⟨hUnset, rfl⟩ | ⟨i, hSet, -, rfl⟩⟩
  · simp [hZero, Timestamp.unset]
  · simp [hUnset]
  · simp [hSet, hSpan, Instant.leadsTo_iff]

/- Only an overflow leaves no deadline. -/
theorem deadlineTime_eq_error_iff {e : TimestampError} :
    p.deadlineTime time = .error e ↔
      (p.span.isZero = false ∧
        ∃ i, time.time = some i ∧ i.Overflows p.span) ∧
        e = .overflow := by
  unfold deadlineTime
  split
  case isTrue hZero => simp [hZero]
  case isFalse hSpan =>
    rw [Timestamp.add_eq_error_iff]
    simp [hSpan]

/- A height is set if there are blocks to wait for. -/
theorem isSet_deadlineHeight (p : Params) (start : Height) :
    (p.deadlineHeight start).isSet = true ↔ p.blocks ≠ 0 := by
  unfold deadlineHeight
  split
  case isTrue hNone => simp [TimeoutHeight.isSet, hNone]
  case isFalse hSome => simp [TimeoutHeight.isSet, hSome]

/- A time is set if there is a span to wait for, from some
   time. -/
theorem isSet_deadlineTime_iff
    {deadline : Timestamp}
    (hDeadline : p.deadlineTime time = .ok deadline) :
    deadline.isSet = true ↔
      p.span.isZero = false ∧ time.time ≠ none := by
  rcases deadlineTime_eq_ok_iff.mp hDeadline with
    ⟨hZero, rfl⟩ | ⟨hSpan, ⟨hUnset, rfl⟩ | ⟨i, hSet, -, rfl⟩⟩
  · simp [hZero, Timestamp.isSet, Timestamp.unset]
  · simp [hUnset, Timestamp.isSet]
  · simp [hSet, hSpan, Timestamp.isSet]

/- No deadline is set if the time overflows, nor if neither
   offset counts anything. -/
theorem deadline_eq_error_iff {e : ChannelError} :
    p.deadline start time = .error e ↔
      ((p.span.isZero = false ∧
          ∃ i, time.time = some i ∧ i.Overflows p.span) ∧
        e = .timestampOverflow .overflow) ∨
      ((p.blocks = 0 ∧
          (p.span.isZero = true ∨ time.time = none)) ∧
        e = .invalidTimeout) := by
  unfold deadline
  split
  case h_1 deadline hTime =>
    have hFits :
        ¬ (p.span.isZero = false ∧
          ∃ i, time.time = some i ∧ i.Overflows p.span) := by
      intro hOver
      have hError := deadlineTime_eq_error_iff.mpr ⟨hOver, rfl⟩
      rw [hTime] at hError
      cases hError
    have hIdle :
        (UpgradeTimeout.mk (p.deadlineHeight start)
            deadline).isValid = true ↔
          ¬ (p.blocks = 0 ∧
            (p.span.isZero = true ∨ time.time = none)) := by
      rw [UpgradeTimeout.isValid, Bool.or_eq_true,
        isSet_deadlineHeight, isSet_deadlineTime_iff hTime,
        ← Bool.not_eq_true]
      simp only [not_and_or, not_or, ne_eq]
    simp only [hFits, false_and, false_or, UpgradeTimeout.make,
      hIdle]
    split
    case isTrue hCounts => simp [hCounts]
    case isFalse hCounts =>
      rw [and_iff_right (not_not.mp hCounts),
        Except.error.injEq, eq_comm]
  case h_2 cause hTime =>
    rw [deadlineTime_eq_error_iff] at hTime
    rcases hTime with ⟨⟨hSpan, i, hSet, hOver⟩, rfl⟩
    simp [hSpan, hSet, hOver, eq_comm]

/- A deadline has its height and its time, one of them set. -/
theorem deadline_eq_ok_iff {timeout : UpgradeTimeout} :
    p.deadline start time = .ok timeout ↔
      timeout.isValid = true ∧
        timeout.height = p.deadlineHeight start ∧
        p.deadlineTime time = .ok timeout.timestamp := by
  unfold deadline
  split
  case h_1 deadline hTime =>
    rw [hTime, UpgradeTimeout.make, Except.ok.injEq]
    cases timeout
    constructor
    · intro hMade
      split at hMade
      case isTrue hValid =>
        cases hMade
        exact ⟨hValid, rfl, rfl⟩
      case isFalse => cases hMade
    · rintro ⟨hValid, rfl, rfl⟩
      exact if_pos hValid
  case h_2 hTime => simp [hTime]

/- It is over when its blocks or its span have passed. -/
theorem hasElapsed_deadline_iff
    (hRoom :
      start.block.toNat + p.blocks.toNat < UInt64.size)
    {timeout : UpgradeTimeout}
    (hDeadline : p.deadline start time = .ok timeout)
    {height : Height}
    {now : Timestamp} :
    timeout.hasElapsed height now = true ↔
      p.BlocksPassed start height ∨ p.SpanPassed time now := by
  rcases deadline_eq_ok_iff.mp hDeadline with
    ⟨-, hHeight, hTime⟩
  rw [UpgradeTimeout.hasElapsed, Bool.or_eq_true, hHeight,
    isReached_deadlineHeight_iff hRoom,
    isReached_deadlineTime_iff hTime]

/- No blocks have passed at the start. -/
theorem not_blocksPassed_self (p : Params) (start : Height) :
    ¬ p.BlocksPassed start start := by
  rintro ⟨hBlocks, hPassed⟩
  rw [ne_eq, ← UInt64.toNat_inj] at hBlocks
  simp only [UInt64.lt_iff_toNat_lt, UInt64.toNat_zero]
    at hBlocks hPassed
  omega

theorem not_spanPassed_self (p : Params) (time : Timestamp) :
    ¬ p.SpanPassed time time := by
  rintro ⟨hSpan, i, j, k, hStart, hNow, hLeads, hPassed⟩
  rw [hStart] at hNow
  cases hNow
  exact (hLeads.lt hSpan).not_ge hPassed

/-
  A deadline is set unless the time overflows or neither
  offset counts anything.  It elapses exactly when the blocks
  or the span have passed; so it has not elapsed where it was
  set, and once it has, it has at every later height and time.
-/
theorem deadline_elapses_exactly
    (p : Params)
    (start : Height)
    (time : Timestamp)
    (hRoom :
      start.block.toNat + p.blocks.toNat < UInt64.size) :
    (∀ e, p.deadline start time = .error e ↔
      ((p.span.isZero = false ∧
          ∃ i, time.time = some i ∧ i.Overflows p.span) ∧
        e = .timestampOverflow .overflow) ∨
      ((p.blocks = 0 ∧
          (p.span.isZero = true ∨ time.time = none)) ∧
        e = .invalidTimeout)) ∧
    ∀ timeout, p.deadline start time = .ok timeout →
      (∀ height now, timeout.hasElapsed height now = true ↔
        p.BlocksPassed start height ∨
          p.SpanPassed time now) ∧
      timeout.hasElapsed start time = false ∧
      ∀ height height' now now',
        height ≤ height' →
        (now.compare now').isLE = true →
        timeout.hasElapsed height now = true →
        timeout.hasElapsed height' now' = true := by
  refine ⟨fun e => deadline_eq_error_iff, ?_⟩
  intro timeout hDeadline
  refine
    ⟨fun _ _ => hasElapsed_deadline_iff hRoom hDeadline, ?_,
      fun _ _ _ _ => UpgradeTimeout.hasElapsed_mono⟩
  rw [← Bool.not_eq_true,
    hasElapsed_deadline_iff hRoom hDeadline]
  rintro (hBlocks | hSpan)
  · exact p.not_blocksPassed_self start hBlocks
  · exact p.not_spanPassed_self time hSpan

end Params

end Interchain

------------------------------------------------------------
-- Sample Deadline
------------------------------------------------------------

namespace Interchain

namespace Fixture

/- Ten blocks and a minute. -/
def hasteParams : Params := ⟨10, .ofSeconds 60, none⟩

/- A chain that has room for ten more blocks. -/
def brinkHeight : Height := ⟨1, 18446744073709551605⟩

/- The deadline ends with the last block of the revision. -/
def brinkDeadline : UpgradeTimeout :=
  ⟨.at ⟨1, 18446744073709551615⟩,
    .ofNanoseconds 1700000060000000000⟩

/- A deadline with the last block of a revision: it passes with
   that block, whatever the time, or after a minute. -/
theorem sample_deadline_elapses_exactly :
    brinkHeight.block.toNat + hasteParams.blocks.toNat <
      UInt64.size ∧
    hasteParams.deadline brinkHeight
        (.ofNanoseconds 1700000000000000000) =
      .ok brinkDeadline ∧
    brinkDeadline.hasElapsed brinkHeight
        (.ofNanoseconds 1700000000000000000) = false ∧
    (∀ now, now.time = none →
      brinkDeadline.hasElapsed ⟨1, 18446744073709551614⟩ now =
        false) ∧
    (∀ now,
      brinkDeadline.hasElapsed ⟨1, 18446744073709551615⟩ now =
        true) ∧
    brinkDeadline.hasElapsed ⟨0, 7⟩
        (.ofNanoseconds 1700000060000000000) = true := by
  have hRoom :
      brinkHeight.block.toNat + hasteParams.blocks.toNat <
        UInt64.size := by
    decide
  have hDeadline :
      hasteParams.deadline brinkHeight
          (.ofNanoseconds 1700000000000000000) =
        .ok brinkDeadline := by
    decide +kernel
  have hExact :=
    Params.deadline_elapses_exactly hasteParams brinkHeight
      (.ofNanoseconds 1700000000000000000) hRoom
  rcases hExact.2 brinkDeadline hDeadline with
    ⟨hElapses, hFresh, -⟩
  refine ⟨hRoom, hDeadline, hFresh, ?_, ?_, ?_⟩
  · intro now hUnset
    rw [← Bool.not_eq_true, hElapses]
    rintro (⟨-, hPassed⟩ | ⟨-, i, j, k, -, hSet, -⟩)
    · revert hPassed
      decide
    · simp [hUnset] at hSet
  · intro now
    rw [hElapses]
    exact .inl ⟨by decide, by decide⟩
  · rw [hElapses]
    exact
      .inr ⟨by decide, _, _, _, rfl, rfl,
        Instant.leadsTo_later _ _, by decide +kernel⟩

end Fixture

end Interchain
