import Interchain.Proofs.Time.Nanoseconds

/-
  Timestamps that come about.

  Timestamps are built from words or from numerals, added to,
  and decoded.  A decoded one may lie anywhere in the
  calendar, and a sum may leave the range of a word, so that
  not every timestamp that comes about is counted faithfully.

  Main declarations:
    * `Instant.IsOnClock`
    * `Timestamp.IsProduced`

  Main statements:
    * `Timestamp.IsProduced.isOnClock`
    * `Timestamp.isProduced_iff`
    * `Timestamp.nanoseconds_add_iff`
    * `Timestamp.faithful_exactly_within_words`
-/

------------------------------------------------------------
-- Instants on the Clock
------------------------------------------------------------

namespace Interchain

namespace Instant

/- Within the calendar, and within a second or a leap second. -/
structure IsOnClock (i : Instant) : Prop where
  calendar : i.isWithinCalendar = true
  nanos : i.nanos < 2 * Span.nanosPerSecond

/- What is made of a word is on the clock. -/
theorem isOnClock_ofNanoseconds (n : UInt64) :
    (ofNanoseconds n.toNat).IsOnClock := by
  refine ⟨isWithinCalendar_ofNanoseconds n, ?_⟩
  simp only [ofNanoseconds, Span.nanosPerSecond]
  omega

/- So is what a span leads to. -/
theorem IsOnClock.later
    {i : Instant}
    {s : Span}
    (hClock : i.IsOnClock)
    (hFits : ¬ i.Overflows s) :
    (i.later s).IsOnClock := by
  have hFirst := hClock.calendar
  rw [isWithinCalendar, Bool.and_eq_true, decide_eq_true_eq]
    at hFirst
  have hLast : (i.later s).seconds ≤ lastSecond := by
    rw [overflows_iff] at hFits
    omega
  have hLeads := i.leadsTo_later s
  refine ⟨?_, hLeads.nanos_lt⟩
  rw [isWithinCalendar, Bool.and_eq_true, decide_eq_true_eq,
    decide_eq_true_eq]
  exact ⟨hFirst.1.trans hLeads.seconds_le, hLast⟩

end Instant

end Interchain

------------------------------------------------------------
-- Decoded Instants
------------------------------------------------------------

namespace Interchain

namespace Instant

/- Digits stand for a number that is no longer than them. -/
theorem numberOf_lt
    {ds : List Char}
    (hDigits : ∀ c ∈ ds, c.isDigit = true) :
    numberOf ds < 10 ^ ds.length := by
  have hFrom (n : Nat) :
      ds.foldl (fun n c => n * 10 + (c.toNat - '0'.toNat)) n <
        (n + 1) * 10 ^ ds.length := by
    induction ds generalizing n with
    | nil => simp
    | cons c rest ih =>
        rw [List.forall_mem_cons] at hDigits
        rcases Json.isDigit_cases hDigits.1 with ⟨d, hd, rfl⟩
        have hDigit := Nat.toNat_digitChar_of_lt_ten hd
        have hZero : '0'.toNat = 48 := rfl
        rw [List.foldl_cons, List.length_cons, pow_succ,
          mul_comm (10 ^ rest.length), ← mul_assoc]
        refine (ih hDigits.2 _).trans_le ?_
        exact Nat.mul_le_mul_right _ (by omega)
  simpa [numberOf] using hFrom 0

/- Nine digits spell less than a second. -/
theorem lt_of_fractionFront?
    {cs rest : List Char}
    {nanos : Nat}
    (hRead : fractionFront? cs = some (nanos, rest)) :
    nanos < Span.nanosPerSecond := by
  unfold fractionFront? at hRead
  split at hRead
  case h_1 tail =>
    split at hRead
    case h_1 => simp at hRead
    case h_2 d ds hTaken =>
      have hDigits : ∀ c ∈ (d :: ds).take 9, c.isDigit = true := by
        intro c hc
        rw [← hTaken] at hc
        exact List.mem_takeWhile_imp (List.mem_of_mem_take hc)
      have hNine : ((d :: ds).take 9).length ≤ 9 :=
        List.length_take_le _ _
      have hNumber := numberOf_lt hDigits
      simp only [Option.some.injEq, Prod.mk.injEq] at hRead
      rw [← hRead.1, Span.nanosPerSecond]
      calc
        numberOf ((d :: ds).take 9) *
            10 ^ (9 - ((d :: ds).take 9).length)
          < 10 ^ ((d :: ds).take 9).length *
              10 ^ (9 - ((d :: ds).take 9).length) :=
            Nat.mul_lt_mul_of_pos_right hNumber (by positivity)
        _ = 1000000000 := by
            rw [← pow_add, Nat.add_sub_cancel' hNine]
            rfl
  case h_2 =>
    cases hRead
    decide

/- Within second 60 the nanoseconds go on past a whole second. -/
theorem nanos_lt_of_timeFront?
    {cs rest : List Char}
    {seconds nanos : Nat}
    (hRead : timeFront? cs = some ((seconds, nanos), rest)) :
    nanos < 2 * Span.nanosPerSecond := by
  simp only [timeFront?, Option.bind_eq_bind,
    Option.bind_eq_some_iff, Prod.exists] at hRead
  rcases hRead with
    ⟨_, _, _, _, _, _, _, _, _, _, second, _, _,
      part, left, hFraction, hRead⟩
  have hPart := lt_of_fractionFront? hFraction
  split at hRead
  case isTrue =>
    split at hRead <;> cases hRead <;> omega
  case isFalse => cases hRead

/- What is read from a text is on the clock. -/
theorem isOnClock_of_ofText?
    {text : String}
    {i : Instant}
    (hRead : ofText? text = some i) :
    i.IsOnClock := by
  simp only [ofText?, Option.bind_eq_bind,
    Option.bind_eq_some_iff, Prod.exists] at hRead
  rcases hRead with
    ⟨date, _, _, _, _, seconds, nanos, _, hTime,
      offset, _, _, hRead⟩
  split at hRead
  case isTrue hValid =>
    cases hRead
    exact ⟨hValid.2, nanos_lt_of_timeFront? hTime⟩
  case isFalse => cases hRead

end Instant

theorem Timestamp.isOnClock_of_ofJson?
    {value : Json}
    {t : Timestamp}
    (hRead : ofJson? value = some t)
    {i : Instant}
    (hTime : t.time = some i) :
    i.IsOnClock := by
  rcases exists_text_of_ofJson? hRead hTime with ⟨text, hText⟩
  exact Instant.isOnClock_of_ofText? hText

end Interchain

------------------------------------------------------------
-- Produced Timestamps
------------------------------------------------------------

namespace Interchain

namespace Timestamp

/- A timestamp that comes about: built from a word, read from
   a numeral, added to, or decoded. -/
inductive IsProduced : Timestamp → Prop
  | built (n : UInt64) :
      IsProduced (ofNanoseconds n)
  | read {text : String} {t : Timestamp}
      (hRead : ofText text = .ok t) :
      IsProduced t
  | added {t sum : Timestamp} {span : Span}
      (hProduced : IsProduced t)
      (hSum : t.add span = .ok sum) :
      IsProduced sum
  | decoded {value : Json} {t : Timestamp}
      (hRead : ofJson? value = some t) :
      IsProduced t

/- A numeral is read as the word that it spells. -/
theorem isBuilt_of_ofText
    {text : String}
    {t : Timestamp}
    (hRead : ofText text = .ok t) :
    t.IsBuilt := by
  unfold ofText at hRead
  split at hRead
  case h_1 n _ =>
    cases hRead
    exact ⟨n, rfl⟩
  case h_2 => cases hRead

/- The moment of a timestamp that was built is on the clock. -/
theorem IsBuilt.isOnClock
    {t : Timestamp}
    (hBuilt : t.IsBuilt)
    {i : Instant}
    (hTime : t.time = some i) :
    i.IsOnClock := by
  rcases hBuilt with ⟨n, rfl⟩
  rcases time_ofNanoseconds_eq_some_iff.mp hTime with ⟨-, rfl⟩
  exact Instant.isOnClock_ofNanoseconds n

/- Whatever comes about lies on the clock. -/
theorem IsProduced.isOnClock
    {t : Timestamp}
    (hProduced : t.IsProduced)
    {i : Instant}
    (hTime : t.time = some i) :
    i.IsOnClock := by
  induction hProduced generalizing i with
  | built n => exact IsBuilt.isOnClock ⟨n, rfl⟩ hTime
  | read hRead => exact (isBuilt_of_ofText hRead).isOnClock hTime
  | added hProduced hSum ih =>
      rw [add_eq_ok_iff] at hSum
      rcases hSum with ⟨hUnset, rfl⟩ | ⟨k, hSet, hFits, rfl⟩
      · exact ih hTime
      · cases hTime
        exact (ih hSet).later hFits
  | decoded hRead => exact isOnClock_of_ofJson? hRead hTime

/- Outside leap seconds, the instants that come about are those
   of the calendar. -/
theorem isProduced_iff
    {t : Timestamp}
    {i : Instant}
    (hTime : t.time = some i)
    (hNanos : i.nanos < Span.nanosPerSecond) :
    t.IsProduced ↔ i.isWithinCalendar = true := by
  constructor
  · intro hProduced
    exact (hProduced.isOnClock hTime).calendar
  · intro hCalendar
    refine .decoded (ofJson?_toJson ?_)
    intro j hj
    rw [hTime] at hj
    cases hj
    exact Instant.ofText?_zulu hCalendar hNanos

end Timestamp

end Interchain

------------------------------------------------------------
-- Sums
------------------------------------------------------------

namespace Interchain

/- Counting on is faithful as long as the word suffices. -/
theorem mod_size_add_iff (count span : Nat) :
    (count + span) % UInt64.size =
        count % UInt64.size + span ↔
      count % UInt64.size + span < UInt64.size := by
  simp only [UInt64.size]
  omega

namespace Instant

/- After the epoch, an instant counts from there. -/
theorem count_of_nonneg
    {i : Instant}
    (hSign : 0 ≤ i.seconds) :
    (i.count : Int) = i.position := by
  simp only [count, position, Span.nanosPerSecond]
  omega

/- Before it, only the nanoseconds are counted. -/
theorem count_of_neg
    {i : Instant}
    (hSign : i.seconds < 0) :
    i.count = i.nanos := by
  simp only [count, Span.nanosPerSecond]
  omega

variable {i j : Instant} {s : Span}

/- From 1970 on, the span is counted unless a leap second is
   left, which takes a second away. -/
theorem LeadsTo.count_iff_of_nonneg
    (hLeads : i.LeadsTo s j)
    (hSign : 0 ≤ i.seconds) :
    j.count % UInt64.size =
        i.count % UInt64.size + s.totalNanos ↔
      (j.seconds = i.seconds ∨
        i.nanos < Span.nanosPerSecond) ∧
      i.count % UInt64.size + s.totalNanos < UInt64.size := by
  have hCount := count_of_nonneg hSign
  have hLater := count_of_nonneg (hSign.trans hLeads.seconds_le)
  cases hLeads with
  | stays hLeap hSeconds hSum hNear =>
      have hSpan : j.count = i.count + s.totalNanos := by
        rw [count, count, hSeconds, hSum, Nat.add_assoc]
      rw [hSpan, mod_size_add_iff]
      simp [hSeconds]
  | leaves hLeap hFar hSum hPosition =>
      have hSeconds : j.seconds ≠ i.seconds := by
        simp only [position, Span.nanosPerSecond] at *
        omega
      refine iff_of_false ?_ (by omega)
      rw [← hCount, ← hLater] at hPosition
      simp only [Span.nanosPerSecond, UInt64.size] at *
      omega
  | moves hOutside hSum hPosition =>
      have hSpan : j.count = i.count + s.totalNanos := by
        omega
      rw [hSpan, mod_size_add_iff]
      simp [hOutside]

/- Before 1970, the span is counted only within a second, for
   the seconds that pass are not. -/
theorem LeadsTo.count_iff_of_neg
    (hLeads : i.LeadsTo s j)
    (hSign : i.seconds < 0)
    (hNanos : i.nanos < 2 * Span.nanosPerSecond) :
    j.count % UInt64.size =
        i.count % UInt64.size + s.totalNanos ↔
      j.seconds = i.seconds ∧
      i.count % UInt64.size + s.totalNanos < UInt64.size := by
  have hCount : i.count % UInt64.size = i.nanos := by
    rw [count_of_neg hSign]
    simp only [Span.nanosPerSecond, UInt64.size] at *
    omega
  rw [hCount]
  by_cases hSame : j.seconds = i.seconds
  · have hSpan := hLeads.nanos_eq hSame
    have hFits : j.nanos < UInt64.size :=
      hLeads.nanos_lt.trans (by decide)
    rw [count_of_neg (hSame ▸ hSign), Nat.mod_eq_of_lt hFits,
      ← hSpan]
    simp [hSame, hFits]
  · have hLess : j.count < i.nanos + s.totalNanos := by
      have hLe := hLeads.seconds_le
      have hPosition := hLeads.position_le
      simp only [count, position, Span.nanosPerSecond] at *
      omega
    have hWord := Nat.mod_le j.count UInt64.size
    exact iff_of_false (by omega) (by omega)

/-
  The count goes on by the whole span if the second stays the
  same, or from 1970 on if no leap second is left; and if the
  word does not overflow.
-/
theorem LeadsTo.count_iff
    (hLeads : i.LeadsTo s j)
    (hNanos : i.nanos < 2 * Span.nanosPerSecond) :
    j.count % UInt64.size =
        i.count % UInt64.size + s.totalNanos ↔
      (j.seconds = i.seconds ∨
        (0 ≤ i.seconds ∧ i.nanos < Span.nanosPerSecond)) ∧
      i.count % UInt64.size + s.totalNanos < UInt64.size := by
  rcases lt_or_ge i.seconds 0 with hSign | hSign
  · rw [hLeads.count_iff_of_neg hSign hNanos]
    simp [hSign.not_ge]
  · rw [hLeads.count_iff_of_nonneg hSign]
    simp [hSign]

end Instant

namespace Timestamp

/- What a sum counts, exactly. -/
theorem nanoseconds_add_iff
    {t sum : Timestamp}
    {span : Span}
    {i : Instant}
    (hProduced : t.IsProduced)
    (hTime : t.time = some i)
    (hSum : t.add span = .ok sum) :
    ∃ j, sum.time = some j ∧
      (sum.nanoseconds.toNat =
          t.nanoseconds.toNat + span.totalNanos ↔
        (j.seconds = i.seconds ∨
          (0 ≤ i.seconds ∧ i.nanos < Span.nanosPerSecond)) ∧
        t.nanoseconds.toNat + span.totalNanos <
          UInt64.size) := by
  rw [add_eq_ok_iff] at hSum
  rcases hSum with ⟨hUnset, -⟩ | ⟨k, hSet, -, rfl⟩
  · rw [hTime] at hUnset
    cases hUnset
  · rw [hTime] at hSet
    cases hSet
    refine ⟨_, rfl, ?_⟩
    have hCount : t.count = i.count := by rw [count, hTime]
    rw [toNat_nanoseconds, toNat_nanoseconds, hCount]
    exact (i.leadsTo_later span).count_iff
      (hProduced.isOnClock hTime).nanos

/- A sum is as faithful as its summand until the word
   overflows. -/
theorem isFaithful_add_iff
    {t sum : Timestamp}
    {span : Span}
    (hFaithful : t.IsFaithful)
    (hSet : t.isSet = true)
    (hSum : t.add span = .ok sum) :
    sum.IsFaithful ↔
      t.nanoseconds.toNat + span.totalNanos <
        UInt64.size := by
  rcases Option.isSome_iff_exists.mp hSet with ⟨i, hTime⟩
  rcases isFaithful_iff.mp hFaithful i hTime with
    ⟨hNanos, hAfter, hReach⟩
  have hWord : (t.nanoseconds.toNat : Int) = i.position := by
    rw [toNat_nanoseconds, Nat.mod_eq_of_lt hFaithful.fits,
      count, hTime]
    apply Instant.count_of_nonneg
    simp only [Instant.position, Span.nanosPerSecond] at *
    omega
  rw [add_eq_ok_iff] at hSum
  rcases hSum with ⟨hUnset, -⟩ | ⟨k, hLater, -, rfl⟩
  · rw [hTime] at hUnset
    cases hUnset
  · rw [hTime] at hLater
    cases hLater
    rcases (i.leadsTo_later span).moves_of_lt hNanos with
      ⟨hPart, hPosition⟩
    rw [isFaithful_iff]
    constructor
    · intro hWithin
      have hFits := (hWithin _ rfl).2.2
      omega
    · intro hFits j hj
      cases hj
      exact ⟨hPart, by omega, by omega⟩

end Timestamp

end Interchain

------------------------------------------------------------
-- Faithful Nanoseconds
------------------------------------------------------------

namespace Interchain

namespace Timestamp

/-
  Timestamps of words and numerals are counted faithfully.
  But every instant of the calendar can come about, and just
  those after 1970 began, within the reach of a word and
  outside leap seconds are.  A sum counts the whole span as
  long as the word does not overflow, unless it leaves a second
  before 1970 or a leap second.
-/
theorem faithful_exactly_within_words (t : Timestamp) :
    (∀ n, t = ofNanoseconds n →
      t.IsFaithful ∧ t.nanoseconds = n) ∧
    (∀ text, ofText text = .ok t → t.IsFaithful) ∧
    (∀ i, t.time = some i → i.nanos < Span.nanosPerSecond →
      (t.IsProduced ↔ i.isWithinCalendar = true)) ∧
    (t.IsFaithful ↔
      ∀ i, t.time = some i →
        i.nanos < Span.nanosPerSecond ∧
          0 < i.position ∧ i.position < UInt64.size) ∧
    (∀ i span sum, t.IsProduced → t.time = some i →
      t.add span = .ok sum →
      ∃ j, sum.time = some j ∧
        (sum.nanoseconds.toNat =
            t.nanoseconds.toNat + span.totalNanos ↔
          (j.seconds = i.seconds ∨
            (0 ≤ i.seconds ∧
              i.nanos < Span.nanosPerSecond)) ∧
          t.nanoseconds.toNat + span.totalNanos <
            UInt64.size)) ∧
    (∀ span sum, t.IsFaithful → t.isSet = true →
      t.add span = .ok sum →
      (sum.IsFaithful ↔
        t.nanoseconds.toNat + span.totalNanos <
          UInt64.size)) := by
  refine ⟨?_, ?_, ?_, isFaithful_iff, ?_, ?_⟩
  · rintro n rfl
    exact ⟨IsBuilt.isFaithful ⟨n, rfl⟩,
      nanoseconds_ofNanoseconds n⟩
  · intro text hRead
    exact (isBuilt_of_ofText hRead).isFaithful
  · intro i hTime hNanos
    exact isProduced_iff hTime hNanos
  · intro i span sum hProduced hTime hSum
    exact nanoseconds_add_iff hProduced hTime hSum
  · intro span sum hFaithful hSet hSum
    exact isFaithful_add_iff hFaithful hSet hSum

end Timestamp

end Interchain

------------------------------------------------------------
-- Sample Timestamps
------------------------------------------------------------

namespace Interchain

namespace Fixture

/- The record of an instant two seconds before 1970. -/
def duskText : String :=
  "\x7b\"time\": \"1969-12-31T23:59:58Z\"\x7d"

/- A time before the epoch, which only a record can give. -/
def dusk : Timestamp := ⟨some ⟨-2, 0⟩⟩

/- The last nanosecond that a word counts. -/
def lastNanosecond : Timestamp :=
  .ofNanoseconds 18446744073709551615

/- The nanosecond after it. -/
def pastWords : Timestamp :=
  ⟨some ⟨18446744073, 709551616⟩⟩

/- A nanosecond leads past the words. -/
theorem add_lastNanosecond :
    lastNanosecond.add ⟨0, 1⟩ = .ok pastWords := by
  decide +kernel

/- Neither decoded timestamps nor sums need be faithful. -/
theorem sample_decoded_is_unfaithful :
    Recorded.ofText? duskText = some dusk ∧
      Timestamp.ofNanoseconds dusk.nanoseconds ≠ dusk ∧
      lastNanosecond.add ⟨0, 1⟩ = .ok pastWords ∧
      UInt64.size ≤ pastWords.count ∧
      pastWords.nanoseconds.toNat ≠
        lastNanosecond.nanoseconds.toNat +
          Span.totalNanos ⟨0, 1⟩ := by
  refine ⟨?_, ?_, add_lastNanosecond, ?_, ?_⟩ <;>
    decide +kernel

/- The last nanosecond of a word is faithful, and its sum with
   one more is not; nor is an instant that can be decoded. -/
theorem sample_faithful_exactly_within_words :
    Timestamp.ofText "18446744073709551615" =
        .ok lastNanosecond ∧
      lastNanosecond.IsFaithful ∧
      lastNanosecond.isSet = true ∧
      lastNanosecond.add ⟨0, 1⟩ = .ok pastWords ∧
      ¬ pastWords.IsFaithful ∧
      dusk.IsProduced ∧
      dusk.add (.ofSeconds 1) = .ok ⟨some ⟨-1, 0⟩⟩ ∧
      Timestamp.nanoseconds ⟨some ⟨-1, 0⟩⟩ ≠ 1000000000 := by
  rcases Timestamp.faithful_exactly_within_words
      lastNanosecond with
    ⟨-, hNumerals, -, -, -, hSums⟩
  rcases Timestamp.faithful_exactly_within_words dusk with
    ⟨-, -, hCalendar, -, hCounts, -⟩
  have hText :
      Timestamp.ofText "18446744073709551615" =
        .ok lastNanosecond := by
    decide +kernel
  have hFaithful : lastNanosecond.IsFaithful :=
    hNumerals _ hText
  have hProduced : dusk.IsProduced :=
    (hCalendar ⟨-2, 0⟩ rfl (by decide)).mpr (by decide +kernel)
  have hSum :
      dusk.add (.ofSeconds 1) = .ok ⟨some ⟨-1, 0⟩⟩ := by
    decide +kernel
  refine ⟨hText, hFaithful, rfl, add_lastNanosecond, ?_,
    hProduced, hSum, ?_⟩
  · rw [hSums _ _ hFaithful rfl add_lastNanosecond]
    decide +kernel
  · intro hOne
    rcases hCounts _ _ _ hProduced rfl hSum with
      ⟨j, hTime, hExact⟩
    cases hTime
    rw [hOne] at hExact
    exact absurd (hExact.mp (by decide +kernel)).1
      (by decide)

end Fixture

end Interchain
