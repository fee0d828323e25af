import Interchain.Proofs.Json.Lexing
import Interchain.Proofs.Time.Calendar
import Interchain.Time.Reader
import Mathlib.Data.List.TakeWhile

/-
  Written instants are read as themselves.

  Each part of a written instant is read in front of whatever
  follows it: a number ends after as many digits as are asked
  for, or where the next character is no digit.

  Main statements:
    * `Instant.numberFront?_digits`
    * `Instant.dateFront?_chars`
    * `Instant.timeFront?_chars`
    * `Instant.ofText?_zulu`
-/

------------------------------------------------------------
-- Padded Numbers
------------------------------------------------------------

namespace Interchain

namespace Text

variable {width n : Nat}

theorem isDigit_of_mem_paddedDigits
    {c : Char}
    (hMem : c ∈ paddedDigits width n) :
    c.isDigit = true := by
  rcases List.mem_append.mp hMem with hZero | hDigit
  · rw [List.eq_of_mem_replicate hZero]
    rfl
  · exact Nat.isDigit_of_mem_toDigits (by decide) (by decide)
      hDigit

theorem paddedDigits_ne_nil : paddedDigits width n ≠ [] := by
  intro hNil
  exact Nat.toDigits_ne_nil (List.append_eq_nil_iff.mp hNil).2

/- A number that fits has that many digits. -/
theorem length_paddedDigits
    (hWidth : 0 < width)
    (hSmall : n < 10 ^ width) :
    (paddedDigits width n).length = width := by
  have hLength : (digits n).length ≤ width :=
    (Nat.length_toDigits_le_iff (by decide) hWidth).mpr hSmall
  rw [paddedDigits, List.length_append, List.length_replicate]
  omega

/- A character that is not blank is left by dropping blanks. -/
theorem dropBlanks_cons
    {c : Char}
    (rest : List Char)
    (hBlank : isBlank c = false) :
    dropBlanks (c :: rest) = c :: rest := by
  rw [dropBlanks, List.dropWhile_cons_of_neg (by simp [hBlank])]

theorem isBlank_of_isDigit
    {c : Char}
    (hDigit : c.isDigit = true) :
    isBlank c = false := by
  rcases Json.isDigit_cases hDigit with ⟨d, hd, rfl⟩
  interval_cases d <;> decide

end Text

end Interchain

------------------------------------------------------------
-- Numbers
------------------------------------------------------------

namespace Interchain

namespace Instant

theorem numberOf_eq_ofDigitChars (ds : List Char) :
    numberOf ds = Nat.ofDigitChars 10 ds 0 := by
  unfold numberOf
  generalize 0 = n
  induction ds generalizing n with
  | nil => rw [Nat.ofDigitChars_nil, List.foldl_nil]
  | cons c rest ih =>
      rw [List.foldl_cons, ih, Nat.ofDigitChars_cons,
        Nat.mul_comm]

/- Padding does not change the number. -/
theorem numberOf_paddedDigits (width n : Nat) :
    numberOf (Text.paddedDigits width n) = n := by
  rw [numberOf_eq_ofDigitChars, Text.paddedDigits,
    Nat.ofDigitChars_append, Nat.ofDigitChars_replicate_zero,
    Nat.mul_zero]
  exact Nat.ofDigitChars_ten_toDigits

/- A text that starts with no digit. -/
def EndsDigits (rest : List Char) : Prop :=
  ∀ c ∈ rest.head?, c.isDigit = false

variable {ds rest : List Char}

/- Digits are taken up to what is none. -/
theorem takeWhile_isDigit
    (hDigits : ∀ c ∈ ds, c.isDigit = true)
    (hEnds : EndsDigits rest) :
    (ds ++ rest).takeWhile Char.isDigit = ds := by
  rw [List.takeWhile_append_of_pos hDigits]
  cases rest with
  | nil => simp
  | cons c rest => simp [hEnds c rfl]

/- A number ends after the most digits that it may have, or
   before a character that is no digit. -/
theorem numberFront?_digits
    (most : Nat)
    (rest : List Char)
    (hDigits : ∀ c ∈ ds, c.isDigit = true)
    (hSome : ds ≠ [])
    (hMost :
      ds.length = most ∨
        ds.length ≤ most ∧ EndsDigits rest) :
    numberFront? most (ds ++ rest) =
      some (numberOf ds, rest) := by
  have hTaken :
      ((ds ++ rest).take most).takeWhile Char.isDigit = ds := by
    rcases hMost with rfl | ⟨hLength, hEnds⟩
    · rw [List.take_left]
      exact List.takeWhile_eq_self_iff.mpr hDigits
    · rw [List.take_append, List.take_of_length_le hLength]
      apply takeWhile_isDigit hDigits
      cases rest with
      | nil => simp [EndsDigits]
      | cons c rest =>
          cases most - ds.length with
          | zero => simp [EndsDigits]
          | succ left => exact hEnds
  cases ds with
  | nil => exact (hSome rfl).elim
  | cons d ds =>
      simp only [numberFront?, hTaken]
      rw [List.drop_left]

/- A field of two digits. -/
theorem fieldFront?_paddedDigits
    {n : Nat}
    (rest : List Char)
    (hSmall : n < 100) :
    fieldFront? (Text.paddedDigits 2 n ++ rest) =
      some (n, rest) := by
  have hDigits :
      ∀ c ∈ Text.paddedDigits 2 n, c.isDigit = true :=
    fun c hc => Text.isDigit_of_mem_paddedDigits hc
  have hFront :=
    numberFront?_digits 2 rest hDigits
      Text.paddedDigits_ne_nil
      (Or.inl (Text.length_paddedDigits (by decide) hSmall))
  rw [numberOf_paddedDigits] at hFront
  rw [← hFront, fieldFront?]
  congr 1
  cases hCases : Text.paddedDigits 2 n with
  | nil => exact (Text.paddedDigits_ne_nil hCases).elim
  | cons d ds =>
      rw [hCases] at hDigits
      exact Text.dropBlanks_cons _
        (Text.isBlank_of_isDigit (hDigits d List.mem_cons_self))

end Instant

end Interchain

------------------------------------------------------------
-- Dates
------------------------------------------------------------

namespace Interchain

namespace Instant

/- A mark is skipped where it stands. -/
theorem skipMark?_cons
    {mark : Char}
    (rest : List Char)
    (hBlank : Text.isBlank mark = false) :
    skipMark? mark (mark :: rest) = some rest := by
  rw [skipMark?, Text.dropBlanks_cons rest hBlank]
  simp

/- A year after a sign has all the digits there are. -/
theorem longNumberFront?_paddedDigits
    {rest : List Char}
    (n : Nat)
    (hEnds : EndsDigits rest) :
    longNumberFront? (Text.paddedDigits 4 n ++ rest) =
      some (n, rest) := by
  have hSome : Text.paddedDigits 4 n ≠ [] :=
    Text.paddedDigits_ne_nil
  have hFront :=
    numberFront?_digits (Text.paddedDigits 4 n ++ rest).length
      rest (fun _ hc => Text.isDigit_of_mem_paddedDigits hc)
      hSome (Or.inr ⟨by simp, hEnds⟩)
  rwa [numberOf_paddedDigits] at hFront

/- A text that starts with a digit has no sign. -/
theorem yearFront?_digit
    {c : Char}
    (rest : List Char)
    (hDigit : c.isDigit = true) :
    yearFront? (c :: rest) =
      (numberFront? 4 (c :: rest)).map fun (n, left) =>
        ((n : Int), left) := by
  rw [yearFront?,
    Text.dropBlanks_cons rest (Text.isBlank_of_isDigit hDigit)]
  split
  case h_1 hSign =>
    rw [(List.cons.inj hSign).1] at hDigit
    simp at hDigit
  case h_2 hSign =>
    rw [(List.cons.inj hSign).1] at hDigit
    simp at hDigit
  case h_3 => rfl

/- A year is read back. -/
theorem yearFront?_yearChars
    (year : Int)
    (rest : List Char)
    (hEnds : EndsDigits rest) :
    yearFront? (Date.yearChars year ++ rest) =
      some (year, rest) := by
  have hLong := longNumberFront?_paddedDigits year.natAbs hEnds
  unfold Date.yearChars
  split
  case isTrue hBefore =>
    rw [List.cons_append, yearFront?,
      Text.dropBlanks_cons _ (by decide)]
    simp only [hLong, Option.map_some]
    congr
    omega
  case isFalse hAfter =>
    split
    case isTrue hShort =>
      have hDigits :
          ∀ c ∈ Text.paddedDigits 4 year.natAbs,
            c.isDigit = true :=
        fun _ hc => Text.isDigit_of_mem_paddedDigits hc
      have hLength :
          (Text.paddedDigits 4 year.natAbs).length = 4 :=
        Text.length_paddedDigits (by decide) (by omega)
      have hFront :=
        numberFront?_digits 4 rest hDigits
          Text.paddedDigits_ne_nil (Or.inl hLength)
      rw [numberOf_paddedDigits] at hFront
      cases hCases : Text.paddedDigits 4 year.natAbs with
      | nil => exact (Text.paddedDigits_ne_nil hCases).elim
      | cons d ds =>
          rw [hCases] at hDigits hFront
          rw [List.cons_append,
            yearFront?_digit _ (hDigits d List.mem_cons_self),
            ← List.cons_append, hFront, Option.map_some]
          simp only [Int.natAbs_of_nonneg (not_lt.mp hAfter)]
    case isFalse hLate =>
      rw [List.cons_append, yearFront?,
        Text.dropBlanks_cons _ (by decide)]
      simp only [hLong, Option.map_some]
      congr
      omega

/- A valid date is read in front of anything. -/
theorem dateFront?_chars
    {d : Date}
    (rest : List Char)
    (hValid : d.isValid = true) :
    dateFront? (d.chars ++ rest) = some (d, rest) := by
  have hMonth : d.month < 100 ∧ d.dayOfMonth < 100 := by
    have hDays : Date.daysInMonth d.year d.month ≤ 31 := by
      unfold Date.daysInMonth
      split <;> split <;> decide
    simp [Date.isValid] at hValid
    omega
  have hYear :=
    yearFront?_yearChars d.year
      ('-' :: (Text.paddedDigits 2 d.month ++
        '-' :: (Text.paddedDigits 2 d.dayOfMonth ++ rest)))
      (by simp [EndsDigits])
  simp [dateFront?, Date.chars, List.append_assoc, hYear,
    skipMark?_cons _ (show Text.isBlank '-' = false by decide),
    fieldFront?_paddedDigits _ hMonth.1,
    fieldFront?_paddedDigits _ hMonth.2, hValid]

end Instant

end Interchain

------------------------------------------------------------
-- Times of Day
------------------------------------------------------------

namespace Interchain

namespace Instant

/- Digits of a fraction count for as much as they would with
   zeros up to the ninth. -/
theorem fractionFront?_paddedDigits
    {width n : Nat}
    {rest : List Char}
    (hWidth : 0 < width ∧ width ≤ 9)
    (hSmall : n < 10 ^ width)
    (hEnds : EndsDigits rest) :
    fractionFront? ('.' :: Text.paddedDigits width n ++ rest) =
      some (n * Nat.pow 10 (9 - width), rest) := by
  have hDigits :
      ∀ c ∈ Text.paddedDigits width n, c.isDigit = true :=
    fun _ hc => Text.isDigit_of_mem_paddedDigits hc
  have hLength := Text.length_paddedDigits hWidth.1 hSmall
  have hTake := takeWhile_isDigit hDigits hEnds
  have hDrop :
      (Text.paddedDigits width n ++ rest).dropWhile
        Char.isDigit = rest := by
    rw [List.dropWhile_append_of_pos hDigits]
    cases rest with
    | nil => rfl
    | cons c rest => simp [hEnds c rfl]
  have hNumber := numberOf_paddedDigits width n
  rw [List.cons_append, fractionFront?]
  simp only [hDrop]
  rw [hTake]
  cases hCases : Text.paddedDigits width n with
  | nil => exact (Text.paddedDigits_ne_nil hCases).elim
  | cons d ds =>
      rw [hCases] at hLength hNumber
      have hNine : (d :: ds).take 9 = d :: ds :=
        List.take_of_length_le (by omega)
      simp only [hNine, hNumber, hLength]

/- The digits that are written are exact. -/
theorem fractionFront?_fractionChars
    {nanos : Nat}
    {rest : List Char}
    (hNanos : nanos < Span.nanosPerSecond)
    (hEnds : EndsDigits rest)
    (hPoint : rest.head? ≠ some '.') :
    fractionFront? (fractionChars nanos ++ rest) =
      some (nanos, rest) := by
  simp only [Span.nanosPerSecond] at hNanos
  unfold fractionChars
  split
  case isTrue hNone =>
    subst hNone
    rw [List.nil_append]
    unfold fractionFront?
    split
    case h_1 => simp at hPoint
    case h_2 => rfl
  case isFalse =>
    split
    case isTrue hMillis =>
      rw [fractionFront?_paddedDigits (by decide) (by omega)
        hEnds]
      congr
      change nanos / 1000000 * 1000000 = nanos
      omega
    case isFalse =>
      split
      case isTrue hMicros =>
        rw [fractionFront?_paddedDigits (by decide) (by omega)
          hEnds]
        congr
        change nanos / 1000 * 1000 = nanos
        omega
      case isFalse =>
        rw [fractionFront?_paddedDigits (by decide) (by omega)
          hEnds]
        congr
        exact Nat.mul_one nanos

end Instant

end Interchain

------------------------------------------------------------
-- Instants
------------------------------------------------------------

namespace Interchain

namespace Instant

variable {t : Instant}

/- A time of day is read in front of the mark of a time
   zone. -/
theorem timeFront?_chars
    (rest : List Char)
    (hNanos : t.nanos < Span.nanosPerSecond)
    (hEnds : EndsDigits rest)
    (hPoint : rest.head? ≠ some '.') :
    timeFront?
        (Text.paddedDigits 2 (t.secondOfDay / 3600) ++
          ':' :: (Text.paddedDigits 2 (t.secondOfDay / 60 % 60) ++
            ':' :: (Text.paddedDigits 2 t.clockSecond ++
              (fractionChars (t.nanos % Span.nanosPerSecond) ++
                rest)))) =
      some ((t.secondOfDay, t.nanos), rest) := by
  have hDay : t.secondOfDay < 86400 := by
    unfold secondOfDay
    omega
  have hClock : t.clockSecond = t.secondOfDay % 60 :=
    if_neg (not_le.mpr hNanos)
  have hFraction :=
    fractionFront?_fractionChars hNanos hEnds hPoint
  have hColon : Text.isBlank ':' = false := by decide
  have hHour : t.secondOfDay / 3600 < 24 := by omega
  have hMinute : t.secondOfDay / 60 % 60 < 60 := by omega
  have hSecond : t.secondOfDay % 60 < 60 := by omega
  have hSum :
      (t.secondOfDay / 3600 * 60 + t.secondOfDay / 60 % 60) *
          60 + t.secondOfDay % 60 =
        t.secondOfDay := by
    omega
  rw [hClock, Nat.mod_eq_of_lt hNanos]
  simp only [timeFront?,
    fieldFront?_paddedDigits _
      (show t.secondOfDay / 3600 < 100 by omega),
    fieldFront?_paddedDigits _
      (show t.secondOfDay / 60 % 60 < 100 by omega),
    fieldFront?_paddedDigits _
      (show t.secondOfDay % 60 < 100 by omega),
    skipMark?_cons _ hColon, hFraction, Option.bind_eq_bind,
    Option.bind_some, hHour, hMinute, hSecond.le, hSecond.ne,
    hSum, and_self, if_true, if_false]
  rfl

/- What the calendar holds: the seconds from its first day to
   its last. -/
theorem isWithinCalendar_iff :
    t.isWithinCalendar = true ↔
      Date.day ⟨Date.firstYear, 1, 1⟩ * 86400 ≤ t.seconds ∧
        t.seconds ≤
          Date.day ⟨Date.lastYear, 12, 31⟩ * 86400 + 86399 := by
  simp only [isWithinCalendar, Bool.and_eq_true,
    decide_eq_true_eq]
  rfl

/- An instant of the calendar, outside a leap second, is read
   back from its written form. -/
theorem ofText?_zulu
    (hCalendar : t.isWithinCalendar = true)
    (hNanos : t.nanos < Span.nanosPerSecond) :
    ofText? t.zulu = some t := by
  have hValid : t.date.isValid = true := by
    rcases isWithinCalendar_iff.mp hCalendar with
      ⟨hFirst, hLast⟩
    exact Date.isValid_ofDay (by omega) (by omega)
  have hTime :=
    timeFront?_chars (t := t) ['Z'] hNanos
      (by simp [EndsDigits]) (by simp)
  have hDay : t.date.day = t.seconds / 86400 :=
    Date.day_ofDay _
  have hSeconds :
      t.seconds / 86400 * 86400 + (t.secondOfDay : Int) - 0 =
        t.seconds := by
    unfold secondOfDay
    omega
  have hZone : Text.dropBlanks ['Z'] = ['Z'] :=
    Text.dropBlanks_cons [] (by decide)
  simp only [ofText?, zulu, chars, String.toList_ofList,
    List.append_assoc, List.cons_append,
    dateFront?_chars _ hValid, skipTimeMark?, hTime, hZone,
    zoneFront?, hDay, hSeconds, Option.bind_eq_bind,
    Option.bind_some]
  exact if_pos ⟨rfl, hCalendar⟩

end Instant

end Interchain
