import Interchain.Text.Blank
import Interchain.Time.Date
import Interchain.Time.Span

/-
  Instants of universal time.

  An instant counts the seconds from 1970-01-01T00:00:00 and
  the nanoseconds within the second.  During a leap second the
  nanoseconds run on past one thousand million, and the clock
  shows second 60.

  The written form is that of RFC 3339 with as many fraction
  digits, of 0, 3, 6 and 9, as are exact.

  Main declarations:
    * `Instant`
    * `Instant.add?`
    * `Instant.chars`
-/

------------------------------------------------------------
-- Instants
------------------------------------------------------------

namespace Interchain

/- A moment, counted from the epoch. -/
structure Instant where
  seconds : Int
  nanos : Nat
  deriving DecidableEq

namespace Instant

/- The instant a number of nanoseconds after 1970. -/
def ofNanoseconds (n : Nat) : Instant :=
  ⟨n / Span.nanosPerSecond, n % Span.nanosPerSecond⟩

/- The earlier instant first; seconds decide before their
   parts. -/
def compare (s t : Instant) : Ordering :=
  if s.seconds < t.seconds then .lt
  else if t.seconds < s.seconds then .gt
  else Ord.compare s.nanos t.nanos

/- One instant is at or after another. -/
def isAtOrAfter (s t : Instant) : Bool :=
  t.seconds < s.seconds ||
    (t.seconds == s.seconds && t.nanos ≤ s.nanos)

/- The first second of the calendar. -/
def firstSecond : Int :=
  Date.day ⟨Date.firstYear, 1, 1⟩ * 86400

/- The last second of the calendar. -/
def lastSecond : Int :=
  Date.day ⟨Date.lastYear, 12, 31⟩ * 86400 + 86399

/- An instant that lies within the calendar. -/
def isWithinCalendar (t : Instant) : Bool :=
  firstSecond ≤ t.seconds && t.seconds ≤ lastSecond

end Instant

end Interchain

------------------------------------------------------------
-- Addition
------------------------------------------------------------

namespace Interchain

namespace Instant

/- The longest span that can be added, in nanoseconds. -/
def longestNanos : Nat := (UInt64.size / 2 - 1) * 1000000

/-
  An instant later by a span, without regard to the calendar.
  A span that ends within the leap second it starts in stays
  in it; a longer one takes the leap second for the second
  after it.
-/
def later (t : Instant) (s : Span) : Instant :=
  let sum := t.nanos + s.nanos.toNat
  if Span.nanosPerSecond ≤ t.nanos ∧
      s.seconds = 0 ∧ sum < 2 * Span.nanosPerSecond then
    ⟨t.seconds, sum⟩
  else if Span.nanosPerSecond ≤ t.nanos then
    let rest := sum - Span.nanosPerSecond
    ⟨t.seconds + s.seconds.toNat + rest / Span.nanosPerSecond,
      rest % Span.nanosPerSecond⟩
  else
    ⟨t.seconds + s.seconds.toNat + sum / Span.nanosPerSecond,
      sum % Span.nanosPerSecond⟩

/-
  An instant later by a span, unless the span is too long or
  the calendar ends before.
-/
def add? (t : Instant) (s : Span) : Option Instant :=
  if s.totalNanos ≤ longestNanos ∧
      (t.later s).seconds ≤ lastSecond then
    some (t.later s)
  else
    none

end Instant

end Interchain

------------------------------------------------------------
-- Writing
------------------------------------------------------------

namespace Interchain

namespace Instant

/- The date of an instant. -/
def date (t : Instant) : Date :=
  Date.ofDay (t.seconds / 86400)

/- The seconds since midnight. -/
def secondOfDay (t : Instant) : Nat :=
  (t.seconds % 86400).toNat

/- The second on the clock: 60 within a leap second. -/
def clockSecond (t : Instant) : Nat :=
  if Span.nanosPerSecond ≤ t.nanos then
    t.secondOfDay % 60 + 1
  else
    t.secondOfDay % 60

/- The fraction of a second, if there is one. -/
def fractionChars (nanos : Nat) : List Char :=
  if nanos = 0 then []
  else if nanos % 1000000 = 0 then
    '.' :: Text.paddedDigits 3 (nanos / 1000000)
  else if nanos % 1000 = 0 then
    '.' :: Text.paddedDigits 6 (nanos / 1000)
  else
    '.' :: Text.paddedDigits 9 nanos

/- The written form, up to the mark of the time zone. -/
def chars (t : Instant) : List Char :=
  t.date.chars ++
    'T' :: Text.paddedDigits 2 (t.secondOfDay / 3600) ++
    ':' :: Text.paddedDigits 2 (t.secondOfDay / 60 % 60) ++
    ':' :: Text.paddedDigits 2 t.clockSecond ++
    fractionChars (t.nanos % Span.nanosPerSecond)

/- The written form that ends in the letter Z. -/
def zulu (t : Instant) : String :=
  String.ofList (t.chars ++ ['Z'])

/- The written form that ends in a numeric offset. -/
def withOffset (t : Instant) : String :=
  String.ofList (t.chars ++ "+00:00".toList)

end Instant

end Interchain
