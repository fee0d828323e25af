import Interchain.Text.Blank
import Interchain.Text.Decimal
import Interchain.Time.Span

/-
  The spoken form of spans.

  It is a text such as `1h 30m`: numbers with units, added up.
  A month is 30.44 days and a year 365.25.  A number may have
  a fraction, such as `1.5h`, as long as it comes out even.
  Numbers and sums that leave the range of a 64-bit word are
  refused.

  Main declarations:
    * `Span.TimeUnit`
    * `Span.spoken`
    * `Span.ofSpoken?`
-/

------------------------------------------------------------
-- Units
------------------------------------------------------------

namespace Interchain

namespace Span

/- The units that a span is spoken in. -/
inductive TimeUnit where
  | nanosecond
  | microsecond
  | millisecond
  | second
  | minute
  | hour
  | day
  | week
  | month
  | year
  deriving DecidableEq

namespace TimeUnit

/- The spellings of a unit. -/
def spellings : TimeUnit → List String
  | .nanosecond => ["nanos", "nsec", "ns"]
  | .microsecond => ["usec", "us", "µs"]
  | .millisecond => ["millis", "msec", "ms"]
  | .second => ["seconds", "second", "secs", "sec", "s"]
  | .minute => ["minutes", "minute", "mins", "min", "m"]
  | .hour => ["hours", "hour", "hrs", "hr", "h"]
  | .day => ["days", "day", "d"]
  | .week => ["weeks", "week", "wks", "wk", "w"]
  | .month => ["months", "month", "M"]
  | .year => ["years", "year", "yrs", "yr", "y"]

/- The nanoseconds of a unit shorter than a second. -/
def nanos : TimeUnit → Nat
  | .nanosecond => 1
  | .microsecond => 1000
  | .millisecond => 1000000
  | _ => 0

/- The seconds of a unit that is not. -/
def seconds : TimeUnit → Nat
  | .second => 1
  | .minute => 60
  | .hour => 3600
  | .day => 86400
  | .week => 604800
  | .month => 2630016
  | .year => 31557600
  | _ => 0

/- Every unit. -/
def all : List TimeUnit :=
  [.nanosecond, .microsecond, .millisecond, .second,
    .minute, .hour, .day, .week, .month, .year]

/-
  The seconds and nanoseconds that a fraction of a unit is a
  share of: nanoseconds up to a minute, whole seconds from an
  hour on.  A nanosecond has no fraction.
-/
def divisible? : TimeUnit → Option (Nat × Nat)
  | .nanosecond => none
  | .second => some (0, 1000000000)
  | .minute => some (0, 60000000000)
  | unit => some (unit.seconds, unit.nanos)

/- The unit of a spelling. -/
def ofSpelling? (s : String) : Option TimeUnit :=
  all.find? fun unit => unit.spellings.contains s

end TimeUnit

end Span

end Interchain

------------------------------------------------------------
-- Writing
------------------------------------------------------------

namespace Interchain

namespace Span

/- A part with a unit that stays as it is. -/
def shortPart (n : Nat) (unit : String) : List String :=
  if n = 0 then [] else [Text.decimal n ++ unit]

/- A part with a unit that takes an s in the plural. -/
def longPart (n : Nat) (unit : String) : List String :=
  if n = 0 then []
  else if n = 1 then [Text.decimal n ++ unit]
  else [Text.decimal n ++ unit ++ "s"]

/-
  Years, months, days, hours, minutes, seconds and the parts
  of a second, without those that are zero.
-/
def spoken (s : Span) : String :=
  let total := s.seconds.toNat
  let inYear := total % 31557600
  let inMonth := inYear % 2630016
  let inDay := inMonth % 86400
  let nanos := s.nanos.toNat
  let parts :=
    longPart (total / 31557600) "year" ++
    longPart (inYear / 2630016) "month" ++
    longPart (inMonth / 86400) "day" ++
    shortPart (inDay / 3600) "h" ++
    shortPart (inDay % 3600 / 60) "m" ++
    shortPart (inDay % 60) "s" ++
    shortPart (nanos / 1000000) "ms" ++
    shortPart (nanos / 1000 % 1000) "us" ++
    shortPart (nanos % 1000) "ns"
  if parts = [] then "0s" else String.intercalate " " parts

end Span

end Interchain

------------------------------------------------------------
-- Adding Up
------------------------------------------------------------

namespace Interchain

namespace Span

/- A number below 2^64, or nothing. -/
def withinWord (n : Nat) : Option Nat :=
  if n < UInt64.size then some n else none

/- Whole seconds, and less than a second of nanoseconds, as
   far as a text is read. -/
abbrev Tally := Nat × Nat

namespace Tally

/- Add seconds and nanoseconds. -/
def add?
    (tally : Tally)
    (seconds nanos : Nat) :
    Option Tally := do
  let nanos ← withinWord (tally.2 + nanos)
  let seconds ← withinWord
    (tally.1 + seconds + nanos / nanosPerSecond)
  return (seconds, nanos % nanosPerSecond)

/- Add a number of units. -/
def addUnits?
    (tally : Tally)
    (n : Nat)
    (unit : TimeUnit) :
    Option Tally := do
  let seconds ← withinWord (n * unit.seconds)
  let nanos ← withinWord (n * unit.nanos)
  tally.add? seconds nanos

end Tally

/- A fraction of one. -/
structure Fraction where
  numerator : Nat
  denominator : Nat
  deriving DecidableEq

/- The share of an amount, if it comes out even. -/
def Fraction.share?
    (f : Fraction)
    (amount : Nat) :
    Option Nat := do
  let product ← withinWord (f.numerator * amount)
  if product % f.denominator = 0 then
    return product / f.denominator
  else
    none

/- Add a fraction of a unit. -/
def Tally.addFraction?
    (tally : Tally)
    (f : Fraction)
    (unit : TimeUnit) :
    Option Tally := do
  let (seconds, nanos) ← unit.divisible?
  tally.add? (← f.share? seconds) (← f.share? nanos)

end Span

end Interchain

------------------------------------------------------------
-- Reading
------------------------------------------------------------

namespace Interchain

namespace Span

/- Blanks may stand between the digits of a number. -/
def numberChar (c : Char) : Bool :=
  c.isDigit || Text.isBlank c

/- The characters that the spellings of units consist of. -/
def unitChar (c : Char) : Bool :=
  c.isAlpha || c == 'µ'

/- The number that digits spell. -/
def digitsNumber? (digits : List Char) : Option Nat :=
  match Text.appendDigits UInt64.size 0 digits with
  | .ok n => some n
  | .error _ => none

/- The fraction that digits after the point spell.  There is
   at least one. -/
def digitsFraction? (digits : List Char) : Option Fraction := do
  if digits.isEmpty then none
  else
    return ⟨← digitsNumber? digits,
      ← withinWord (Nat.pow 10 digits.length)⟩

/- The digits at the front, without the blanks between them,
   and what follows. -/
def digitsFront (cs : List Char) : List Char × List Char :=
  ((cs.takeWhile numberChar).filter Char.isDigit,
    cs.dropWhile numberChar)

/- The fraction at the front, if a point stands there, and
   what follows. -/
def fractionFront? :
    List Char → Option (Option Fraction × List Char)
  | '.' :: cs => do
      let (digits, rest) := digitsFront cs
      return (some (← digitsFraction? digits), rest)
  | cs => some (none, cs)

/-
  Add up parts: a number, its fraction, its unit, and blanks.
  A part starts with a digit and takes at least that, so the
  fuel lasts.
-/
def addParts : Nat → List Char → Tally → Option Tally
  | 0, _, _ => none
  | fuel + 1, cs, tally => do
      if (cs.head?.map Char.isDigit).getD false then
        let (digits, afterNumber) := digitsFront cs
        let n ← digitsNumber? digits
        let (fraction, afterFraction) ←
          fractionFront? afterNumber
        let unit ← TimeUnit.ofSpelling?
          (String.ofList (afterFraction.takeWhile unitChar))
        let tally ← tally.addUnits? n unit
        let tally ← match fraction with
          | none => some tally
          | some f => tally.addFraction? f unit
        let rest :=
          Text.dropBlanks (afterFraction.dropWhile unitChar)
        if rest.isEmpty then return tally
        else addParts fuel rest tally
      else
        none

/- A lone zero needs no unit. -/
def ofSpoken? (text : String) : Option Span :=
  if text = "0" then
    some zero
  else do
    let cs := Text.dropBlanks text.toList
    let (seconds, nanos) ← addParts cs.length cs (0, 0)
    ofParts? seconds nanos

end Span

end Interchain
