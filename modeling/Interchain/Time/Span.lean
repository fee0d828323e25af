import Interchain.Json.Recorded

/-
  Spans of time.

  A span is written as a record of whole seconds and
  nanoseconds.

  Main declarations:
    * `Span`
    * `Span.ofParts?`
-/

------------------------------------------------------------
-- Spans
------------------------------------------------------------

namespace Interchain

/- Whole seconds, and less than a second of nanoseconds. -/
structure Span where
  seconds : UInt64
  nanos : UInt32
  deriving DecidableEq

namespace Span

/- No time at all. -/
def zero : Span := ⟨0, 0⟩

/- A number of seconds. -/
def ofSeconds (seconds : UInt64) : Span := ⟨seconds, 0⟩

/- No time passes. -/
def isZero (s : Span) : Bool := s == zero

/- The nanoseconds in a second. -/
def nanosPerSecond : Nat := 1000000000

/- The whole span in nanoseconds. -/
def totalNanos (s : Span) : Nat :=
  s.seconds.toNat * nanosPerSecond + s.nanos.toNat

/-
  A span from seconds and any number of nanoseconds, unless
  the seconds leave the range of a word.
-/
def ofParts? (seconds nanos : Nat) : Option Span :=
  let whole := seconds + nanos / nanosPerSecond
  if whole < UInt64.size then
    some
      ⟨UInt64.ofNat whole,
        UInt32.ofNat (nanos % nanosPerSecond)⟩
  else
    none

end Span

end Interchain

------------------------------------------------------------
-- Plain Form
------------------------------------------------------------

namespace Interchain

namespace Span

/- The record of a span. -/
def toJson (s : Span) : Json :=
  .object
    [ ("secs", .ofWord s.seconds),
      ("nanos", .natural s.nanos.toNat) ]

/-
  Nanoseconds past a second are carried.  Both members must be
  present, and no other may be.
-/
def ofJson? (value : Json) : Option Span := do
  let full : Bool :=
    match value with
    | .array items => items.length == 2
    | _ => true
  if full then
    match ← value.slots? .strict ["secs", "nanos"] with
    | [seconds, nanos] =>
        let seconds ← Json.required? Json.word? seconds
        let nanos ←
          Json.required? (Json.below? UInt32.size) nanos
        ofParts? seconds.toNat nanos
    | _ => none
  else
    none

instance : Recorded Span := ⟨toJson, ofJson?⟩

end Span

end Interchain
