import Interchain.Json.Recorded
import Interchain.Time.Reader
import Interchain.Trace

/-
  Timestamps: an instant, or none.

  The time of a block is given in nanoseconds as a 64-bit
  word, where zero stands for no time at all.  A timestamp
  read from a record may hold any instant of the calendar; one
  before 1970 counts no seconds.

  Main declarations:
    * `Timestamp`
    * `Timestamp.ofNanoseconds`
    * `Timestamp.nanoseconds`
    * `Timestamp.isReached`
    * `Timestamp.add`
-/

------------------------------------------------------------
-- Timestamps
------------------------------------------------------------

namespace Interchain

/- A moment, or none. -/
structure Timestamp where
  time : Option Instant
  deriving DecidableEq

/- Why there is no such timestamp. -/
inductive TimestampError where
  | numeral (cause : NumeralError)
  | overflow
  deriving DecidableEq

namespace TimestampError

/- What is reported of an error. -/
def message : TimestampError → String
  | .numeral _ => "error parsing u64 integer from string"
  | .overflow => "Timestamp overflow when modifying with duration"

/- The name of an error. -/
def name : TimestampError → String
  | .numeral _ => "ParseInt"
  | .overflow => "TimestampOverflow"

instance : Traced TimestampError where
  trace e := [⟨e.name, e.message⟩]

end TimestampError

namespace Timestamp

/- The timestamp that stands for no moment. -/
def unset : Timestamp := ⟨none⟩

/- There is a moment. -/
def isSet (t : Timestamp) : Bool := t.time.isSome

/- Zero nanoseconds stand for no time. -/
def ofNanoseconds (n : UInt64) : Timestamp :=
  if n = 0 then unset
  else ⟨some (Instant.ofNanoseconds n.toNat)⟩

/- Read a numeral of nanoseconds. -/
def ofText (text : String) : Except TimestampError Timestamp :=
  match Text.readWord text with
  | .ok n => .ok (ofNanoseconds n)
  | .error cause => .error (.numeral cause)

/- The nanoseconds since 1970, modulo the range of a word. -/
def nanoseconds (t : Timestamp) : UInt64 :=
  match t.time with
  | none => 0
  | some i =>
      UInt64.ofNat i.seconds.toNat * 1000000000 +
        UInt64.ofNat i.nanos

/- A deadline is reached by a time at or after it; neither a
   missing time nor a missing deadline is. -/
def isReached (deadline now : Timestamp) : Bool :=
  match now.time, deadline.time with
  | some n, some d => n.isAtOrAfter d
  | _, _ => false

/- No time comes before every time. -/
def compare (s t : Timestamp) : Ordering :=
  match s.time, t.time with
  | none, none => .eq
  | none, some _ => .lt
  | some _, none => .gt
  | some i, some j => i.compare j

/- A span after no time is no time. -/
def add
    (t : Timestamp)
    (s : Span) :
    Except TimestampError Timestamp :=
  match t.time with
  | none => .ok t
  | some i =>
      match i.add? s with
      | some later => .ok ⟨some later⟩
      | none => .error .overflow

end Timestamp

end Interchain

------------------------------------------------------------
-- Written Timestamps
------------------------------------------------------------

namespace Interchain

namespace Timestamp

/- How a timestamp is written in a message. -/
def display (t : Timestamp) : String :=
  match t.time with
  | none => "Timestamp(NoTimestamp)"
  | some i => "Timestamp(" ++ i.withOffset ++ ")"

/- The record of a timestamp. -/
def toJson (t : Timestamp) : Json :=
  .object
    [("time", .ofOption (fun i => .text i.zulu) t.time)]

/- The timestamp that a record describes, of any date. -/
def ofJson? (value : Json) : Option Timestamp := do
  match ← value.slots? .lenient ["time"] with
  | [time] =>
      let time ← Json.optional?
        (fun v => v.text?.bind Instant.ofText?) time
      return ⟨time⟩
  | _ => none

instance : Recorded Timestamp := ⟨toJson, ofJson?⟩

end Timestamp

end Interchain
