import Interchain.Height
import Interchain.Timestamp

/-
  Timeouts: a height, a time, or both.

  A packet expires after its timeout height; an upgrade runs
  out when its timeout height is reached.

  Main declarations:
    * `TimeoutHeight`
    * `UpgradeTimeout`
    * `UpgradeTimeout.hasElapsed`
-/

------------------------------------------------------------
-- Timeout Heights
------------------------------------------------------------

namespace Interchain

/- The height that ends an upgrade, if one does. -/
inductive TimeoutHeight where
  | never
  | at (height : Height)
  deriving DecidableEq

namespace TimeoutHeight

/- There is a height. -/
def isSet : TimeoutHeight → Bool
  | .never => false
  | .at _ => true

/- The revision in a packet commitment; zero for never. -/
def revision : TimeoutHeight → UInt64
  | .never => 0
  | .at height => height.revision

/- The block in a packet commitment; zero for never. -/
def block : TimeoutHeight → UInt64
  | .never => 0
  | .at height => height.block

/- A height past the timeout. -/
def hasExpired (t : TimeoutHeight) (now : Height) : Bool :=
  match t with
  | .never => false
  | .at height => decide (height < now)

/- A height at the timeout or past it. -/
def isReached (t : TimeoutHeight) (now : Height) : Bool :=
  match t with
  | .never => false
  | .at height => decide (height ≤ now)

/- How a height is written in a message, or that there is none. -/
def display : TimeoutHeight → String
  | .never => "no timeout"
  | .at height => height.display

/- Never is written as the height zero of revision zero. -/
def toJson (t : TimeoutHeight) : Json :=
  Height.toJson ⟨t.revision, t.block⟩

/- A height with block zero is read as never. -/
def ofJson? (value : Json) : Option TimeoutHeight :=
  (Height.ofJson? value).map fun h =>
    match Height.make? h.revision h.block with
    | some height => .at height
    | none => .never

instance : Recorded TimeoutHeight := ⟨toJson, ofJson?⟩

end TimeoutHeight

end Interchain

------------------------------------------------------------
-- Upgrade Timeouts
------------------------------------------------------------

namespace Interchain

/- When an upgrade runs out: at a height, at a time, or at the
   earlier of both. -/
structure UpgradeTimeout where
  height : TimeoutHeight
  timestamp : Timestamp
  deriving DecidableEq

namespace UpgradeTimeout

/- Only the height counts. -/
def atHeight (height : Height) : UpgradeTimeout :=
  ⟨.at height, .unset⟩

/- Only the time counts. -/
def atTimestamp (timestamp : Timestamp) : UpgradeTimeout :=
  ⟨.never, timestamp⟩

/- A timeout that can elapse. -/
def isValid (t : UpgradeTimeout) : Bool :=
  t.height.isSet || t.timestamp.isSet

/- Either part is reached. -/
def hasElapsed
    (t : UpgradeTimeout)
    (height : Height)
    (timestamp : Timestamp) :
    Bool :=
  t.height.isReached height ||
    t.timestamp.isReached timestamp

/- How a deadline is written in a message. -/
def display (t : UpgradeTimeout) : String :=
  "UpgradeTimeout \x7b height: " ++ t.height.display ++
    ", timestamp: " ++ t.timestamp.display ++ " \x7d"

/- The record of a deadline. -/
def toJson (t : UpgradeTimeout) : Json :=
  .object
    [ ("height", t.height.toJson),
      ("timestamp", t.timestamp.toJson) ]

/- The deadline that a record describes. -/
def ofJson? (value : Json) : Option UpgradeTimeout := do
  match ← value.slots? .lenient ["height", "timestamp"] with
  | [height, timestamp] =>
      let height ← Json.required? TimeoutHeight.ofJson? height
      let timestamp ← Json.required? Timestamp.ofJson? timestamp
      return ⟨height, timestamp⟩
  | _ => none

instance : Recorded UpgradeTimeout := ⟨toJson, ofJson?⟩

end UpgradeTimeout

end Interchain
