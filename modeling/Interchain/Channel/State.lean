import Interchain.Json.Recorded

/-
  States of a channel end.

  An upgrade takes an end from open through flushing, while
  packets are in flight, to flush complete, and back to open.

  Main declarations:
    * `ChannelState`
    * `ChannelState.isUpgrading`
-/

------------------------------------------------------------
-- States
------------------------------------------------------------

namespace Interchain

/- Where an end of a channel is in its life; the last two are
   those of an upgrade. -/
inductive ChannelState where
  | uninitialized
  | init
  | tryOpen
  | open
  | closed
  | flushing
  | flushComplete
  deriving DecidableEq

namespace ChannelState

/- Every state. -/
def all : List ChannelState :=
  [.uninitialized, .init, .tryOpen, .open, .closed,
    .flushing, .flushComplete]

/- How a state is written in a message. -/
def display : ChannelState → String
  | .uninitialized => "UNINITIALIZED"
  | .init => "INIT"
  | .tryOpen => "TRYOPEN"
  | .open => "OPEN"
  | .closed => "CLOSED"
  | .flushing => "FLUSHING"
  | .flushComplete => "FLUSHCOMPLETE"

/- The case name in records. -/
def tag : ChannelState → String
  | .uninitialized => "Uninitialized"
  | .init => "Init"
  | .tryOpen => "TryOpen"
  | .open => "Open"
  | .closed => "Closed"
  | .flushing => "Flushing"
  | .flushComplete => "Flushcomplete"

/- The number of a state on the wire. -/
def number : ChannelState → Int
  | .uninitialized => 0
  | .init => 1
  | .tryOpen => 2
  | .open => 3
  | .closed => 4
  | .flushing => 5
  | .flushComplete => 6

/- The state with a number, if there is one. -/
def ofNumber? (n : Int) : Option ChannelState :=
  all.find? fun state => state.number == n

/- The states between opening and reopening. -/
def isUpgrading (state : ChannelState) : Bool :=
  state == .flushing || state == .flushComplete

/- The record of a state is its name. -/
def toJson (state : ChannelState) : Json := .text state.tag

/- The state that a record names. -/
def ofJson? (value : Json) : Option ChannelState :=
  value.tag?.bind fun s =>
    all.find? fun state => state.tag == s

instance : Recorded ChannelState := ⟨toJson, ofJson?⟩

end ChannelState

end Interchain
