import Interchain.Json.Recorded
import Interchain.Text.Blank

/-
  Versions of the application on a channel.

  Main declarations:
    * `ChannelVersion`
-/

------------------------------------------------------------
-- Versions
------------------------------------------------------------

namespace Interchain

/- The version of the application that runs over a channel. -/
structure ChannelVersion where
  text : String
  deriving DecidableEq

namespace ChannelVersion

/- No version at all. -/
def empty : ChannelVersion := ⟨""⟩

/- The first version of token transfers. -/
def ics20 : ChannelVersion := ⟨"ics20-1"⟩

/- A version without anything but blanks. -/
def isBlank (v : ChannelVersion) : Bool :=
  Text.isBlankText v.text

/- The record of a version is its text. -/
def toJson (v : ChannelVersion) : Json := .text v.text

/- The version that a record gives. -/
def ofJson? (value : Json) : Option ChannelVersion :=
  value.text?.map ChannelVersion.mk

instance : Recorded ChannelVersion := ⟨toJson, ofJson?⟩

end ChannelVersion

end Interchain
