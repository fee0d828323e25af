import Interchain.Identifier.Rule
import Interchain.Json.Recorded
import Interchain.Order

/-
  The identifiers of ports, channels and connections.

  An identifier that comes as a text is checked.  One that is
  read from a record is taken as it is.

  Main declarations:
    * `PortId`
    * `ChannelId`
    * `ConnectionId`
    * `ChannelKey`
-/

------------------------------------------------------------
-- Ports
------------------------------------------------------------

namespace Interchain

/- The name of a port, where an application listens. -/
structure PortId where
  text : String
  deriving DecidableEq

namespace PortId

/- A name has two to a hundred and twenty-eight characters. -/
def ofText (s : String) : Except IdentifierError PortId :=
  (Identifier.check 2 128 s).map fun _ => ⟨s⟩

/- The port of token transfers. -/
def transfer : PortId := ⟨"transfer"⟩

/- The record of a name is its text. -/
def toJson (id : PortId) : Json := .text id.text

/- The name that a record gives, whatever its characters. -/
def ofJson? (value : Json) : Option PortId :=
  value.text?.map PortId.mk

instance : Recorded PortId := ⟨toJson, ofJson?⟩

instance : Ord PortId where
  compare := compareOn PortId.text

instance : Std.TransOrd PortId :=
  inferInstanceAs (Std.TransCmp (compareOn PortId.text))

instance : Std.LawfulEqOrd PortId :=
  lawfulEqCmp_compareOn fun a b h => by
    cases a
    cases b
    simp_all

end PortId

end Interchain

------------------------------------------------------------
-- Channels
------------------------------------------------------------

namespace Interchain

/- The name of a channel. -/
structure ChannelId where
  text : String
  deriving DecidableEq

namespace ChannelId

/- A name has eight to sixty-four characters. -/
def ofText (s : String) : Except IdentifierError ChannelId :=
  (Identifier.check 8 64 s).map fun _ => ⟨s⟩

/- The identifier of a chain's channel with a number. -/
def numbered (n : UInt64) : ChannelId :=
  ⟨"channel-" ++ Text.decimal n.toNat⟩

/- The record of a name is its text. -/
def toJson (id : ChannelId) : Json := .text id.text

/- The name that a record gives, whatever its characters. -/
def ofJson? (value : Json) : Option ChannelId :=
  value.text?.map ChannelId.mk

instance : Recorded ChannelId := ⟨toJson, ofJson?⟩

instance : Ord ChannelId where
  compare := compareOn ChannelId.text

instance : Std.TransOrd ChannelId :=
  inferInstanceAs (Std.TransCmp (compareOn ChannelId.text))

instance : Std.LawfulEqOrd ChannelId :=
  lawfulEqCmp_compareOn fun a b h => by
    cases a
    cases b
    simp_all

end ChannelId

end Interchain

------------------------------------------------------------
-- Connections
------------------------------------------------------------

namespace Interchain

/- The name of a connection. -/
structure ConnectionId where
  text : String
  deriving DecidableEq

namespace ConnectionId

/- A name has ten to sixty-four characters. -/
def ofText (s : String) :
    Except IdentifierError ConnectionId :=
  (Identifier.check 10 64 s).map fun _ => ⟨s⟩

/- The identifier of a chain's connection with a number. -/
def numbered (n : UInt64) : ConnectionId :=
  ⟨"connection-" ++ Text.decimal n.toNat⟩

/- The record of a name is its text. -/
def toJson (id : ConnectionId) : Json := .text id.text

/- The name that a record gives, whatever its characters. -/
def ofJson? (value : Json) : Option ConnectionId :=
  value.text?.map ConnectionId.mk

instance : Recorded ConnectionId := ⟨toJson, ofJson?⟩

instance : Ord ConnectionId where
  compare := compareOn ConnectionId.text

instance : Std.TransOrd ConnectionId :=
  inferInstanceAs (Std.TransCmp (compareOn ConnectionId.text))

instance : Std.LawfulEqOrd ConnectionId :=
  lawfulEqCmp_compareOn fun a b h => by
    cases a
    cases b
    simp_all

end ConnectionId

end Interchain

------------------------------------------------------------
-- Channel Keys
------------------------------------------------------------

namespace Interchain

/- What names an end of a channel on its chain. -/
structure ChannelKey where
  port : PortId
  channel : ChannelId
  deriving DecidableEq

namespace ChannelKey

/- The key in parentheses: `(port, channel)`. -/
def display (key : ChannelKey) : String :=
  "(" ++ key.port.text ++ ", " ++ key.channel.text ++ ")"

instance : Ord ChannelKey where
  compare :=
    compareLex (compareOn ChannelKey.port)
      (compareOn ChannelKey.channel)

instance : Std.TransOrd ChannelKey :=
  inferInstanceAs
    (Std.TransCmp
      (compareLex (compareOn ChannelKey.port)
        (compareOn ChannelKey.channel)))

instance : Std.LawfulEqOrd ChannelKey :=
  lawfulEqCmp_compareLex fun a b h₁ h₂ => by
    cases a
    cases b
    simp_all

end ChannelKey

end Interchain
