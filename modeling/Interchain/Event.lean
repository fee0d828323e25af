import Interchain.Channel.End
import Interchain.Packet
import Interchain.Upgrade.Proposal

/-
  Events that a chain emits.

  A step of an upgrade names the channel, its peer, the
  attempt, the state it led to and the fields it is about; a
  step that ends an attempt names the error receipt instead.
  An event is shown to relayers as a kind and a list of
  attributes.

  Main declarations:
    * `Event`
    * `Event.toModuleEvent`
-/

------------------------------------------------------------
-- Attributes of a Step
------------------------------------------------------------

namespace Interchain

/- What is told of an upgrade that goes on. -/
structure UpgradeAttributes where
  key : ChannelKey
  peer : ChannelPeer
  sequence : Sequence
  state : ChannelState
  fields : UpgradeFields
  deriving DecidableEq

namespace UpgradeAttributes

/- The attributes of a step on a channel end. -/
def ofEnd
    (key : ChannelKey)
    (c : ChannelEnd)
    (fields : UpgradeFields) :
    UpgradeAttributes :=
  ⟨key, c.peer, c.upgradeSequence, c.state, fields⟩

/- How the attributes are written in a message. -/
def display (a : UpgradeAttributes) : String :=
  let peerChannel :=
    match a.peer.channel with
    | some channel => channel.text
    | none => "None"
  "UpgradeAttributes \x7b port_id: " ++ a.key.port.text ++
    ", channel_id: " ++ a.key.channel.text ++
    ", counterparty_port_id: " ++ a.peer.port.text ++
    ", counterparty_channel_id: " ++ peerChannel ++
    ", upgrade_sequence: " ++ a.sequence.display ++
    ", channel_state: " ++ a.state.display ++
    ", upgrade_connection_hops: " ++
    Text.listing (a.fields.hops.map ConnectionId.text) ++
    ", upgrade_version: " ++ a.fields.version.text ++
    ", upgrade_ordering: " ++ a.fields.order.name ++ " \x7d"

/- The record of the attributes. -/
def toJson (a : UpgradeAttributes) : Json :=
  .object
    [ ("port_id", a.key.port.toJson),
      ("channel_id", a.key.channel.toJson),
      ("counterparty_port_id", a.peer.port.toJson),
      ("counterparty_channel_id",
        .ofOption ChannelId.toJson a.peer.channel),
      ("upgrade_sequence", a.sequence.toJson),
      ("channel_state", a.state.toJson),
      ("upgrade_connection_hops",
        .array (a.fields.hops.map ConnectionId.toJson)),
      ("upgrade_version", a.fields.version.toJson),
      ("upgrade_ordering", a.fields.order.toJson) ]

end UpgradeAttributes

/- The attributes that name a channel and its peer. -/
def channelPairs
    (key : ChannelKey)
    (peer : ChannelPeer) :
    List (String × String) :=
  let peerChannel :=
    match peer.channel with
    | some channel => [("counterparty_channel_id", channel.text)]
    | none => []
  [ ("port_id", key.port.text),
    ("channel_id", key.channel.text),
    ("counterparty_port_id", peer.port.text) ] ++ peerChannel

/- The attributes as an application reads them. -/
def UpgradeAttributes.pairs
    (a : UpgradeAttributes) :
    List (String × String) :=
  channelPairs a.key a.peer ++
    [ ("upgrade_sequence", a.sequence.display),
      ("channel_state", a.state.display),
      ("upgrade_connection_hops",
        String.intercalate ","
          (a.fields.hops.map ConnectionId.text)),
      ("upgrade_version", a.fields.version.text),
      ("upgrade_ordering", a.fields.order.name) ]

end Interchain

------------------------------------------------------------
-- Attributes of an Ended Attempt
------------------------------------------------------------

namespace Interchain

/- What is told of an upgrade that was given up. -/
structure ReceiptAttributes where
  key : ChannelKey
  peer : ChannelPeer
  sequence : Sequence
  receipt : ErrorReceipt
  deriving DecidableEq

namespace ReceiptAttributes

/- The attributes of an ended attempt on a channel end. -/
def ofEnd
    (key : ChannelKey)
    (c : ChannelEnd)
    (receipt : ErrorReceipt) :
    ReceiptAttributes :=
  ⟨key, c.peer, c.upgradeSequence, receipt⟩

/- How the attributes are written in a message. -/
def display (a : ReceiptAttributes) : String :=
  "UpgradeErrorAttributes \x7b port_id: " ++
    a.key.port.text ++
    ", channel_id: " ++ a.key.channel.text ++
    ", upgrade_sequence: " ++ a.sequence.display ++
    ", error_receipt: " ++ a.receipt.display ++ " \x7d"

/- The record of the attributes. -/
def toJson (a : ReceiptAttributes) : Json :=
  .object
    [ ("port_id", a.key.port.toJson),
      ("channel_id", a.key.channel.toJson),
      ("counterparty_port_id", a.peer.port.toJson),
      ("counterparty_channel_id",
        .ofOption ChannelId.toJson a.peer.channel),
      ("upgrade_sequence", a.sequence.toJson),
      ("error_receipt", a.receipt.toJson) ]

/- The attributes as an application reads them. -/
def pairs (a : ReceiptAttributes) : List (String × String) :=
  channelPairs a.key a.peer ++
    [ ("upgrade_sequence", a.sequence.display),
      ("error_receipt", a.receipt.message) ]

end ReceiptAttributes

/- The attributes of a packet. -/
def Packet.pairs (p : Packet) : List (String × String) :=
  [ ("packet_src_port", p.source.port.text),
    ("packet_src_channel", p.source.channel.text),
    ("packet_dst_port", p.destination.port.text),
    ("packet_dst_channel", p.destination.channel.text),
    ("packet_sequence", p.sequence.display),
    ("packet_timeout_height", p.timeoutHeight.display),
    ("packet_timeout_timestamp",
      Text.decimal p.timeoutTime.nanoseconds.toNat) ]

end Interchain

------------------------------------------------------------
-- Events
------------------------------------------------------------

namespace Interchain

/- The events of an upgrade. -/
inductive EventType where
  | upgradeInit
  | upgradeTry
  | upgradeAck
  | upgradeConfirm
  | upgradeOpen
  | upgradeCancel
  | upgradeTimeout
  | upgradeError
  | sendPacket
  deriving DecidableEq

namespace EventType

/- The name that relayers look for. -/
def name : EventType → String
  | .upgradeInit => "channel_upgrade_init"
  | .upgradeTry => "channel_upgrade_try"
  | .upgradeAck => "channel_upgrade_ack"
  | .upgradeConfirm => "channel_upgrade_confirm"
  | .upgradeOpen => "channel_upgrade_open"
  | .upgradeCancel => "channel_upgrade_cancelled"
  | .upgradeTimeout => "channel_upgrade_timeout"
  | .upgradeError => "channel_upgrade_error"
  | .sendPacket => "send_packet"

/- The case name in records. -/
def tag : EventType → String
  | .upgradeInit => "UpgradeInitChannel"
  | .upgradeTry => "UpgradeTryChannel"
  | .upgradeAck => "UpgradeAckChannel"
  | .upgradeConfirm => "UpgradeConfirmChannel"
  | .upgradeOpen => "UpgradeOpenChannel"
  | .upgradeCancel => "UpgradeCancelChannel"
  | .upgradeTimeout => "UpgradeTimeoutChannel"
  | .upgradeError => "UpgradeErrorChannel"
  | .sendPacket => "SendPacket"

/- The record of a type is its tag. -/
def toJson (t : EventType) : Json := .text t.tag

end EventType

/- What a chain tells the world of a step, or of its failure. -/
inductive Event where
  | upgradeInit (attributes : UpgradeAttributes)
  | upgradeTry (attributes : UpgradeAttributes)
  | upgradeAck (attributes : UpgradeAttributes)
  | upgradeConfirm (attributes : UpgradeAttributes)
  | upgradeOpen (attributes : UpgradeAttributes)
  | upgradeCancel (attributes : ReceiptAttributes)
  | upgradeTimeout (attributes : UpgradeAttributes)
  | upgradeError (attributes : ReceiptAttributes)
  | sendPacket (packet : Packet)
  deriving DecidableEq

namespace Event

/- The type of an event. -/
def type : Event → EventType
  | .upgradeInit _ => .upgradeInit
  | .upgradeTry _ => .upgradeTry
  | .upgradeAck _ => .upgradeAck
  | .upgradeConfirm _ => .upgradeConfirm
  | .upgradeOpen _ => .upgradeOpen
  | .upgradeCancel _ => .upgradeCancel
  | .upgradeTimeout _ => .upgradeTimeout
  | .upgradeError _ => .upgradeError
  | .sendPacket _ => .sendPacket

/- The text of what an event carries. -/
def contents : Event → String
  | .upgradeInit a => a.display
  | .upgradeTry a => a.display
  | .upgradeAck a => a.display
  | .upgradeConfirm a => a.display
  | .upgradeOpen a => a.display
  | .upgradeCancel a => a.display
  | .upgradeTimeout a => a.display
  | .upgradeError a => a.display
  | .sendPacket p =>
      "SendPacket \x7b packet: " ++ p.display ++ "\x7d"

/- How an event is written in a message. -/
def display (e : Event) : String :=
  e.type.tag ++ "(" ++ e.contents ++ ")"

/- What an event carries, as a record. -/
def contentsJson : Event → Json
  | .upgradeInit a => a.toJson
  | .upgradeTry a => a.toJson
  | .upgradeAck a => a.toJson
  | .upgradeConfirm a => a.toJson
  | .upgradeOpen a => a.toJson
  | .upgradeCancel a => a.toJson
  | .upgradeTimeout a => a.toJson
  | .upgradeError a => a.toJson
  | .sendPacket p => .object [("packet", p.toJson)]

/- The record of an event has its type as its only member. -/
def toJson (e : Event) : Json :=
  .object [(e.type.tag, e.contentsJson)]

/- The attributes that an event is shown with. -/
def pairs : Event → List (String × String)
  | .upgradeInit a => a.pairs
  | .upgradeTry a => a.pairs
  | .upgradeAck a => a.pairs
  | .upgradeConfirm a => a.pairs
  | .upgradeOpen a => a.pairs
  | .upgradeCancel a => a.pairs
  | .upgradeTimeout a => a.pairs
  | .upgradeError a => a.pairs
  | .sendPacket p => p.pairs

end Event

end Interchain

------------------------------------------------------------
-- Module Events
------------------------------------------------------------

namespace Interchain

/- An event as relayers see it. -/
structure ModuleEvent where
  kind : String
  attributes : List (String × String)
  deriving DecidableEq

/- The record of an event for applications. -/
def ModuleEvent.toJson (e : ModuleEvent) : Json :=
  .object
    [ ("kind", .text e.kind),
      ("attributes",
        .array
          (e.attributes.map fun (key, value) =>
            .object
              [("key", .text key), ("value", .text value)])) ]

/- An event as applications see it. -/
def Event.toModuleEvent (e : Event) : ModuleEvent :=
  ⟨e.type.name, e.pairs⟩

end Interchain
