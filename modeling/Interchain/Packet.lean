import Interchain.Channel.Error
import Interchain.Digest
import Interchain.Text.Quoted

/-
  Packets and the commitments to them.

  The commitment to a packet is the digest of its timeout and
  of the digest of its data.  Timeout time, revision and block
  take eight bytes each.

  Main declarations:
    * `Packet`
    * `Packet.validate`
    * `Packet.commitment`
-/

------------------------------------------------------------
-- Packets
------------------------------------------------------------

namespace Interchain

/- A packet from one end of a channel to the other. -/
structure Packet where
  sequence : Sequence
  source : ChannelKey
  destination : ChannelKey
  data : Bytes
  timeoutHeight : TimeoutHeight
  timeoutTime : Timestamp
  deriving DecidableEq

namespace Packet

/- A packet without sequence, data or timeout, between first
   transfer channels. -/
def blank : Packet where
  sequence := .zero
  source := ⟨.transfer, .numbered 0⟩
  destination := ⟨.transfer, .numbered 0⟩
  data := []
  timeoutHeight := .never
  timeoutTime := .unset

/- A packet that may be sent has a sequence, data, and a
   timeout. -/
def validate (p : Packet) : Except ChannelError Unit :=
  if p.sequence.isZero then .error .zeroPacketSequence
  else if p.data = [] then .error .zeroPacketData
  else if p.timeoutHeight = .never ∧
      p.timeoutTime.isSet = false then
    .error .noPacketTimeout
  else .ok ()

end Packet

end Interchain

------------------------------------------------------------
-- Commitments
------------------------------------------------------------

namespace Interchain

/- The digest of a packet, which says nothing of its data. -/
structure PacketCommitment where
  bytes : Bytes
  deriving DecidableEq

namespace PacketCommitment

/- The record of a commitment lists its octets. -/
def toJson (c : PacketCommitment) : Json := .ofBytes c.bytes

end PacketCommitment

namespace Packet

/- The bytes that a commitment is the digest of. -/
def preimage (hash : Hash) (p : Packet) : Bytes :=
  bigEndian p.timeoutTime.nanoseconds ++
    bigEndian p.timeoutHeight.revision ++
    bigEndian p.timeoutHeight.block ++
    hash p.data

/- What is kept of a packet that was sent. -/
def commitment (hash : Hash) (p : Packet) : PacketCommitment :=
  ⟨hash (p.preimage hash)⟩

end Packet

end Interchain

------------------------------------------------------------
-- Written Packets
------------------------------------------------------------

namespace Interchain

namespace Packet

/- How a packet is written in a message. -/
def display (p : Packet) : String :=
  "seq:" ++ p.sequence.display ++
    ", path:" ++ p.source.channel.text ++ "/" ++
    p.source.port.text ++ "->" ++
    p.destination.channel.text ++ "/" ++
    p.destination.port.text ++
    ", toh:" ++ p.timeoutHeight.display ++
    ", tos:" ++ p.timeoutTime.display ++ ")"

/- The timeout height with its parts named. -/
def inspectHeight : TimeoutHeight → String
  | .never => "Never"
  | .at h =>
      "At(Height \x7b revision_number: " ++
        Text.decimal h.revision.toNat ++
        ", revision_height: " ++
        Text.decimal h.block.toNat ++ " \x7d)"

/- The timeout time with its parts named. -/
def inspectTime (t : Timestamp) : String :=
  let time :=
    match t.time with
    | none => "None"
    | some i => "Some(" ++ i.zulu ++ ")"
  "Timestamp \x7b time: " ++ time ++ " \x7d"

/- The packet with every part named. -/
def inspect (p : Packet) : String :=
  "Packet \x7b sequence: Sequence(" ++ p.sequence.display ++
    "), source_port: PortId(" ++
    Text.quoted p.source.port.text ++
    "), source_channel: ChannelId(" ++
    Text.quoted p.source.channel.text ++
    "), destination_port: PortId(" ++
    Text.quoted p.destination.port.text ++
    "), destination_channel: ChannelId(" ++
    Text.quoted p.destination.channel.text ++
    "), data: " ++ p.data.listing ++
    ", timeout_height: " ++ inspectHeight p.timeoutHeight ++
    ", timeout_timestamp: " ++ inspectTime p.timeoutTime ++
    " \x7d"

/- The record of a packet. -/
def toJson (p : Packet) : Json :=
  .object
    [ ("sequence", p.sequence.toJson),
      ("source_port", p.source.port.toJson),
      ("source_channel", p.source.channel.toJson),
      ("destination_port", p.destination.port.toJson),
      ("destination_channel", p.destination.channel.toJson),
      ("data", .ofBytes p.data),
      ("timeout_height", p.timeoutHeight.toJson),
      ("timeout_timestamp", p.timeoutTime.toJson) ]

/- The packet that a record describes. -/
def ofJson? (value : Json) : Option Packet := do
  match ← value.slots? .lenient
      ["sequence", "source_port", "source_channel",
        "destination_port", "destination_channel", "data",
        "timeout_height", "timeout_timestamp"] with
  | [sequence, sourcePort, sourceChannel, port, channel, data,
      height, time] =>
      let sequence ← Json.required? Sequence.ofJson? sequence
      let sourcePort ←
        Json.required? PortId.ofJson? sourcePort
      let sourceChannel ←
        Json.required? ChannelId.ofJson? sourceChannel
      let port ← Json.required? PortId.ofJson? port
      let channel ← Json.required? ChannelId.ofJson? channel
      let data ← Json.required? Json.bytes? data
      let height ← Json.required? TimeoutHeight.ofJson? height
      let time ← Json.required? Timestamp.ofJson? time
      return ⟨sequence, ⟨sourcePort, sourceChannel⟩,
        ⟨port, channel⟩, data, height, time⟩
  | _ => none

instance : Recorded Packet := ⟨toJson, ofJson?⟩

end Packet

end Interchain
