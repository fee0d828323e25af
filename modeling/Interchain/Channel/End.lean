import Interchain.Upgrade.Fields

/-
  Channel ends.

  A channel end knows its state, the fields that upgrades can
  change, the end it faces, and how many upgrades were tried.

  Main declarations:
    * `ChannelPeer`
    * `ChannelEnd`
    * `ChannelEnd.fields`
    * `ChannelEnd.applyFields`
-/

------------------------------------------------------------
-- Peers
------------------------------------------------------------

namespace Interchain

/- The end that a channel end faces. -/
structure ChannelPeer where
  port : PortId
  channel : Option ChannelId
  deriving DecidableEq

namespace ChannelPeer

/- A peer is complete once the other end is known. -/
def validate (p : ChannelPeer) : Except ChannelError Unit :=
  match p.channel with
  | some _ => .ok ()
  | none => .error .noCounterparty

/- How a peer is written in a message. -/
def display (p : ChannelPeer) : String :=
  let channel :=
    match p.channel with
    | some channel => channel.text
    | none => "None"
  "Counterparty(port_id: " ++ p.port.text ++
    ", channel_id: " ++ channel ++ ")"

/- The record of a peer, with its channel only if it is known. -/
def toJson (p : ChannelPeer) : Json :=
  .object
    [ ("port_id", p.port.toJson),
      ("channel_id", .ofOption ChannelId.toJson p.channel) ]

/- The peer that a record describes. -/
def ofJson? (value : Json) : Option ChannelPeer := do
  match ← value.slots? .lenient ["port_id", "channel_id"] with
  | [port, channel] =>
      let port ← Json.required? PortId.ofJson? port
      let channel ← Json.optional? ChannelId.ofJson? channel
      return ⟨port, channel⟩
  | _ => none

instance : Recorded ChannelPeer := ⟨toJson, ofJson?⟩

end ChannelPeer

/- The peer that a channel key names. -/
def ChannelKey.peer (key : ChannelKey) : ChannelPeer :=
  ⟨key.port, some key.channel⟩

end Interchain

------------------------------------------------------------
-- Channel Ends
------------------------------------------------------------

namespace Interchain

/- What a chain keeps of its end of a channel, with the attempt
   that it is at. -/
structure ChannelEnd where
  state : ChannelState
  order : ChannelOrder
  peer : ChannelPeer
  hops : List ConnectionId
  version : ChannelVersion
  upgradeSequence : Sequence
  deriving DecidableEq

namespace ChannelEnd

/- An end that no handshake has touched. -/
def blank : ChannelEnd where
  state := .uninitialized
  order := .unordered
  peer := ⟨.transfer, none⟩
  hops := []
  version := .empty
  upgradeSequence := .zero

/- Packets can be sent, and an upgrade proposed. -/
def isOpen (c : ChannelEnd) : Bool := c.state == .open

/- The connection that the channel runs over. -/
def hop? (c : ChannelEnd) : Option ConnectionId :=
  c.hops.head?

/- The fields that an upgrade can change. -/
def fields (c : ChannelEnd) : UpgradeFields :=
  ⟨c.order, c.hops, c.version⟩

/- The end with new fields. -/
def applyFields
    (c : ChannelEnd)
    (f : UpgradeFields) :
    ChannelEnd :=
  { c with order := f.order, hops := f.hops,
           version := f.version }

/- An end that takes fields has them. -/
@[simp]
theorem fields_applyFields
    (c : ChannelEnd)
    (f : UpgradeFields) :
    (c.applyFields f).fields = f := rfl

/- A single hop, and a peer with a channel. -/
def validate (c : ChannelEnd) : Except ChannelError Unit :=
  if c.hops.length ≠ 1 then
    .error (.hopCount 1 c.hops.length)
  else
    c.peer.validate

end ChannelEnd

end Interchain

------------------------------------------------------------
-- Written Channel Ends
------------------------------------------------------------

namespace Interchain

namespace ChannelEnd

/- How an end is written in a message. -/
def display (c : ChannelEnd) : String :=
  "ChannelEnd \x7b state: " ++ c.state.display ++
    ", ordering: " ++ c.order.name ++
    ", remote: " ++ c.peer.display ++
    ", connection_hops: " ++
    Text.listing (c.hops.map ConnectionId.text) ++
    ", version: " ++ c.version.text ++
    ", upgrade_sequence: " ++ c.upgradeSequence.display ++
    " \x7d"

/- The record of an end. -/
def toJson (c : ChannelEnd) : Json :=
  .object
    [ ("state", c.state.toJson),
      ("ordering", c.order.toJson),
      ("remote", c.peer.toJson),
      ("connection_hops",
        .array (c.hops.map ConnectionId.toJson)),
      ("version", c.version.toJson),
      ("upgrade_sequence", c.upgradeSequence.toJson) ]

/- The end that a record describes. -/
def ofJson? (value : Json) : Option ChannelEnd := do
  match ← value.slots? .lenient
      ["state", "ordering", "remote", "connection_hops",
        "version", "upgrade_sequence"] with
  | [state, order, peer, hops, version, sequence] =>
      let state ← Json.required? ChannelState.ofJson? state
      let order ← Json.required? ChannelOrder.ofJson? order
      let peer ← Json.required? ChannelPeer.ofJson? peer
      let hops ← Json.required?
        (Json.list? ConnectionId.ofJson?) hops
      let version ←
        Json.required? ChannelVersion.ofJson? version
      let sequence ← Json.required? Sequence.ofJson? sequence
      return ⟨state, order, peer, hops, version, sequence⟩
  | _ => none

/- A channel end together with its identifiers. -/
def identifiedJson
    (key : ChannelKey)
    (c : ChannelEnd) :
    Json :=
  .object
    [ ("port_id", key.port.toJson),
      ("channel_id", key.channel.toJson),
      ("channel_end", c.toJson) ]

instance : Recorded ChannelEnd := ⟨toJson, ofJson?⟩

end ChannelEnd

end Interchain
