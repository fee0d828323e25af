import Interchain.Client.LightClient
import Interchain.Packet
import Interchain.Params

/-
  The state of a chain.

  A host holds the latest block, the parameters of the chain,
  its light clients with what they remember, its connections,
  and the records of its channels, each in a table.

  Main declarations:
    * `Host`
    * `Host.channelEnd`
    * `Host.connectionEnd`
    * `Host.inFlight`
-/

------------------------------------------------------------
-- Keys
------------------------------------------------------------

namespace Interchain

/- What names a consensus state. -/
structure ConsensusKey where
  client : ClientId
  height : Height
  deriving DecidableEq

namespace ConsensusKey

instance : Ord ConsensusKey where
  compare :=
    compareLex (compareOn ConsensusKey.client)
      (compareOn ConsensusKey.height)

instance : Std.TransOrd ConsensusKey :=
  inferInstanceAs
    (Std.TransCmp
      (compareLex (compareOn ConsensusKey.client)
        (compareOn ConsensusKey.height)))

instance : Std.LawfulEqOrd ConsensusKey :=
  lawfulEqCmp_compareLex fun a b h₁ h₂ => by
    cases a
    cases b
    simp_all

end ConsensusKey

/- What names a packet that was sent. -/
structure PacketKey where
  source : ChannelKey
  sequence : Sequence
  deriving DecidableEq

namespace PacketKey

instance : Ord PacketKey where
  compare :=
    compareLex (compareOn PacketKey.source)
      (compareOn PacketKey.sequence)

instance : Std.TransOrd PacketKey :=
  inferInstanceAs
    (Std.TransCmp
      (compareLex (compareOn PacketKey.source)
        (compareOn PacketKey.sequence)))

instance : Std.LawfulEqOrd PacketKey :=
  lawfulEqCmp_compareLex fun a b h₁ h₂ => by
    cases a
    cases b
    simp_all

end PacketKey

end Interchain

------------------------------------------------------------
-- Hosts
------------------------------------------------------------

namespace Interchain

/- All that a chain holds. -/
structure Host where
  height : Height
  timestamp : Timestamp
  storePrefix : CommitmentPrefix
  params : Params
  clients : ClientRegistry
  consensusStates : Std.ExtTreeMap ConsensusKey ConsensusState
  connections : Std.ExtTreeMap ConnectionId ConnectionEnd
  channels : Std.ExtTreeMap ChannelKey ChannelEnd
  upgrades : Std.ExtTreeMap ChannelKey Upgrade
  counterpartyUpgrades : Std.ExtTreeMap ChannelKey Upgrade
  receipts : Std.ExtTreeMap ChannelKey ErrorReceipt
  nextSequences : Std.ExtTreeMap ChannelKey Sequence
  commitments : Std.ExtTreeMap PacketKey PacketCommitment

namespace Host

/- A chain without records, that knows the given clients. -/
def create
    (clients : ClientRegistry)
    (height : Height)
    (timestamp : Timestamp) :
    Host where
  height := height
  timestamp := timestamp
  storePrefix := ⟨utf8 "ibc"⟩
  params := .standard
  clients := clients
  consensusStates := ∅
  connections := ∅
  channels := ∅
  upgrades := ∅
  counterpartyUpgrades := ∅
  receipts := ∅
  nextSequences := ∅
  commitments := ∅

end Host

end Interchain

------------------------------------------------------------
-- Connecting
------------------------------------------------------------

namespace Interchain

namespace Host

/- The chain with a connection end. -/
def connect
    (h : Host)
    (id : ConnectionId)
    (connection : ConnectionEnd) :
    Host :=
  { h with connections := h.connections.insert id connection }

end Host

end Interchain

------------------------------------------------------------
-- Readings
------------------------------------------------------------

namespace Interchain

namespace Host

/- The end that is stored for a key. -/
def channelEnd
    (h : Host)
    (key : ChannelKey) :
    Except ChannelError ChannelEnd :=
  match h.channels[key]? with
  | some c => .ok c
  | none => .error (.channelNotFound key)

/- The connection that is stored for a name. -/
def connectionEnd
    (h : Host)
    (id : ConnectionId) :
    Except ChannelError ConnectionEnd :=
  match h.connections[id]? with
  | some c => .ok c
  | none => .error (.connection (.notFound id))

/- The proposal of this chain for a channel. -/
def upgrade
    (h : Host)
    (key : ChannelKey) :
    Except ChannelError Upgrade :=
  match h.upgrades[key]? with
  | some u => .ok u
  | none => .error (.upgradeNotFound key)

/- The proposal that the other end was shown to hold. -/
def counterpartyUpgrade
    (h : Host)
    (key : ChannelKey) :
    Except ChannelError Upgrade :=
  match h.counterpartyUpgrades[key]? with
  | some u => .ok u
  | none => .error (.counterpartyUpgradeNotFound key)

/- The receipt of the attempt that was last given up. -/
def receipt
    (h : Host)
    (key : ChannelKey) :
    Except ChannelError ErrorReceipt :=
  match h.receipts[key]? with
  | some r => .ok r
  | none => .error (.receiptNotFound key)

/- The number of the packet to send next. -/
def nextSequence
    (h : Host)
    (key : ChannelKey) :
    Except ChannelError Sequence :=
  match h.nextSequences[key]? with
  | some s => .ok s
  | none => .error (.noNextSequence key)

/- What a client remembers of a height. -/
def consensusState
    (h : Host)
    (client : ClientId)
    (height : Height) :
    Except ChannelError ConsensusState :=
  match h.consensusStates[ConsensusKey.mk client height]? with
  | some s => .ok s
  | none => .error (.client (.noConsensusState client height))

/- The sequences of the packets in flight on a channel. -/
def inFlight (h : Host) (key : ChannelKey) : List Sequence :=
  (h.commitments.keys.filter fun k => k.source == key).map
    PacketKey.sequence

/- Packets of the channel are on their way. -/
def hasInFlight (h : Host) (key : ChannelKey) : Bool :=
  !(h.inFlight key).isEmpty

end Host

end Interchain

------------------------------------------------------------
-- Connections of Channels
------------------------------------------------------------

namespace Interchain

namespace Host

/- The open connection that a channel end runs over. -/
def openConnection
    (h : Host)
    (c : ChannelEnd) :
    Except ChannelError (ConnectionId × ConnectionEnd) :=
  match c.hop? with
  | none => .error (.hopCount 1 0)
  | some id =>
      match h.connectionEnd id with
      | .error e => .error e
      | .ok connection =>
          if connection.isOpen then .ok (id, connection)
          else .error (.connectionNotOpen id)

end Host

/- The identifier of a connection on the other chain. -/
def ConnectionEnd.peerConnection
    (connection : ConnectionEnd)
    (id : ConnectionId) :
    Except ChannelError ConnectionId :=
  match connection.peer.connection with
  | some peer => .ok peer
  | none => .error (.noPeerConnection id)

end Interchain
