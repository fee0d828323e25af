import Interchain.Digest
import Interchain.Host.Session

/-
  Two sample chains.

  The chains A and B share a channel over one pair of open
  connections, and have a second pair that an upgrade can move
  the channel to.  Their clients take whole stores for proofs.
  The client on A that follows B has the number 0, the one on
  B that follows A the number 1.

  Main declarations:
    * `Fixture.chain`
    * `Fixture.chainA`
    * `Fixture.chainB`
-/

------------------------------------------------------------
-- Sample Values
------------------------------------------------------------

namespace Interchain

namespace Fixture

/- The account that signs every message. -/
def signer : Signer :=
  ⟨"cosmos1wxeyh7zgn4tctjzs0vtqpc6p5cxq5t2muzl7ng"⟩

/- A proof of nothing. -/
def proof : CommitmentProof :=
  ⟨utf8 "Y29uc2Vuc3VzU3RhdGUvaWJjb25lY2xpZW50LzIy"⟩

/- The height that proofs are given for. -/
def proofHeight : Height := ⟨0, 10⟩

/- A client of the mock kind. -/
def client (n : UInt64) : ClientId := .numbered .mock n

/- A connection end whose peer is followed by the client with
   the neighbouring number. -/
def connectionEnd
    (state : ConnectionState)
    (n : UInt64)
    (peer : Option ConnectionId)
    (versions : List ConnectionVersion) :
    ConnectionEnd where
  state := state
  client := client n
  peer := ⟨client (n ^^^ 1), peer, ⟨utf8 "ibc"⟩⟩
  versions := versions
  delay := .zero

/- An unordered transfer channel. -/
def channelEnd
    (state : ChannelState)
    (sequence : Sequence)
    (peer : ChannelId)
    (hop : ConnectionId) :
    ChannelEnd where
  state := state
  order := .unordered
  peer := ⟨.transfer, some peer⟩
  hops := [hop]
  version := .ics20
  upgradeSequence := sequence

/- An upgrade to an ordered channel over a connection. -/
def upgradeFields (hop : ConnectionId) : UpgradeFields :=
  ⟨.ordered, [hop], ⟨"ics20-2"⟩⟩

/- A proposal to move to the connection with number two. -/
def upgrade : Upgrade :=
  ⟨upgradeFields (.numbered 2), none, .zero⟩

end Fixture

end Interchain

------------------------------------------------------------
-- Identifiers
------------------------------------------------------------

namespace Interchain

namespace Fixture

/- The channel on A. -/
def channelA : ChannelId := .numbered 0

/- The channel on B. -/
def channelB : ChannelId := .numbered 1

/- The connection that the channel runs over on A. -/
def connectionA : ConnectionId := .numbered 0

/- The connection that the channel runs over on B. -/
def connectionB : ConnectionId := .numbered 1

/- The connection that A moves to. -/
def upgradeConnectionA : ConnectionId := .numbered 2

/- The connection that B moves to. -/
def upgradeConnectionB : ConnectionId := .numbered 3

/- The client on A that follows B. -/
def clientOnA : ClientId := client 0

/- The client on B that follows A. -/
def clientOnB : ClientId := client 1

/- The end of the shared channel on A. -/
def channelEndA
    (state : ChannelState)
    (sequence : Sequence) :
    ChannelEnd :=
  channelEnd state sequence channelB connectionA

/- The end of the shared channel on B. -/
def channelEndB
    (state : ChannelState)
    (sequence : Sequence) :
    ChannelEnd :=
  channelEnd state sequence channelA connectionB

end Fixture

end Interchain

------------------------------------------------------------
-- Chains
------------------------------------------------------------

namespace Interchain

namespace Fixture

/- A chain without records whose client takes stores for
   proofs. -/
def chain
    (hash : Hash)
    (height : Height)
    (timestamp : Timestamp) :
    Host :=
  Host.create
    (ClientRegistry.register ∅ (LightClient.ofStores hash))
    height timestamp

/- A chain at block five. -/
def standardChain (hash : Hash) : Host :=
  chain hash ⟨0, 5⟩ (.ofNanoseconds 1700000000000000000)

/- A chain with an open connection. -/
def connected
    (n : UInt64)
    (id peer : ConnectionId)
    (h : Host) :
    Host :=
  h.connect id
    (connectionEnd .open n (some peer) [.standard])

/- Chain A: connected, and without a channel yet. -/
def chainA (hash : Hash) : Host :=
  (connected 0 upgradeConnectionA upgradeConnectionB
    (connected 0 connectionA connectionB
      (standardChain hash))).apply
    (.nextSequence ⟨.transfer, channelA⟩ ⟨1⟩)

/- Chain B: connected, and without a channel yet. -/
def chainB (hash : Hash) : Host :=
  (connected 1 upgradeConnectionB upgradeConnectionA
    (connected 1 connectionB connectionA
      (standardChain hash))).apply
    (.nextSequence ⟨.transfer, channelB⟩ ⟨1⟩)

/- A packet in flight whose data spell its sequence. -/
def packet (key : PacketKey) : Packet :=
  { Packet.blank with
    sequence := key.sequence
    source := key.source
    data := utf8 key.sequence.display }

/- A chain with such a packet in flight. -/
def withPacket (hash : Hash) (key : PacketKey) (h : Host) : Host :=
  h.apply (.commitment key ((packet key).commitment hash))

end Fixture

end Interchain
