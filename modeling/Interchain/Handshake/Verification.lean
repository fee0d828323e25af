import Interchain.Host.State

/-
  Checking what the counterparty committed to.

  The connection of a channel names the light client that
  follows the other chain; the kind of client is part of its
  identifier.  Each check asks that client about the state it
  remembers at the height of the proof.

  Main declarations:
    * `Host.counterpartyClient`
    * `Host.verifyChannel`
    * `Host.verifyUpgrade`
    * `Host.verifyReceipt`
    * `Host.verifyNoReceipt`
    * `Host.counterpartyTime`
-/

------------------------------------------------------------
-- Clients
------------------------------------------------------------

namespace Interchain

/- Wrap the error of a result. -/
def wrapError
    {ε ε' α : Type}
    (wrap : ε → ε') :
    Except ε α → Except ε' α
  | .ok a => .ok a
  | .error e => .error (wrap e)

namespace Host

/- The light client behind a connection, and the state that it
   remembers at a height. -/
def counterpartyClient
    (h : Host)
    (connection : ConnectionEnd)
    (height : Height) :
    Except ChannelError (LightClient × ConsensusState) := do
  let kind ← wrapError
    (fun e => .client (.invalidIdentifier e))
    connection.client.kind
  let client ← wrapError .client (h.clients.find kind)
  let state ← h.consensusState connection.client height
  return (client, state)

end Host

/- The key of the end that a channel end faces. -/
def ChannelEnd.peerKey
    (c : ChannelEnd) :
    Except ChannelError ChannelKey :=
  match c.peer.channel with
  | some channel => .ok ⟨c.peer.port, channel⟩
  | none => .error .noCounterparty

end Interchain

------------------------------------------------------------
-- Proofs
------------------------------------------------------------

namespace Interchain

namespace Host

/- The counterparty of a channel committed to a channel end. -/
def verifyChannel
    (h : Host)
    (c : ChannelEnd)
    (connection : ConnectionEnd)
    (expected : ChannelEnd)
    (proof : CommitmentProof)
    (height : Height) :
    Except ChannelError Unit := do
  let (client, state) ← h.counterpartyClient connection height
  let key ← c.peerKey
  wrapError .channelProof
    (client.verifyChannel state connection.peer.storePrefix
      proof key expected)

/- The counterparty of a channel committed to an upgrade. -/
def verifyUpgrade
    (h : Host)
    (c : ChannelEnd)
    (connection : ConnectionEnd)
    (expected : Upgrade)
    (proof : CommitmentProof)
    (height : Height) :
    Except ChannelError Unit := do
  let (client, state) ← h.counterpartyClient connection height
  let key ← c.peerKey
  wrapError .upgradeProof
    (client.verifyUpgrade state connection.peer.storePrefix
      proof key expected)

/- The counterparty of a channel committed to a receipt. -/
def verifyReceipt
    (h : Host)
    (c : ChannelEnd)
    (connection : ConnectionEnd)
    (expected : ErrorReceipt)
    (proof : CommitmentProof)
    (height : Height) :
    Except ChannelError Unit := do
  let (client, state) ← h.counterpartyClient connection height
  let key ← c.peerKey
  wrapError .receiptProof
    (client.verifyReceipt state connection.peer.storePrefix
      proof key expected)

/- The counterparty of a channel committed to no receipt. -/
def verifyNoReceipt
    (h : Host)
    (c : ChannelEnd)
    (connection : ConnectionEnd)
    (proof : CommitmentProof)
    (height : Height) :
    Except ChannelError Unit := do
  let (client, state) ← h.counterpartyClient connection height
  let key ← c.peerKey
  wrapError .receiptAbsenceProof
    (client.verifyNoReceipt state connection.peer.storePrefix
      proof key)

/- The time on the other chain at a height. -/
def counterpartyTime
    (h : Host)
    (connection : ConnectionEnd)
    (height : Height) :
    Except ChannelError Timestamp := do
  let (_, state) ← h.counterpartyClient connection height
  wrapError .client state.blockTime

end Host

end Interchain
