import Interchain.Proofs.Handshake.Checks

/-
  What a chain weighs when it takes a message.

  A message brings proofs and records of the counterparty, and
  a chain rebuilds the end that the counterparty must have
  committed to.  Its client takes digests of those byte strings
  and of no others.

  Main declarations:
    * `ShownEnd`
    * `Host.weighedEnd`
    * `Host.weighed`
-/

------------------------------------------------------------
-- Shown Ends
------------------------------------------------------------

namespace Interchain

/- What a message shows of the counterparty: the state and the
   attempt of its end, and its upgrade, each with a proof. -/
structure ShownEnd where
  state : ChannelState
  sequence : Sequence
  upgrade : Upgrade
  channelProof : CommitmentProof
  upgradeProof : CommitmentProof

/- A proposal is shown by an open end. -/
def TryMessage.shown (m : TryMessage) : ShownEnd where
  state := .open
  sequence := m.counterpartySequence
  upgrade := m.counterpartyUpgrade
  channelProof := m.channelProof
  upgradeProof := m.upgradeProof

/- An answer is shown by an end that flushes. -/
def AckMessage.shown (m : AckMessage) : ShownEnd where
  state := .flushing
  sequence := m.counterpartySequence
  upgrade := m.counterpartyUpgrade
  channelProof := m.channelProof
  upgradeProof := m.upgradeProof

/- A confirmation says itself how far the end is. -/
def ConfirmMessage.shown (m : ConfirmMessage) : ShownEnd where
  state := m.counterpartyState
  sequence := m.counterpartySequence
  upgrade := m.counterpartyUpgrade
  channelProof := m.channelProof
  upgradeProof := m.upgradeProof

end Interchain

------------------------------------------------------------
-- Weighed Byte Strings
------------------------------------------------------------

namespace Interchain

namespace Host

/- The end that the counterparty must have committed to, so as
   to mirror the stored one. -/
def mirrorOf
    (h : Host)
    (key : ChannelKey)
    (shown : ShownEnd) :
    Except ChannelError ChannelEnd := do
  let c ← h.channelEnd key
  let (id, connection) ← h.openConnection c
  let hop ← connection.peerConnection id
  return c.mirrored shown.state key hop shown.sequence

/- The end that the counterparty must have committed to, before
   the stored one opens. -/
def endBeforeOpen
    (h : Host)
    (m : OpenMessage) :
    Except ChannelError ChannelEnd := do
  let (c, u) ← h.openable m.key
  let (id, connection) ← h.openConnection c
  h.expectedBeforeOpen m c u id connection

/- A rebuilt end, as it would be committed. -/
def rebuilt : Except ChannelError ChannelEnd → List Bytes
  | .ok c => [utf8 c.committed]
  | .error _ => []

/- The byte strings that are weighed for what a message shows
   of the counterparty. -/
def weighedEnd
    (h : Host)
    (key : ChannelKey)
    (shown : ShownEnd) :
    List Bytes :=
  shown.channelProof.bytes :: shown.upgradeProof.bytes ::
    utf8 shown.upgrade.committed ::
      rebuilt (h.mirrorOf key shown)

/- The byte strings that are weighed for a message. -/
def weighed (h : Host) : UpgradeMessage → List Bytes
  | .init _ => []
  | .attempt m => h.weighedEnd m.key m.shown
  | .ack m => h.weighedEnd m.key m.shown
  | .confirm m => h.weighedEnd m.key m.shown
  | .reopen m =>
      m.channelProof.bytes :: rebuilt (h.endBeforeOpen m)
  | .cancel m =>
      utf8 m.receipt.committed ::
        m.receiptProof.toList.map CommitmentProof.bytes
  | .timeout m =>
      m.channelProof.bytes ::
        utf8 m.counterpartyChannel.committed ::
          m.receiptProof.bytes ::
            m.earlierReceipt.toList.map fun receipt =>
              utf8 receipt.committed

variable {h : Host} {key : ChannelKey}

/- An end that can be rebuilt is weighed. -/
theorem mem_rebuilt
    {x : Except ChannelError ChannelEnd}
    {c : ChannelEnd}
    (hOk : x = .ok c) :
    utf8 c.committed ∈ rebuilt x := by
  rw [hOk]
  exact List.mem_singleton_self _

/- The mirror is weighed, also that of an end which has caught
   up with the counterparty. -/
theorem mem_weighedEnd_mirrored
    (shown : ShownEnd)
    {c found : ChannelEnd}
    {last : Sequence}
    {id hop : ConnectionId}
    {connection : ConnectionEnd}
    (hChannel : h.channels[key]? = some found)
    (hCaught : c = { found with upgradeSequence := last })
    (hConnection : h.openConnection c = .ok (id, connection))
    (hHop : connection.peer.connection = some hop) :
    utf8 (c.mirrored shown.state key hop
        shown.sequence).committed ∈
      h.weighedEnd key shown := by
  subst hCaught
  have hFound :
      h.openConnection found = .ok (id, connection) :=
    hConnection
  have hMirror :
      h.mirrorOf key shown =
        .ok (found.mirrored shown.state key hop
          shown.sequence) := by
    simp [mirrorOf, hChannel, hFound, hHop]
  apply List.mem_cons_of_mem
  apply List.mem_cons_of_mem
  apply List.mem_cons_of_mem
  exact mem_rebuilt hMirror

/- The end that is expected before opening is weighed. -/
theorem mem_weighed_reopen
    {m : OpenMessage}
    {c expected : ChannelEnd}
    {u : Upgrade}
    {id : ConnectionId}
    {connection : ConnectionEnd}
    (hChannel : h.channels[m.key]? = some c)
    (hState : c.state = .flushComplete)
    (hUpgrade : h.upgrades[m.key]? = some u)
    (hConnection : h.openConnection c = .ok (id, connection))
    (hExpected :
      h.expectedBeforeOpen m c u id connection =
        .ok expected) :
    utf8 expected.committed ∈ h.weighed (.reopen m) := by
  have hBefore : h.endBeforeOpen m = .ok expected := by
    simp [endBeforeOpen, openable, hChannel, hState, hUpgrade,
      hConnection, hExpected]
  exact List.mem_cons_of_mem _ (mem_rebuilt hBefore)

/- So is a proof that comes with a receipt. -/
theorem mem_weighed_cancel
    {m : CancelMessage}
    {proof : CommitmentProof}
    (hProof : m.receiptProof = some proof) :
    proof.bytes ∈ h.weighed (.cancel m) := by
  simp [weighed, hProof]

end Host

end Interchain
