import Interchain.Handshake.Confirm

/-
  Opening with the new fields.

  Both ends are done flushing, or the counterparty is already
  open with the fields that were agreed.  The end takes the
  fields of its upgrade, and the records of the attempt and of
  any earlier one are removed.

  Main declarations:
    * `Host.processOpen`
    * `openPlan`
-/

------------------------------------------------------------
-- Step
------------------------------------------------------------

namespace Interchain

namespace Host

/- The open end that the counterparty commits to with the
   fields that mirror an upgrade. -/
def expectedOpen
    (h : Host)
    (key : ChannelKey)
    (c : ChannelEnd)
    (u : Upgrade) :
    Except ChannelError ChannelEnd :=
  match u.fields.hop? with
  | none => .error (.hopCount 1 0)
  | some id => do
      let connection ← h.connectionEnd id
      let hop ← connection.peerConnection id
      return (c.applyFields u.fields).mirrored .open key hop
        c.upgradeSequence

/- The end that the counterparty commits to. -/
def expectedBeforeOpen
    (h : Host)
    (m : OpenMessage)
    (c : ChannelEnd)
    (u : Upgrade)
    (id : ConnectionId)
    (connection : ConnectionEnd) :
    Except ChannelError ChannelEnd :=
  match m.counterpartyState with
  | .open => h.expectedOpen m.key c u
  | .flushComplete => do
      let hop ← connection.peerConnection id
      return c.mirrored .flushComplete m.key hop
        c.upgradeSequence
  | state => .error (.counterpartyState state)

/- The channel end and the upgrade that can be opened. -/
def openable
    (h : Host)
    (key : ChannelKey) :
    Except ChannelError (ChannelEnd × Upgrade) := do
  let c ← h.channelEnd key
  if c.state ≠ .flushComplete then
    throw (.channelState key.channel c.state)
  let u ← h.upgrade key
  return (c, u)

/- The other end is shown to be done flushing, or open, in the
   same attempt. -/
def processOpen
    (h : Host)
    (m : OpenMessage) :
    Except ChannelError (EventReport Unit) := do
  let (c, u) ← h.openable m.key
  let (id, connection) ← h.openConnection c
  if m.counterpartySequence ≠ c.upgradeSequence then
    throw (.upgradeSequence c.upgradeSequence
      m.counterpartySequence)
  let expected ← h.expectedBeforeOpen m c u id connection
  h.verifyChannel c connection expected m.channelProof
    m.proofHeight
  return Report.noting ()
    ("channel " ++ m.key.display ++
      " ready to open with upgrade " ++
      c.upgradeSequence.display)

end Host

end Interchain

------------------------------------------------------------
-- Writes
------------------------------------------------------------

namespace Interchain

/- Take the fields of the upgrade, and remove the records of
   the attempt. -/
def openPlan
    (key : ChannelKey)
    (h : Host) :
    Except FatalError (Plan Event) := do
  let c ← required key (h.channelEnd key)
  let u ← required key (h.upgrade key)
  let opened :=
    { c.applyFields u.fields with state := .open }
  return ⟨
    .channel key opened :: dropProposals key ++
      [.noReceipt key],
    .upgradeOpen (.ofEnd key opened u.fields)⟩

end Interchain
