import Interchain.Handshake.Try

/-
  Acknowledging an answer.

  The end that proposed starts to flush as well, with the
  version that the counterparty settled on.  If both ends
  proposed, both flush already, and their versions must agree.
  Without packets in flight the end is done flushing.

  Main declarations:
    * `Host.processAck`
    * `ackPlan`
-/

------------------------------------------------------------
-- Step
------------------------------------------------------------

namespace Interchain

/- A step that learned the upgrade of the counterparty. -/
structure AckStep extends UpgradeStep where
  counterpartyUpgrade : Upgrade
  deriving DecidableEq

namespace Host

/- What the counterparty must have committed to when it has
   an upgrade. -/
def verifyCounterparty
    (h : Host)
    (key : ChannelKey)
    (c : ChannelEnd)
    (state : ChannelState)
    (sequence : Sequence)
    (upgrade : Upgrade)
    (channelProof upgradeProof : CommitmentProof)
    (height : Height) :
    Except ChannelError Unit := do
  let (id, connection) ← h.openConnection c
  let hop ← connection.peerConnection id
  h.verifyChannel c connection
    (c.mirrored state key hop sequence) channelProof height
  h.verifyUpgrade c connection upgrade upgradeProof height

/- The channel end that can be acknowledged. -/
def acknowledgeable
    (h : Host)
    (key : ChannelKey) :
    Except ChannelError ChannelEnd := do
  let c ← h.channelEnd key
  if c.state ≠ .open ∧ c.state ≠ .flushing then
    throw (.channelState key.channel c.state)
  return c

end Host

/- An end that proposed takes the version of the answer. -/
def Upgrade.settled
    (u : Upgrade)
    (c : ChannelEnd)
    (version : ChannelVersion) :
    Upgrade :=
  if c.state = .open then
    { u with fields := { u.fields with version := version } }
  else
    u

/- An incompatible answer ends the attempt. -/
def incompatibleEnds
    (sequence : Sequence) :
    Except ChannelError Unit → Except UpgradeError Unit
  | .ok () => .ok ()
  | .error cause => .error ⟨sequence, cause⟩

namespace Host

/- An end that is open starts to flush. -/
def flushIfOpen
    (h : Host)
    (key : ChannelKey)
    (c : ChannelEnd)
    (u : Upgrade) :
    Except ChannelError (ChannelEnd × Upgrade) :=
  if c.state = .open then h.startFlushing key c u
  else .ok (c, u)

/- A proposal that is proven to differ ends the attempt; one
   that is not proven refuses the message. -/
def processAck
    (h : Host)
    (m : AckMessage) :
    Except StepError (EventReport AckStep) := do
  let c ← refuse (h.acknowledgeable m.key)
  refuse (h.verifyCounterparty m.key c .flushing
    m.counterpartySequence m.counterpartyUpgrade
    m.channelProof m.upgradeProof m.proofHeight)
  let stored ← refuse (h.upgrade m.key)
  endAttempt (checkSequence c m.counterpartySequence)
  let u :=
    stored.settled c m.counterpartyUpgrade.fields.version
  endAttempt (incompatibleEnds c.upgradeSequence
    (h.checkCompatible u.fields m.counterpartyUpgrade.fields))
  let (flushing, upgrade) ← refuse (h.flushIfOpen m.key c u)
  endAttempt (h.checkCounterpartyTimeout c.upgradeSequence
    m.counterpartyUpgrade)
  return Report.noting
    ⟨⟨m.key, flushing, upgrade⟩, m.counterpartyUpgrade⟩
    ("channel " ++ m.key.display ++
      " acknowledged upgrade " ++ c.upgradeSequence.display)

end Host

end Interchain

------------------------------------------------------------
-- Writes
------------------------------------------------------------

namespace Interchain

/-
  Store an acknowledged upgrade.  The upgrade of the
  counterparty is kept until the last packet is resolved.
-/
def ackPlan
    (step : AckStep)
    (h : Host) :
    Except FatalError (Plan Event) := do
  let key := step.key
  let _ ← required key (h.channelEnd key)
  let inFlight := h.hasInFlight key
  let c :=
    if inFlight then step.channel
    else { step.channel with state := .flushComplete }
  let kept :=
    if inFlight then
      [Write.counterpartyUpgrade key step.counterpartyUpgrade]
    else
      []
  return ⟨
    kept ++ [.channel key c, .upgrade key step.upgrade],
    .upgradeAck (.ofEnd key c step.upgrade.fields)⟩

end Interchain
