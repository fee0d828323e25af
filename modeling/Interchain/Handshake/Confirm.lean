import Interchain.Handshake.Ack

/-
  Confirming that both ends flush.

  The end that answered learns the counterparty's upgrade.
  Without packets in flight it is done flushing; if the
  counterparty is done too, the channel can open.

  Main declarations:
    * `Host.processConfirm`
    * `confirmPlan`
-/

------------------------------------------------------------
-- Step
------------------------------------------------------------

namespace Interchain

/- A step that learned the state of the counterparty. -/
structure ConfirmStep extends AckStep where
  counterpartyState : ChannelState
  deriving DecidableEq

namespace Host

/- The channel end that can be confirmed. -/
def confirmable
    (h : Host)
    (m : ConfirmMessage) :
    Except ChannelError ChannelEnd := do
  let c ← h.channelEnd m.key
  if c.state ≠ .flushing then
    throw (.channelState m.key.channel c.state)
  if m.counterpartyState.isUpgrading = false then
    throw (.counterpartyState m.counterpartyState)
  return c

/- A deadline that is proven, and over by now, ends the
   attempt. -/
def processConfirm
    (h : Host)
    (m : ConfirmMessage) :
    Except StepError (EventReport ConfirmStep) := do
  let c ← refuse (h.confirmable m)
  refuse (h.verifyCounterparty m.key c m.counterpartyState
    m.counterpartySequence m.counterpartyUpgrade
    m.channelProof m.upgradeProof m.proofHeight)
  let upgrade ← refuse (h.upgrade m.key)
  endAttempt (checkSequence c m.counterpartySequence)
  endAttempt (h.checkCounterpartyTimeout c.upgradeSequence
    m.counterpartyUpgrade)
  return Report.noting
    ⟨⟨⟨m.key, c, upgrade⟩, m.counterpartyUpgrade⟩,
      m.counterpartyState⟩
    ("channel " ++ m.key.display ++ " confirmed upgrade " ++
      c.upgradeSequence.display ++ ", counterparty is " ++
      m.counterpartyState.display)

end Host

end Interchain

------------------------------------------------------------
-- Writes
------------------------------------------------------------

namespace Interchain

/- Keep the counterparty's upgrade, or be done flushing.
   Answers whether both ends are done. -/
def confirmPlan
    (step : ConfirmStep)
    (h : Host) :
    Except FatalError (Plan (Event × Bool)) := do
  let key := step.key
  let _ ← required key (h.channelEnd key)
  let inFlight := h.hasInFlight key
  let c :=
    if inFlight then step.channel
    else { step.channel with state := .flushComplete }
  let write :=
    if inFlight then
      Write.counterpartyUpgrade key step.counterpartyUpgrade
    else
      Write.channel key c
  let bothDone :=
    c.state == .flushComplete &&
      step.counterpartyState == .flushComplete
  return ⟨[write],
    (.upgradeConfirm (.ofEnd key c step.upgrade.fields),
      bothDone)⟩

end Interchain
