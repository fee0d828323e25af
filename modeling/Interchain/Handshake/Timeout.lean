import Interchain.Handshake.Abort
import Interchain.Handshake.Verification
import Interchain.Message

/-
  Giving up a proposal that was not answered in time.

  This is safe once the counterparty is proven to have passed
  the timeout without moving on: its channel is still open,
  and it holds no receipt for the attempt.

  Main declarations:
    * `Host.processTimeout`
    * `timeoutPlan`
-/

------------------------------------------------------------
-- Step
------------------------------------------------------------

namespace Interchain

/- The timeout that elapsed on a channel. -/
structure TimeoutStep where
  key : ChannelKey
  timeout : UpgradeTimeout
  deriving DecidableEq

namespace Host

/- The open channel end with a proposal. -/
def waiting
    (h : Host)
    (key : ChannelKey) :
    Except ChannelError (ChannelEnd × Upgrade) := do
  let c ← h.channelEnd key
  if c.state ≠ .open then
    throw (.channelState key.channel c.state)
  let u ← h.upgrade key
  return (c, u)

/- The timeout of a proposal, elapsed on the counterparty. -/
def elapsedTimeout
    (h : Host)
    (u : Upgrade)
    (connection : ConnectionEnd)
    (height : Height) :
    Except ChannelError UpgradeTimeout := do
  match u.timeout with
  | none => throw .invalidTimeout
  | some timeout =>
      let time ← h.counterpartyTime connection height
      if timeout.hasElapsed height time then
        return timeout
      else
        throw (.timeoutNotReached height time)

/- The counterparty holds no receipt for the attempt: none at
   all, or one that an earlier attempt left. -/
def verifyUnanswered
    (h : Host)
    (m : TimeoutMessage)
    (c : ChannelEnd)
    (connection : ConnectionEnd) :
    Except ChannelError Unit :=
  match m.earlierReceipt with
  | none =>
      h.verifyNoReceipt c connection m.receiptProof
        m.proofHeight
  | some receipt =>
      if c.upgradeSequence ≤ receipt.sequence then
        .error (.upgradeSequence c.upgradeSequence
          receipt.sequence)
      else
        h.verifyReceipt c connection receipt m.receiptProof
          m.proofHeight

/- The deadline is over where the proof was made, and the other
   end had not answered there. -/
def processTimeout
    (h : Host)
    (m : TimeoutMessage) :
    Except ChannelError (EventReport TimeoutStep) := do
  let (c, u) ← h.waiting m.key
  let (_, connection) ← h.openConnection c
  let timeout ← h.elapsedTimeout u connection m.proofHeight
  if m.counterpartyChannel.state ≠ .open then
    throw (.counterpartyState m.counterpartyChannel.state)
  h.verifyChannel c connection m.counterpartyChannel
    m.channelProof m.proofHeight
  h.verifyUnanswered m c connection
  return Report.noting ⟨m.key, timeout⟩
    ("upgrade " ++ c.upgradeSequence.display ++
      " of channel " ++ m.key.display ++
      " timed out on the counterparty")

end Host

end Interchain

------------------------------------------------------------
-- Writes
------------------------------------------------------------

namespace Interchain

/- Restore the channel, and leave a receipt for a counterparty
   that picks the proposal up late. -/
def timeoutPlan
    (step : TimeoutStep)
    (h : Host) :
    Except FatalError (Plan Event) := do
  let key := step.key
  let c ← required key (h.channelEnd key)
  let u ← required key (h.upgrade key)
  let restoring ← restorePlan key c.upgradeSequence h
  let error : UpgradeError :=
    ⟨c.upgradeSequence, .timeoutElapsed step.timeout⟩
  return ⟨
    restoring.writes ++ [.receipt key error.receipt],
    .upgradeTimeout
      (.ofEnd key restoring.outcome u.fields)⟩

end Interchain
