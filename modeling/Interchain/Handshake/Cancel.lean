import Interchain.Handshake.Abort
import Interchain.Handshake.Verification
import Interchain.Message

/-
  Cancelling an attempt.

  The counterparty's receipt, proven, shows that it gave the
  attempt up.  The authority of the chain needs no proof, but
  only as long as the end is not done flushing: after that the
  counterparty may open at any time, and only its own receipt
  shows that it will not.

  Main declarations:
    * `Host.processCancel`
    * `cancelPlan`
-/

------------------------------------------------------------
-- Step
------------------------------------------------------------

namespace Interchain

/- A receipt for the attempt on a channel. -/
structure CancelStep where
  key : ChannelKey
  receipt : ErrorReceipt
  deriving DecidableEq

namespace Host

/- The channel end whose attempt a receipt can end. -/
def cancellable
    (h : Host)
    (m : CancelMessage) :
    Except ChannelError ChannelEnd := do
  let c ← h.channelEnd m.key
  let _ ← h.upgrade m.key
  if m.receipt.sequence < c.upgradeSequence then
    throw (.upgradeSequence c.upgradeSequence
      m.receipt.sequence)
  return c

/- The counterparty has committed to the receipt. -/
def verifyCancel
    (h : Host)
    (m : CancelMessage)
    (c : ChannelEnd) :
    Except ChannelError Unit := do
  let (_, connection) ← h.openConnection c
  match m.receiptProof with
  | none => throw .noReceiptProof
  | some proof =>
      h.verifyReceipt c connection m.receipt proof
        m.proofHeight

/- The authority needs no proof, unless the end is done
   flushing. -/
def processCancel
    (h : Host)
    (m : CancelMessage) :
    Except ChannelError (EventReport CancelStep) := do
  let c ← h.cancellable m
  let subject :=
    "upgrade " ++ c.upgradeSequence.display ++
      " of channel " ++ m.key.display
  if h.params.isAuthority m.signer = true ∧
      c.state ≠ .flushComplete then
    return Report.noting ⟨m.key, m.receipt⟩
      (subject ++ " cancelled by the upgrade authority")
  h.verifyCancel m c
  return Report.noting ⟨m.key, m.receipt⟩
    (subject ++ " cancelled by counterparty error receipt " ++
      m.receipt.sequence.display)

end Host

end Interchain

------------------------------------------------------------
-- Writes
------------------------------------------------------------

namespace Interchain

/- Keep the receipt as this end's own, so that both ends agree
   on the attempt that failed, and restore the channel. -/
def cancelPlan
    (step : CancelStep)
    (h : Host) :
    Except FatalError (Plan Event) := do
  let key := step.key
  let c ← required key (h.channelEnd key)
  let _ ← required key (h.upgrade key)
  let restoring ← restorePlan key
    (max c.upgradeSequence step.receipt.sequence) h
  return ⟨
    .receipt key step.receipt :: restoring.writes,
    .upgradeCancel
      (.ofEnd key restoring.outcome step.receipt)⟩

end Interchain
