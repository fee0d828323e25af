import Interchain.Handshake.Outcome

/-
  Giving up an attempt.

  The channel goes back to open with the fields it had, both
  proposals are dropped, and a receipt is left for the
  counterparty.  The upgrade sequence does not go back.

  Main declarations:
    * `checkSequence`
    * `restorePlan`
    * `abortPlan`
-/

------------------------------------------------------------
-- Sequence Agreement
------------------------------------------------------------

namespace Interchain

/- Both ends must be at the same attempt.  A mismatch ends the
   later of the two. -/
def checkSequence
    (c : ChannelEnd)
    (counterparty : Sequence) :
    Except UpgradeError Unit :=
  if c.upgradeSequence = counterparty then
    .ok ()
  else
    .error
      ⟨max c.upgradeSequence counterparty,
        .upgradeSequence c.upgradeSequence counterparty⟩

end Interchain

------------------------------------------------------------
-- Restoring
------------------------------------------------------------

namespace Interchain

/- A channel end, open again, with an upgrade sequence. -/
def ChannelEnd.restored
    (c : ChannelEnd)
    (sequence : Sequence) :
    ChannelEnd :=
  { c with state := .open, upgradeSequence := sequence }

/- The writes that remove both proposals of a channel. -/
def dropProposals (key : ChannelKey) : List Write :=
  [.noUpgrade key, .noCounterpartyUpgrade key]

/- Open the channel again and remove both proposals. -/
def restorePlan
    (key : ChannelKey)
    (sequence : Sequence)
    (h : Host) :
    Except FatalError (Plan ChannelEnd) := do
  let c ← required key (h.channelEnd key)
  let restored := c.restored sequence
  return ⟨.channel key restored :: dropProposals key, restored⟩

end Interchain

------------------------------------------------------------
-- Aborting
------------------------------------------------------------

namespace Interchain

/- Why an attempt is given up: a step failed for an attempt it
   knows, or the application gives up the current one. -/
inductive AbortReason where
  | step (error : UpgradeError)
  | application (cause : ChannelError)
  deriving DecidableEq

/- The error for the attempt that a reason is about. -/
def AbortReason.error
    (reason : AbortReason)
    (c : ChannelEnd) :
    UpgradeError :=
  match reason with
  | .step error => error
  | .application cause => ⟨c.upgradeSequence, cause⟩

/-
  Restore the channel and leave a receipt.  There must be an
  attempt to give up.
-/
def abortPlan
    (key : ChannelKey)
    (reason : AbortReason)
    (h : Host) :
    Except FatalError (Plan (EventReport ErrorReceipt)) := do
  let _ ← required key (h.upgrade key)
  let c ← required key (h.channelEnd key)
  let error := reason.error c
  let restoring ← restorePlan key
    (max c.upgradeSequence error.sequence) h
  let receipt := error.receipt
  let line :=
    "upgrade attempt " ++ error.sequence.display ++
      " of channel " ++ key.display ++ " aborted: " ++
      error.cause.message
  let event :=
    Event.upgradeError (.ofEnd key restoring.outcome receipt)
  return ⟨restoring.writes ++ [.receipt key receipt],
    ((Transcript.empty.note line).emit event).close receipt⟩

end Interchain
