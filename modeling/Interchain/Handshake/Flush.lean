import Interchain.Handshake.Abort

/-
  Flushing a channel.

  While a channel flushes, no packet is sent on it.  It is
  done once no packet is in flight; it gives up when the
  counterparty's timeout elapses before that.

  Main declarations:
    * `Host.startFlushing`
    * `Host.checkCounterpartyTimeout`
    * `refreshPlan`
    * `Session.resolvePacket`
-/

------------------------------------------------------------
-- Starting
------------------------------------------------------------

namespace Interchain

namespace Host

/- The last sequence sent on a channel that may flush. -/
def latestSent
    (h : Host)
    (key : ChannelKey)
    (c : ChannelEnd) :
    Except ChannelError Sequence := do
  let _ ← h.openConnection c
  let next ← h.nextSequence key
  return next.previous

/-
  Start to flush.  Answers the error, if there is one, and how
  far the channel end and the upgrade came until then.
-/
def flushProgress
    (h : Host)
    (key : ChannelKey)
    (c : ChannelEnd)
    (u : Upgrade) :
    Except ChannelError Unit × ChannelEnd × Upgrade :=
  match h.latestSent key c with
  | .error e => (.error e, c, u)
  | .ok latestSent =>
      let flushing := { c with state := .flushing }
      let upgrade := { u with latestSent := latestSent }
      match h.params.deadline h.height h.timestamp with
      | .error e => (.error e, flushing, upgrade)
      | .ok timeout =>
          (.ok (), flushing,
            { upgrade with timeout := some timeout })

/- The flushing channel end, and its upgrade with the timeout
   and the last sequence sent. -/
def startFlushing
    (h : Host)
    (key : ChannelKey)
    (c : ChannelEnd)
    (u : Upgrade) :
    Except ChannelError (ChannelEnd × Upgrade) :=
  match h.flushProgress key c u with
  | (.ok (), records) => .ok records
  | (.error e, _) => .error e

/- The timeout of the counterparty must be set, and ahead. -/
def checkCounterpartyTimeout
    (h : Host)
    (sequence : Sequence)
    (counterparty : Upgrade) :
    Except UpgradeError Unit :=
  match counterparty.timeout with
  | none => .error ⟨sequence, .invalidTimeout⟩
  | some timeout =>
      if timeout.hasElapsed h.height h.timestamp then
        .error ⟨sequence, .timeoutElapsed timeout⟩
      else
        .ok ()

end Host

end Interchain

------------------------------------------------------------
-- Finishing
------------------------------------------------------------

namespace Interchain

/- What looking at a flushing channel again led to. -/
inductive FlushStatus where
  | unchanged
  | complete
  | aborted (receipt : ErrorReceipt)
  deriving DecidableEq

/- Give up the attempt that a flushing channel is in. -/
def giveUpPlan
    (key : ChannelKey)
    (error : UpgradeError)
    (h : Host) :
    Except DispatchError (Plan (EventReport FlushStatus)) :=
  match abortPlan key (.step error) h with
  | .ok plan =>
      .ok (plan.map fun report => report.map FlushStatus.aborted)
  | .error e => .error (.fatal e)

/- Nothing to write, and nothing to tell. -/
def stillFlushing : Plan (EventReport FlushStatus) :=
  Plan.idle (Transcript.empty.close .unchanged)

/- The last packet is resolved. -/
def completePlan
    (key : ChannelKey)
    (c : ChannelEnd) :
    Plan (EventReport FlushStatus) :=
  ⟨[.channel key { c with state := .flushComplete }],
    Report.noting .complete
      ("channel " ++ key.display ++ " finished flushing")⟩

/-
  Look at a channel again.  It can be done only if it flushes
  and knows the upgrade of the counterparty.
-/
def refreshPlan
    (key : ChannelKey)
    (h : Host) :
    Except DispatchError (Plan (EventReport FlushStatus)) :=
  match h.channelEnd key with
  | .error e => .error (.rejected e)
  | .ok c =>
      if c.state ≠ .flushing then .ok stillFlushing
      else
        match h.counterpartyUpgrades[key]? with
        | none => .ok stillFlushing
        | some counterparty =>
            match h.checkCounterpartyTimeout c.upgradeSequence
                counterparty with
            | .error error => giveUpPlan key error h
            | .ok () =>
                if h.hasInFlight key then .ok stillFlushing
                else .ok (completePlan key c)

namespace Session

/- Look at a channel again, and write what it led to. -/
def refresh
    (s : Session)
    (key : ChannelKey) :
    Except DispatchError (EventReport FlushStatus) × Session :=
  s.carryOut .fatal (refreshPlan key)

/- Remove the commitment to a packet that is resolved, then
   look at its channel again. -/
def resolvePacket
    (s : Session)
    (key : PacketKey) :
    Except DispatchError (EventReport FlushStatus) × Session :=
  match s.write (.noCommitment key) with
  | (.error e, next) => (.error (.fatal e), next)
  | (.ok (), next) => next.refresh key.source

end Session

end Interchain
