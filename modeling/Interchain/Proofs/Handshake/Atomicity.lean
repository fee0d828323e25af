import Interchain.Proofs.Handshake.Answer

/-
  Handling a message is all or nothing.

  A message is rejected and changes nothing, or its step is
  taken, or the attempt is given up as a whole: the channel is
  open again with the fields it had, both proposals are gone,
  and the receipt that is answered is stored.

  Main declarations:
    * `Host.GivenUp`
    * `Host.Settled`

  Main statements:
    * `Host.settled_dispatch`
-/

------------------------------------------------------------
-- Outcomes
------------------------------------------------------------

namespace Interchain

namespace Host

/- An attempt was given up.  The end keeps its fields, and its
   upgrade sequence does not go back. -/
structure GivenUp
    (h : Host)
    (key : ChannelKey)
    (receipt : ErrorReceipt)
    (after : Host) : Prop where
  channel :
    ∃ c sequence,
      h.channels[key]? = some c ∧
        c.upgradeSequence ≤ sequence ∧
        receipt.sequence ≤ sequence ∧
        after.channels[key]? =
          some
            { state := .open
              order := c.order
              peer := c.peer
              hops := c.hops
              version := c.version
              upgradeSequence := sequence }
  upgrade : after.upgrades[key]? = none
  counterpartyUpgrade : after.counterpartyUpgrades[key]? = none
  receipt : after.receipts[key]? = some receipt

/- What the answer to a message says of the chain after it. -/
def Settled
    (h : Host)
    (m : UpgradeMessage) :
    Except DispatchError (EventReport UpgradeOutcome) × Host →
      Prop
  | (.error (.rejected _), after) => after = h
  | (.error (.fatal _), _) => False
  | (.ok report, after) =>
      match report.result with
      | .success => True
      | .aborted receipt => h.GivenUp m.key receipt after

end Host

end Interchain

------------------------------------------------------------
-- Giving Up
------------------------------------------------------------

namespace Interchain

namespace Host

variable {h before : Host}

/- The receipt that is answered is the one for the error. -/
theorem result_abortPlan
    {key : ChannelKey}
    {reason : AbortReason}
    {p : Plan (EventReport ErrorReceipt)}
    (hPlan : abortPlan key reason h = .ok p) :
    p.outcome.result =
      (reason.error (h.records key).channel).receipt := by
  simp only [abortPlan, bind_eq_ok, required_eq_ok,
    channelEnd_eq_ok, pure_eq_ok] at hPlan
  rcases hPlan with ⟨_, _, c, hChannel, _, _, rfl⟩
  rw [records_channel hChannel]
  rfl

/- When an attempt is given up, the end has caught up with the
   counterparty at most. -/
theorem Ends.exists_channel
    {m : UpgradeMessage}
    {error : UpgradeError}
    {events : List Event}
    (hEnds : h.Ends m error events before) :
    ∃ c last,
      h.channels[m.key]? = some c ∧
        c.upgradeSequence ≤ last ∧
        (before.records m.key).channel =
          { c with upgradeSequence := last } := by
  cases hEnds with
  | @attempt m error hStaged hEnded =>
      rcases verified_of_processTry (not_isRefused_ended hEnded)
        with ⟨c, u, hAnswered, _⟩
      simp [answered] at hAnswered
      exact ⟨c, c.upgradeSequence, hAnswered.1, le_refl _,
        records_channel hAnswered.1⟩
  | @staged m error step p hStaged hEnded hPlan =>
      rcases answered_eq_stored hStaged rfl with
        ⟨c, last, hChannel, hLast, hStored⟩
      have hRecords := (records_stepPlan hPlan).2
      rw [(key_of_stageAnswer hStaged).1, hStored] at hRecords
      exact ⟨c, last, hChannel, hLast,
        congrArg Records.channel hRecords⟩
  | @ack m error hEnded =>
      rcases processAck_eq_ended hEnded with ⟨c, hChannel, _⟩
      exact ⟨c, c.upgradeSequence, hChannel, le_refl _,
        records_channel hChannel⟩
  | @confirm m error hEnded =>
      rcases processConfirm_eq_ended hEnded with
        ⟨c, hChannel, _⟩
      exact ⟨c, c.upgradeSequence, hChannel, le_refl _,
        records_channel hChannel⟩

/- Giving up restores the end and leaves the receipt. -/
theorem givenUp_of_abortPlan
    {m : UpgradeMessage}
    {error : UpgradeError}
    {events : List Event}
    {p : Plan (EventReport ErrorReceipt)}
    (hEnds : h.Ends m error events before)
    (hPlan : abortPlan m.key (.step error) before = .ok p) :
    h.GivenUp m.key p.outcome.result
      (before.applyAll p.writes) := by
  rcases hEnds.exists_channel with
    ⟨c, last, hChannel, hLast, hBefore⟩
  rcases records_abortPlan hPlan with
    ⟨_, _, reported, hReported, hRecords⟩
  have hResult := result_abortPlan hPlan
  rw [← hReported] at hResult
  rw [hBefore] at hRecords
  have hState :
      ((before.applyAll p.writes).records m.key).channel.state ≠
        .uninitialized := by
    rw [hRecords]
    simp [Records.restored, ChannelEnd.restored]
  have hRestored := channels_eq_of_state_ne hState
  rw [hRecords, Records.restored, hBefore] at hRestored
  refine ⟨⟨c, max last reported.sequence, hChannel,
    hLast.trans (le_max_left _ _), ?_, hRestored⟩, ?_, ?_, ?_⟩
  · rw [hResult]
    exact le_max_right _ _
  · exact congrArg Records.upgrade? hRecords
  · exact congrArg Records.counterparty? hRecords
  · rw [hResult]
    exact congrArg Records.receipt? hRecords

end Host

end Interchain

------------------------------------------------------------
-- Atomicity
------------------------------------------------------------

namespace Interchain

namespace Host

/- On any chain, a message is rejected without a trace, taken,
   or answered by giving the attempt up; it is never left half
   written. -/
theorem settled_dispatch
    (h : Host)
    (m : UpgradeMessage) :
    h.Settled m (h.dispatch m) := by
  have hAnswers := h.answers_dispatch m
  rcases hDispatch : h.dispatch m with ⟨result, after⟩
  rw [hDispatch] at hAnswers
  cases hAnswers with
  | rejected cause => rfl
  | taken log hTakes => trivial
  | givenUp hEnds hPlan =>
      exact givenUp_of_abortPlan hEnds hPlan

end Host

end Interchain
