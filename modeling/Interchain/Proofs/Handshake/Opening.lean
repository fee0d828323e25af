import Interchain.Proofs.Handshake.Answer

/-
  Messages that open a channel with new fields.

  The event of an opened channel is emitted by one plan only.
  So whenever a report tells of it, the channel is open and no
  record of the attempt, or of an earlier one, is left.

  Main declarations:
    * `Opens`
    * `Host.Reopened`

  Main statements:
    * `Host.reopened_of_opens`
    * `Host.opens_of_reopen`
-/

------------------------------------------------------------
-- Opening
------------------------------------------------------------

namespace Interchain

/- A report tells that a channel was opened with new fields. -/
def Opens
    (result : Except DispatchError (EventReport UpgradeOutcome)) :
    Prop :=
  ∃ report attributes,
    result = .ok report ∧
      Event.upgradeOpen attributes ∈ report.events

namespace Host

/- A channel is open, and nothing is left of an attempt. -/
structure Reopened (h : Host) (key : ChannelKey) : Prop where
  channel :
    ∃ c, h.channels[key]? = some c ∧ c.state = .open
  upgrade : h.upgrades[key]? = none
  counterpartyUpgrade : h.counterpartyUpgrades[key]? = none
  receipt : h.receipts[key]? = none

variable {h : Host}

/- An end that opens has the fields of its proposal, and
   nothing of the attempt is left. -/
theorem reopened_of_openPlan
    {key : ChannelKey}
    {p : Plan Event}
    (hPlan : openPlan key h = .ok p) :
    (h.applyAll p.writes).Reopened key := by
  rcases records_openPlan hPlan with ⟨_, u, _, hRecords⟩
  have hState :
      ((h.applyAll p.writes).records key).channel.state =
        .open := by
    rw [hRecords]
    rfl
  refine ⟨⟨_, channels_eq_of_state_ne ?_, hState⟩, ?_, ?_, ?_⟩
  · rw [hState]
    simp
  · exact congrArg Records.upgrade? hRecords
  · exact congrArg Records.counterparty? hRecords
  · exact congrArg Records.receipt? hRecords

end Host

end Interchain

------------------------------------------------------------
-- Events of the Plans
------------------------------------------------------------

namespace Interchain

namespace Host

variable {h : Host}

/- Each plan emits the event of its own step. -/
theorem outcome_stepPlan
    {tell : UpgradeAttributes → Event}
    {step : UpgradeStep}
    {p : Plan Event}
    (hPlan : stepPlan tell step h = .ok p) :
    ∃ attributes, p.outcome = tell attributes := by
  simp only [stepPlan, bind_eq_ok, pure_eq_ok] at hPlan
  rcases hPlan with ⟨_, _, rfl⟩
  exact ⟨_, rfl⟩

/- An acknowledgement is told as one. -/
theorem outcome_ackPlan
    {step : AckStep}
    {p : Plan Event}
    (hPlan : ackPlan step h = .ok p) :
    ∃ attributes, p.outcome = .upgradeAck attributes := by
  simp only [ackPlan, bind_eq_ok, pure_eq_ok] at hPlan
  rcases hPlan with ⟨_, _, rfl⟩
  exact ⟨_, rfl⟩

theorem outcome_confirmPlan
    {step : ConfirmStep}
    {p : Plan (Event × Bool)}
    (hPlan : confirmPlan step h = .ok p) :
    ∃ attributes, p.outcome.1 = .upgradeConfirm attributes := by
  simp only [confirmPlan, bind_eq_ok, pure_eq_ok] at hPlan
  rcases hPlan with ⟨_, _, rfl⟩
  exact ⟨_, rfl⟩

theorem outcome_openPlan
    {key : ChannelKey}
    {p : Plan Event}
    (hPlan : openPlan key h = .ok p) :
    ∃ attributes, p.outcome = .upgradeOpen attributes := by
  simp only [openPlan, bind_eq_ok, pure_eq_ok] at hPlan
  rcases hPlan with ⟨_, _, _, _, rfl⟩
  exact ⟨_, rfl⟩

theorem outcome_cancelPlan
    {step : CancelStep}
    {p : Plan Event}
    (hPlan : cancelPlan step h = .ok p) :
    ∃ attributes, p.outcome = .upgradeCancel attributes := by
  simp only [cancelPlan, bind_eq_ok, pure_eq_ok] at hPlan
  rcases hPlan with ⟨_, _, _, _, _, _, rfl⟩
  exact ⟨_, rfl⟩

theorem outcome_timeoutPlan
    {step : TimeoutStep}
    {p : Plan Event}
    (hPlan : timeoutPlan step h = .ok p) :
    ∃ attributes, p.outcome = .upgradeTimeout attributes := by
  simp only [timeoutPlan, bind_eq_ok, pure_eq_ok] at hPlan
  rcases hPlan with ⟨_, _, _, _, _, _, rfl⟩
  exact ⟨_, rfl⟩

/- Giving up is told as an error, and nothing else. -/
theorem events_abortPlan
    {key : ChannelKey}
    {reason : AbortReason}
    {p : Plan (EventReport ErrorReceipt)}
    (hPlan : abortPlan key reason h = .ok p) :
    ∃ attributes,
      p.outcome.events = [.upgradeError attributes] := by
  simp only [abortPlan, bind_eq_ok, pure_eq_ok] at hPlan
  rcases hPlan with ⟨_, _, _, _, _, _, rfl⟩
  exact ⟨_, rfl⟩

end Host

end Interchain

------------------------------------------------------------
-- After Opening
------------------------------------------------------------

namespace Interchain

namespace Host

variable {h : Host} {m : UpgradeMessage}

/- A step that tells of an opened channel has opened it. -/
theorem Takes.reopened
    {events : List Event}
    {after : Host}
    {attributes : UpgradeAttributes}
    (hTakes : h.Takes m events after)
    (hEvent : Event.upgradeOpen attributes ∈ events) :
    after.Reopened m.key := by
  cases hTakes with
  | init hOk hPlan =>
      rcases outcome_stepPlan hPlan with ⟨_, hOutcome⟩
      simp [hOutcome] at hEvent
  | attempt hStaged hOk hPlan =>
      rcases outcome_stepPlan hPlan with ⟨_, hOutcome⟩
      simp [hOutcome] at hEvent
  | ack hOk hPlan =>
      rcases outcome_ackPlan hPlan with ⟨_, hOutcome⟩
      simp [hOutcome] at hEvent
  | confirm hOk hPlan =>
      rcases outcome_confirmPlan hPlan with ⟨_, hOutcome⟩
      simp [hOutcome] at hEvent
  | confirmOpen hOk hPlan hOpen =>
      exact reopened_of_openPlan hOpen
  | reopen hOk hPlan => exact reopened_of_openPlan hPlan
  | cancel hOk hPlan =>
      rcases outcome_cancelPlan hPlan with ⟨_, hOutcome⟩
      simp [hOutcome] at hEvent
  | timeout hOk hPlan =>
      rcases outcome_timeoutPlan hPlan with ⟨_, hOutcome⟩
      simp [hOutcome] at hEvent

/- Giving up does not tell of an opened channel. -/
theorem Ends.not_opens
    {error : UpgradeError}
    {events : List Event}
    {before : Host}
    {attributes : UpgradeAttributes}
    {p : Plan (EventReport ErrorReceipt)}
    (hEnds : h.Ends m error events before)
    (hPlan : abortPlan m.key (.step error) before = .ok p) :
    Event.upgradeOpen attributes ∉
      events ++ p.outcome.events := by
  rcases events_abortPlan hPlan with ⟨_, hEvents⟩
  rw [hEvents]
  cases hEnds with
  | staged hStaged hEnded hStored =>
      rcases outcome_stepPlan hStored with ⟨_, hOutcome⟩
      simp [hOutcome]
  | attempt => simp
  | ack => simp
  | confirm => simp

/- Right after a channel was opened with new fields, it is open
   and nothing is left of any attempt. -/
theorem reopened_of_opens
    (hOpens : Opens (h.dispatch m).1) :
    (h.dispatch m).2.Reopened m.key := by
  have hAnswers := h.answers_dispatch m
  rcases hDispatch : h.dispatch m with ⟨result, after⟩
  rw [hDispatch] at hAnswers hOpens
  rcases hOpens with ⟨report, attributes, hResult, hEvent⟩
  cases hAnswers with
  | rejected cause => simp at hResult
  | taken log hTakes =>
      rw [← Except.ok.inj hResult] at hEvent
      exact hTakes.reopened hEvent
  | givenUp hEnds hPlan =>
      rw [← Except.ok.inj hResult] at hEvent
      exact (hEnds.not_opens hPlan hEvent).elim

/- A message that leaves a receipt has not opened the
   channel. -/
theorem not_opens_of_receipt
    {receipt : ErrorReceipt}
    (hReceipt :
      (h.dispatch m).2.receipts[m.key]? = some receipt) :
    ¬ Opens (h.dispatch m).1 := by
  intro hOpens
  rw [(reopened_of_opens hOpens).receipt] at hReceipt
  simp at hReceipt

/- Nor has one that leaves a proposal. -/
theorem not_opens_of_upgrade
    {u : Upgrade}
    (hUpgrade : (h.dispatch m).2.upgrades[m.key]? = some u) :
    ¬ Opens (h.dispatch m).1 := by
  intro hOpens
  rw [(reopened_of_opens hOpens).upgrade] at hUpgrade
  simp at hUpgrade

/- A message that asks to open, and succeeds, opens. -/
theorem opens_of_reopen
    {m : OpenMessage}
    (hSucceeds : Succeeds (h.dispatch (.reopen m)).1) :
    Opens (h.dispatch (.reopen m)).1 := by
  have hAnswers := h.answers_dispatch (.reopen m)
  rcases hDispatch : h.dispatch (.reopen m) with ⟨result, after⟩
  rw [hDispatch] at hAnswers hSucceeds
  rcases hSucceeds with ⟨report, hResult, _⟩
  cases hAnswers with
  | rejected cause => simp at hResult
  | taken log hTakes =>
      cases hTakes with
      | reopen hOk hPlan =>
          rcases outcome_openPlan hPlan with
            ⟨attributes, hOutcome⟩
          refine ⟨_, attributes, rfl, ?_⟩
          simp [hOutcome]
  | givenUp hEnds hPlan => cases hEnds

end Host

end Interchain
