import Interchain.Proofs.Handshake.Opening
import Interchain.Proofs.Mirror.Retry

/-
  What the last event of an answer says.

  Relayers act on the other chain by the events of this one.
  The last event of a message names the channel of the message,
  and the peer and the attempt that are stored for it.  It adds
  the state and the fields that the step is about, or the
  receipt of an attempt that ended.

  Main declarations:
    * `UpgradeAttributes.Describes`
    * `ReceiptAttributes.Describes`
    * `Host.Tells`

  Main statements:
    * `Host.Takes.tells`
    * `Host.last_event_tells_stored`
-/

------------------------------------------------------------
-- True Events
------------------------------------------------------------

namespace Interchain

/- The attributes name a channel as a chain stores it, along
   with some fields. -/
def UpgradeAttributes.Describes
    (a : UpgradeAttributes)
    (h : Host)
    (key : ChannelKey)
    (fields : UpgradeFields) : Prop :=
  ∃ c,
    h.channels[key]? = some c ∧
      a = ⟨key, c.peer, c.upgradeSequence, c.state, fields⟩

/- The attributes name a channel, and the receipt for it, as a
   chain stores them. -/
def ReceiptAttributes.Describes
    (a : ReceiptAttributes)
    (h : Host)
    (key : ChannelKey)
    (receipt : ErrorReceipt) : Prop :=
  ∃ c,
    h.channels[key]? = some c ∧
      h.receipts[key]? = some receipt ∧
      a = ⟨key, c.peer, c.upgradeSequence, receipt⟩

namespace UpgradeAttributes

/- The fields are those of the upgrade that is stored. -/
def DescribesUpgrade
    (a : UpgradeAttributes)
    (h : Host)
    (key : ChannelKey) : Prop :=
  ∃ u, h.upgrades[key]? = some u ∧ a.Describes h key u.fields

/- The channel is open, and the fields are its own. -/
def DescribesOpened
    (a : UpgradeAttributes)
    (h : Host)
    (key : ChannelKey) : Prop :=
  a.state = .open ∧
    ∃ c, h.channels[key]? = some c ∧ a.Describes h key c.fields

/- The channel is open, and the fields are those of an upgrade
   that is no longer stored. -/
def DescribesDiscarded
    (a : UpgradeAttributes)
    (before h : Host)
    (key : ChannelKey) : Prop :=
  a.state = .open ∧
    h.upgrades[key]? = none ∧
    ∃ u,
      before.upgrades[key]? = some u ∧
        a.Describes h key u.fields

end UpgradeAttributes

namespace Host

/- What an event says of the answer to a message, and of the
   chain afterwards. -/
inductive Tells (h after : Host) :
    UpgradeMessage → UpgradeOutcome → Event → Prop
  | init
      {m : InitMessage}
      {a : UpgradeAttributes}
      (hTells : a.DescribesUpgrade after m.key) :
      Tells h after (.init m) .success (.upgradeInit a)
  | attempt
      {m : TryMessage}
      {a : UpgradeAttributes}
      (hTells : a.DescribesUpgrade after m.key) :
      Tells h after (.attempt m) .success (.upgradeTry a)
  | ack
      {m : AckMessage}
      {a : UpgradeAttributes}
      (hTells : a.DescribesUpgrade after m.key) :
      Tells h after (.ack m) .success (.upgradeAck a)
  | confirm
      {m : ConfirmMessage}
      {a : UpgradeAttributes}
      (hTells : a.DescribesUpgrade after m.key) :
      Tells h after (.confirm m) .success (.upgradeConfirm a)
  | confirmOpen
      {m : ConfirmMessage}
      {a : UpgradeAttributes}
      (hTells : a.DescribesOpened after m.key) :
      Tells h after (.confirm m) .success (.upgradeOpen a)
  | reopen
      {m : OpenMessage}
      {a : UpgradeAttributes}
      (hTells : a.DescribesOpened after m.key) :
      Tells h after (.reopen m) .success (.upgradeOpen a)
  | timeout
      {m : TimeoutMessage}
      {a : UpgradeAttributes}
      (hTells : a.DescribesDiscarded h after m.key) :
      Tells h after (.timeout m) .success (.upgradeTimeout a)
  | cancel
      {m : CancelMessage}
      {a : ReceiptAttributes}
      (hTells : a.Describes after m.key m.receipt) :
      Tells h after (.cancel m) .success (.upgradeCancel a)
  | givenUp
      {m : UpgradeMessage}
      {a : ReceiptAttributes}
      {receipt : ErrorReceipt}
      (hTells : a.Describes after m.key receipt) :
      Tells h after m (.aborted receipt) (.upgradeError a)

end Host

end Interchain

------------------------------------------------------------
-- Events of Plans That Go Forward
------------------------------------------------------------

namespace Interchain

namespace Host

variable {h : Host}

/- A step tells of the end and the upgrade that it stored. -/
theorem tells_stepPlan
    {tell : UpgradeAttributes → Event}
    {step : UpgradeStep}
    {p : Plan Event}
    (hPlan : stepPlan tell step h = .ok p) :
    ∃ a : UpgradeAttributes,
      p.outcome = tell a ∧
        a.DescribesUpgrade (h.applyAll p.writes) step.key := by
  simp only [stepPlan, bind_eq_ok, pure_eq_ok] at hPlan
  rcases hPlan with ⟨_, _, rfl⟩
  refine ⟨_, rfl, step.upgrade, ?_, step.channel, ?_, rfl⟩
  · simp [applyAll, apply]
  · simp [applyAll, apply]

/- Whether or not packets are in flight, the end that is told
   of is the one that is stored. -/
theorem tells_ackPlan
    {step : AckStep}
    {p : Plan Event}
    (hPlan : ackPlan step h = .ok p) :
    ∃ a : UpgradeAttributes,
      p.outcome = .upgradeAck a ∧
        a.DescribesUpgrade (h.applyAll p.writes) step.key := by
  simp only [ackPlan, bind_eq_ok, pure_eq_ok] at hPlan
  rcases hPlan with ⟨_, _, rfl⟩
  refine ⟨_, rfl, step.upgrade, ?_, _, ?_, rfl⟩
  · cases h.hasInFlight step.key <;> simp [applyAll, apply]
  · cases h.hasInFlight step.key <;> simp [applyAll, apply]

/- A confirmation stores the end only when it is done flushing;
   otherwise the event tells of the end that was checked. -/
theorem tells_confirmPlan
    {step : ConfirmStep}
    {p : Plan (Event × Bool)}
    (hChannel : h.channels[step.key]? = some step.channel)
    (hUpgrade : h.upgrades[step.key]? = some step.upgrade)
    (hPlan : confirmPlan step h = .ok p) :
    ∃ a : UpgradeAttributes,
      p.outcome.1 = .upgradeConfirm a ∧
        a.DescribesUpgrade (h.applyAll p.writes) step.key := by
  simp only [confirmPlan, bind_eq_ok, pure_eq_ok] at hPlan
  rcases hPlan with ⟨_, _, rfl⟩
  refine ⟨_, rfl, step.upgrade, ?_, _, ?_, rfl⟩
  · cases h.hasInFlight step.key <;>
      simpa [applyAll, apply] using hUpgrade
  · cases h.hasInFlight step.key <;>
      simp [applyAll, apply, hChannel]

/- The fields of the upgrade are those of the opened end. -/
theorem tells_openPlan
    {key : ChannelKey}
    {p : Plan Event}
    (hPlan : openPlan key h = .ok p) :
    ∃ a : UpgradeAttributes,
      p.outcome = .upgradeOpen a ∧
        a.DescribesOpened (h.applyAll p.writes) key := by
  simp only [openPlan, bind_eq_ok, pure_eq_ok] at hPlan
  rcases hPlan with ⟨c, _, u, _, rfl⟩
  refine ⟨_, rfl, rfl,
    { c.applyFields u.fields with state := .open }, ?_,
    { c.applyFields u.fields with state := .open }, ?_, rfl⟩
  · simp [applyAll, apply, dropProposals]
  · simp [applyAll, apply, dropProposals]

end Host

end Interchain

------------------------------------------------------------
-- Events of Plans That Go Back
------------------------------------------------------------

namespace Interchain

namespace Host

variable {h : Host}

/- Running out of time tells of the end that is restored, and
   of the upgrade that is gone. -/
theorem tells_timeoutPlan
    {step : TimeoutStep}
    {p : Plan Event}
    (hPlan : timeoutPlan step h = .ok p) :
    ∃ a : UpgradeAttributes,
      p.outcome = .upgradeTimeout a ∧
        a.DescribesDiscarded h (h.applyAll p.writes)
          step.key := by
  simp only [timeoutPlan, bind_eq_ok, required_eq_ok,
    channelEnd_eq_ok, upgrade_eq_ok, pure_eq_ok] at hPlan
  rcases hPlan with ⟨c, _, u, hUpgrade, _, hRestore, rfl⟩
  rcases restorePlan_eq_ok hRestore with ⟨c', _, rfl⟩
  refine ⟨_, rfl, rfl, ?_, u, hUpgrade, _, ?_, rfl⟩
  · simp [applyAll, apply, dropProposals]
  · simp [applyAll, apply, dropProposals]

/- Cancelling stores the receipt before the end is restored,
   which leaves the receipt alone. -/
theorem tells_cancelPlan
    {step : CancelStep}
    {p : Plan Event}
    (hPlan : cancelPlan step h = .ok p) :
    ∃ a : ReceiptAttributes,
      p.outcome = .upgradeCancel a ∧
        a.Describes (h.applyAll p.writes) step.key
          step.receipt := by
  simp only [cancelPlan, bind_eq_ok, pure_eq_ok] at hPlan
  rcases hPlan with ⟨c, _, _, _, _, hRestore, rfl⟩
  rcases restorePlan_eq_ok hRestore with ⟨c', _, rfl⟩
  refine ⟨_, rfl, _, ?_, ?_, rfl⟩
  · simp [applyAll, apply, dropProposals]
  · simp [applyAll, apply, dropProposals]

/- Giving up tells of the end that is restored, and of the
   receipt that is left. -/
theorem tells_abortPlan
    {key : ChannelKey}
    {reason : AbortReason}
    {p : Plan (EventReport ErrorReceipt)}
    (hPlan : abortPlan key reason h = .ok p) :
    ∃ a : ReceiptAttributes,
      p.outcome.events = [.upgradeError a] ∧
        a.Describes (h.applyAll p.writes) key
          p.outcome.result := by
  simp only [abortPlan, bind_eq_ok, pure_eq_ok] at hPlan
  rcases hPlan with ⟨_, _, c, _, _, hRestore, rfl⟩
  rcases restorePlan_eq_ok hRestore with ⟨c', _, rfl⟩
  refine ⟨_, rfl, _, ?_, ?_, rfl⟩
  · simp [applyAll, apply, dropProposals]
  · simp [applyAll, apply, dropProposals, Transcript.close]

end Host

end Interchain

------------------------------------------------------------
-- Answers
------------------------------------------------------------

namespace Interchain

namespace Host

variable {h : Host} {m : UpgradeMessage}

/- A step that is taken tells of itself last. -/
theorem Takes.tells
    {events : List Event}
    {after : Host}
    (hTakes : h.Takes m events after) :
    ∃ event,
      events.getLast? = some event ∧
        h.Tells after m .success event := by
  cases hTakes with
  | init hOk hPlan =>
      rcases tells_stepPlan hPlan with ⟨a, hOutcome, hTells⟩
      rw [key_of_processInit hOk] at hTells
      exact ⟨_, rfl, hOutcome ▸ .init hTells⟩
  | attempt hStaged hOk hPlan =>
      rcases tells_stepPlan hPlan with ⟨a, hOutcome, hTells⟩
      rw [key_of_processTry hOk] at hTells
      exact ⟨_, rfl, hOutcome ▸ .attempt hTells⟩
  | ack hOk hPlan =>
      rcases tells_ackPlan hPlan with ⟨a, hOutcome, hTells⟩
      rw [key_of_processAck hOk] at hTells
      exact ⟨_, rfl, hOutcome ▸ .ack hTells⟩
  | confirm hOk hPlan =>
      rcases processConfirm_eq_ok hOk with
        ⟨c, u, hChannel, _, _, hUpgrade, _, hResult⟩
      rw [hResult] at hPlan
      rcases tells_confirmPlan hChannel hUpgrade hPlan with
        ⟨a, hOutcome, hTells⟩
      exact ⟨_, rfl, hOutcome ▸ .confirm hTells⟩
  | confirmOpen hOk hPlan hOpen =>
      rcases tells_openPlan hOpen with ⟨a, hOutcome, hTells⟩
      exact ⟨_, rfl, hOutcome ▸ .confirmOpen hTells⟩
  | reopen hOk hPlan =>
      rcases tells_openPlan hPlan with ⟨a, hOutcome, hTells⟩
      exact ⟨_, rfl, hOutcome ▸ .reopen hTells⟩
  | cancel hOk hPlan =>
      rw [result_processCancel hOk] at hPlan
      rcases tells_cancelPlan hPlan with ⟨a, hOutcome, hTells⟩
      exact ⟨_, rfl, hOutcome ▸ .cancel hTells⟩
  | timeout hOk hPlan =>
      rcases tells_timeoutPlan hPlan with ⟨a, hOutcome, hTells⟩
      rw [key_of_processTimeout hOk] at hTells
      exact ⟨_, rfl, hOutcome ▸ .timeout hTells⟩

/-
  Whenever a message is answered, whether its step is taken or
  its attempt is given up, the last event says what is stored
  afterwards.
-/
theorem last_event_tells_stored
    {report : EventReport UpgradeOutcome}
    (hOk : (h.dispatch m).1 = .ok report) :
    ∃ event,
      report.events.getLast? = some event ∧
        h.Tells (h.dispatch m).2 m report.result event := by
  have hAnswers := h.answers_dispatch m
  rcases hDispatch : h.dispatch m with ⟨result, after⟩
  rw [hDispatch] at hAnswers hOk
  cases hAnswers with
  | rejected cause => simp at hOk
  | taken log hTakes =>
      rw [← Except.ok.inj hOk]
      exact hTakes.tells
  | givenUp hEnds hPlan =>
      rw [← Except.ok.inj hOk]
      rcases tells_abortPlan hPlan with ⟨a, hEvents, hTells⟩
      refine ⟨.upgradeError a, ?_, .givenUp hTells⟩
      simp [hEvents]

end Host

end Interchain

------------------------------------------------------------
-- Sample Chains
------------------------------------------------------------

namespace Interchain

namespace Fixture

/- A proposes to B, which is at its third attempt. -/
abbrev staleProposal (hash : Hash) : Chains :=
  mirror.proposing .left (staggered hash ⟨3⟩) signer proposal
    none

/- B is told of A. -/
abbrev toldStale (hash : Hash) : Host :=
  mirror.informed hash .right (staleProposal hash)

/- The answer of B to the proposal of A. -/
def staleAnswer (hash : Hash) : TryMessage :=
  mirror.answering hash .right (staleProposal hash) signer
    proposal none

/- B answers a proposal that lies behind, and gives up. -/
theorem isStaleAnswer_staleAnswer (hash : Hash) :
    IsStaleAnswer
      ((toldStale hash).dispatch (.attempt (staleAnswer hash))).1
      ⟨4⟩ ⟨1⟩ := by
  have hStale :=
    ((awaits_staggered hash ⟨3⟩).gives_way (by decide)
      (rfl : validateOptionalTimeout none = .ok ()) signer
      signer).1
  rw [show answerAttempt none ⟨3⟩ = ⟨4⟩ by decide,
    show Sequence.zero.next = ⟨1⟩ by decide] at hStale
  exact hStale

/- B stores a proposal of its own and gives it up.  Of the two
   events, the last one is about the receipt that is left. -/
theorem sample_last_event_tells_stored :
    ∃ report a,
      ((toldStale id).dispatch (.attempt (staleAnswer id))).1 =
          .ok report ∧
        report.events.getLast? = some (.upgradeError a) ∧
        a.receipt = (staleError ⟨4⟩ ⟨1⟩).receipt ∧
        a.Describes
          ((toldStale id).dispatch
            (.attempt (staleAnswer id))).2
          (key .right) a.receipt := by
  rcases isStaleAnswer_staleAnswer id with
    ⟨report, hOk, hResult⟩
  rcases Host.last_event_tells_stored hOk with
    ⟨event, hLast, hTells⟩
  rw [hResult] at hTells
  cases hTells with
  | @givenUp _ a _ hTells =>
      have hReceipt :
          a.receipt = (staleError ⟨4⟩ ⟨1⟩).receipt := by
        rcases hTells with ⟨_, _, _, rfl⟩
        rfl
      exact ⟨report, a, hOk, hLast, hReceipt,
        hReceipt ▸ hTells⟩

end Fixture

end Interchain
