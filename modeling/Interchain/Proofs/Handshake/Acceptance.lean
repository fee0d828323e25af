import Interchain.Proofs.Handshake.Checks
import Interchain.Proofs.Handshake.Plans

/-
  Messages that are taken, and messages that are rejected.

  A step that passes its checks, and whose plan can be made,
  succeeds and leaves the chain as the plan says.  A step that
  fails a check leaves the chain as it was.

  Main declarations:
    * `Succeeds`

  Main statements:
    * `Host.dispatch_of_conclude`
    * `Host.dispatch_confirm_opens`
    * `Host.dispatch_reopen_succeeds`
    * `Host.dispatch_reopen_rejects`
    * `Host.dispatch_cancel_succeeds`
-/

------------------------------------------------------------
-- Steps That Succeed
------------------------------------------------------------

namespace Interchain

/- A message was answered by taking its step. -/
def Succeeds
    (result : Except DispatchError (EventReport UpgradeOutcome)) :
    Prop :=
  ∃ report, result = .ok report ∧ report.result = .success

namespace Session

variable {s : Session}

/- A step whose plan can be made succeeds. -/
theorem conclude_succeeds
    {α : Type}
    (report : EventReport α)
    (plan : Host → Except FatalError (Plan Event))
    {p : Plan Event}
    (hRefused : s.refused = none)
    (hPlan : plan s.host = .ok p) :
    Succeeds (s.conclude report plan).1 ∧
      (s.conclude report plan).2.host =
        s.host.applyAll p.writes := by
  rcases carryOut_of_ok id hRefused hPlan with
    ⟨next, hCarried, hHost, _⟩
  rw [conclude, hCarried]
  exact ⟨⟨_, rfl, rfl⟩, hHost⟩

/- A step that was checked goes on to its plan. -/
theorem take_of_ok
    {α : Type}
    {checked : Except ChannelError (EventReport α)}
    {report : EventReport α}
    (hChecked : checked = .ok report)
    (plan : α → Host → Except FatalError (Plan Event)) :
    s.take checked plan =
      s.conclude report (plan report.result) := by
  rw [hChecked]
  rfl

end Session

namespace Host

variable {h : Host} {m : UpgradeMessage}

/- A message that is valid in itself is handled by its step. -/
theorem dispatch_of_valid
    (hValid : m.validate = .ok ()) :
    h.dispatch m =
      (((Session.start h).dispatchValid m).1,
        ((Session.start h).dispatchValid m).2.host) := by
  rw [dispatch, Session.dispatch, hValid]

/- An invalid message leaves all as it was. -/
theorem dispatch_of_invalid
    {e : ChannelError}
    (hInvalid : m.validate = .error e) :
    h.dispatch m = (.error (.rejected e), h) := by
  rw [dispatch, Session.dispatch, hInvalid]
  rfl

/- A message whose step is concluded by a plan leaves the chain
   that the plan leads to. -/
theorem host_dispatch_of_conclude
    {α : Type}
    {report : EventReport α}
    {plan : Host → Except FatalError (Plan Event)}
    {p : Plan Event}
    (hValid : m.validate = .ok ())
    (hStep :
      (Session.start h).dispatchValid m =
        (Session.start h).conclude report plan)
    (hPlan : plan h = .ok p) :
    Succeeds (h.dispatch m).1 ∧
      (h.dispatch m).2 = h.applyAll p.writes := by
  have hDone :=
    Session.conclude_succeeds (s := .start h) report plan rfl
      hPlan
  rw [dispatch_of_valid hValid, hStep]
  exact hDone

/- A step is done once its plan is made. -/
theorem dispatch_of_conclude
    {α : Type}
    {report : EventReport α}
    {plan : Host → Except FatalError (Plan Event)}
    {p : Plan Event}
    {r : Records}
    (hValid : m.validate = .ok ())
    (hStep :
      (Session.start h).dispatchValid m =
        (Session.start h).conclude report plan)
    (hPlan : plan h = .ok p)
    (hRecords : (h.applyAll p.writes).records m.key = r) :
    Succeeds (h.dispatch m).1 ∧
      (h.dispatch m).2.records m.key = r := by
  have hDone := host_dispatch_of_conclude hValid hStep hPlan
  rw [hDone.2]
  exact ⟨hDone.1, hRecords⟩

end Host

end Interchain

------------------------------------------------------------
-- Proposing and Answering
------------------------------------------------------------

namespace Interchain

namespace Host

variable {h : Host}

/- A plan can be made for an end that is stored. -/
theorem exists_stepPlan
    (tell : UpgradeAttributes → Event)
    (step : UpgradeStep)
    {c : ChannelEnd}
    (hChannel : h.channels[step.key]? = some c) :
    ∃ p, stepPlan tell step h = .ok p := by
  simp [stepPlan, hChannel]

/- A proposal that may be made is stored. -/
theorem dispatch_init_succeeds
    {m : InitMessage}
    {c : ChannelEnd}
    {step : UpgradeStep}
    (hValid : m.validate = .ok ())
    (hChannel : h.channels[m.key]? = some c)
    (hPropose :
      h.propose m.key c m.fields m.timeout = .ok step) :
    Succeeds (h.dispatch (.init m)).1 ∧
      (h.dispatch (.init m)).2.records m.key =
        { h.records m.key with
          channel :=
            { c with upgradeSequence := c.upgradeSequence.next }
          upgrade? := some ⟨m.fields, m.timeout, .zero⟩ } := by
  rcases propose_eq_ok hPropose with ⟨_, _, _, rfl⟩
  have hOk :
      ∃ report, h.processInit m = .ok report ∧
        report.result =
          ⟨m.key,
            { c with
              upgradeSequence := c.upgradeSequence.next },
            ⟨m.fields, m.timeout, .zero⟩⟩ := by
    simp [processInit, hChannel, hPropose]
  rcases hOk with ⟨report, hChecked, hResult⟩
  rcases
      exists_stepPlan .upgradeInit report.result
        (by rw [hResult]; exact hChannel) with
    ⟨p, hPlan⟩
  have hRecords := (records_stepPlan hPlan).2
  rw [hResult] at hRecords
  exact dispatch_of_conclude (m := .init m) hValid
    (Session.take_of_ok hChecked proposalPlan) hPlan hRecords

/- An answer that is staged, and that passes the checks, is
   stored with the end flushing. -/
theorem dispatch_attempt_succeeds
    {m : TryMessage}
    {c flushing : ChannelEnd}
    {step : UpgradeStep}
    {u : Upgrade}
    (hValid : m.validate = .ok ())
    (hNone : h.upgrades[m.key]? = none)
    (hChannel : h.channels[m.key]? = some c)
    (hPropose :
      h.propose m.key (c.caughtUp m.counterpartySequence)
        m.fields none = .ok step)
    (hVerified :
      h.verifyProposal m step.channel step.upgrade = .ok ())
    (hSequence :
      step.channel.upgradeSequence ≤ m.counterpartySequence)
    (hFlush :
      h.startFlushing m.key step.channel step.upgrade =
        .ok (flushing, u)) :
    Succeeds (h.dispatch (.attempt m)).1 ∧
      (h.dispatch (.attempt m)).2.records m.key =
        { h.records m.key with
          channel := flushing
          upgrade? := some u } := by
  have hStaged : h.stageAnswer m = .ok (some step) := by
    simp [stageAnswer, hNone, hChannel, hPropose]
  have hOk :
      ∃ report, h.processTry m (some step) = .ok report ∧
        report.result = ⟨m.key, flushing, u⟩ := by
    simp [processTry, answered, hVerified, checkAnswered,
      hSequence, hFlush]
  rcases hOk with ⟨report, hChecked, hResult⟩
  rcases
      exists_stepPlan .upgradeTry report.result
        (by rw [hResult]; exact hChannel) with
    ⟨p, hPlan⟩
  have hRecords := (records_stepPlan hPlan).2
  rw [hResult] at hRecords
  have hStep :
      (Session.start h).dispatchTry m =
        (Session.start h).conclude report
          (answerPlan report.result) := by
    simp only [Session.dispatchTry, Session.start, hStaged,
      hChecked]
  exact dispatch_of_conclude (m := .attempt m) hValid hStep
    hPlan hRecords

/- An acknowledgement that passes its checks makes an open end
   flush, with the version of the answer. -/
theorem processAck_settles
    {m : AckMessage}
    {c flushing : ChannelEnd}
    {stored u : Upgrade}
    (hChannel : h.channels[m.key]? = some c)
    (hState : c.state = .open)
    (hVerified :
      h.verifyCounterparty m.key c .flushing
        m.counterpartySequence m.counterpartyUpgrade
        m.channelProof m.upgradeProof m.proofHeight = .ok ())
    (hUpgrade : h.upgrades[m.key]? = some stored)
    (hSequence : c.upgradeSequence = m.counterpartySequence)
    (hCompatible :
      h.checkCompatible
        (stored.settled c
          m.counterpartyUpgrade.fields.version).fields
        m.counterpartyUpgrade.fields = .ok ())
    (hFlush :
      h.startFlushing m.key c
        (stored.settled c
          m.counterpartyUpgrade.fields.version) =
        .ok (flushing, u))
    (hTimeout :
      h.checkCounterpartyTimeout c.upgradeSequence
        m.counterpartyUpgrade = .ok ()) :
    ∃ report, h.processAck m = .ok report ∧
      report.result =
        ⟨⟨m.key, flushing, u⟩, m.counterpartyUpgrade⟩ := by
  rw [hSequence] at hTimeout
  simp [processAck, acknowledgeable, hChannel, hState,
    hVerified, hUpgrade, checkSequence, hSequence,
    hCompatible, incompatibleEnds, flushIfOpen, hFlush,
    hTimeout]

/- The proposal stays as it is if it names that version. -/
theorem processAck_ok
    {m : AckMessage}
    {c flushing : ChannelEnd}
    {stored u : Upgrade}
    (hChannel : h.channels[m.key]? = some c)
    (hState : c.state = .open)
    (hVerified :
      h.verifyCounterparty m.key c .flushing
        m.counterpartySequence m.counterpartyUpgrade
        m.channelProof m.upgradeProof m.proofHeight = .ok ())
    (hUpgrade : h.upgrades[m.key]? = some stored)
    (hSequence : c.upgradeSequence = m.counterpartySequence)
    (hVersion :
      stored.fields.version =
        m.counterpartyUpgrade.fields.version)
    (hCompatible :
      h.checkCompatible stored.fields
        m.counterpartyUpgrade.fields = .ok ())
    (hFlush :
      h.startFlushing m.key c stored = .ok (flushing, u))
    (hTimeout :
      h.checkCounterpartyTimeout c.upgradeSequence
        m.counterpartyUpgrade = .ok ()) :
    ∃ report, h.processAck m = .ok report ∧
      report.result =
        ⟨⟨m.key, flushing, u⟩, m.counterpartyUpgrade⟩ := by
  have hSettled :
      stored.settled c m.counterpartyUpgrade.fields.version =
        stored := by
    rw [Upgrade.settled, if_pos hState, ← hVersion]
  rw [← hSettled] at hCompatible hFlush
  exact processAck_settles hChannel hState hVerified hUpgrade
    hSequence hCompatible hFlush hTimeout

theorem exists_ackPlan
    {c : ChannelEnd}
    (step : AckStep)
    (hChannel : h.channels[step.key]? = some c) :
    ∃ p, ackPlan step h = .ok p := by
  simp [ackPlan, hChannel]

/- An acknowledgement that passes its checks is taken, and the
   end is done flushing if nothing is in flight. -/
theorem dispatch_ack_of_ok
    {m : AckMessage}
    {report : EventReport AckStep}
    {flushing : ChannelEnd}
    {u v : Upgrade}
    (hValid : m.validate = .ok ())
    (hOk : h.processAck m = .ok report)
    (hResult : report.result = ⟨⟨m.key, flushing, u⟩, v⟩) :
    Succeeds (h.dispatch (.ack m)).1 ∧
      ((h.records m.key).inFlight ≠ ∅ ∧
          (h.dispatch (.ack m)).2.records m.key =
            { h.records m.key with
              channel := flushing
              upgrade? := some u
              counterparty? := some v } ∨
        (h.records m.key).inFlight = ∅ ∧
          (h.dispatch (.ack m)).2.records m.key =
            { h.records m.key with
              channel := { flushing with state := .flushComplete }
              upgrade? := some u }) := by
  rcases processAck_eq_ok hOk with
    ⟨c, _, _, _, hChannel, _, _, _, _, _, _, hResult'⟩
  have hFound : h.channels[report.result.key]? = some c := by
    rw [hResult']
    exact hChannel
  rcases exists_ackPlan report.result hFound with ⟨p, hPlan⟩
  have hStep :
      (Session.start h).dispatchAck m =
        (Session.start h).conclude report
          (ackPlan report.result) := by
    simp only [Session.dispatchAck, Session.start, hOk]
  have hRecords := (records_ackPlan hPlan).2
  rw [hResult] at hRecords
  have hDone :
      Succeeds (h.dispatch (.ack m)).1 ∧
        (h.dispatch (.ack m)).2.records m.key =
          (h.applyAll p.writes).records m.key :=
    dispatch_of_conclude (m := .ack m) hValid hStep hPlan rfl
  rw [hDone.2]
  exact ⟨hDone.1, hRecords⟩

end Host

end Interchain

------------------------------------------------------------
-- Opening
------------------------------------------------------------

namespace Interchain

namespace Host

variable {h : Host}

/- For opening, the upgrade must be stored, too. -/
theorem exists_openPlan
    {key : ChannelKey}
    {c : ChannelEnd}
    {u : Upgrade}
    (hChannel : h.channels[key]? = some c)
    (hUpgrade : h.upgrades[key]? = some u) :
    ∃ p, openPlan key h = .ok p := by
  simp [openPlan, hChannel, hUpgrade]

/- An end that may open does, with the fields of its
   upgrade. -/
theorem dispatch_reopen_succeeds
    {m : OpenMessage}
    {report : EventReport Unit}
    (hValid : m.validate = .ok ())
    (hOk : h.processOpen m = .ok report) :
    Succeeds (h.dispatch (.reopen m)).1 ∧
      ∃ u,
        (h.records m.key).upgrade? = some u ∧
          ((h.dispatch (.reopen m)).2.records m.key) =
            (h.records m.key).opened u := by
  rcases processOpen_eq_ok_iff.mp ⟨report, hOk⟩ with
    ⟨c, u, _, _, _, hChannel, _, hUpgrade, _⟩
  rcases exists_openPlan hChannel hUpgrade with ⟨p, hPlan⟩
  rcases records_openPlan hPlan with ⟨_, u', hHeld, hRecords⟩
  have hDone :=
    dispatch_of_conclude (m := .reopen m) hValid
      (Session.take_of_ok hOk fun _ => openPlan m.key) hPlan
      hRecords
  exact ⟨hDone.1, u', hHeld, hDone.2⟩

end Host

end Interchain

------------------------------------------------------------
-- Confirming
------------------------------------------------------------

namespace Interchain

namespace Session

variable {s : Session}

/- Opening right after the confirmation. -/
theorem openConfirmed_succeeds
    {key : ChannelKey}
    {c : ChannelEnd}
    {u : Upgrade}
    (report : EventReport ConfirmStep)
    (event : Event)
    (hRefused : s.refused = none)
    (hChannel : s.host.channels[key]? = some c)
    (hUpgrade : s.host.upgrades[key]? = some u) :
    Succeeds (s.openConfirmed key report event).1 ∧
      (s.openConfirmed key report event).2.host.records key =
        (s.host.records key).opened u := by
  rcases Host.exists_openPlan hChannel hUpgrade with ⟨p, hPlan⟩
  rcases Host.records_openPlan hPlan with
    ⟨_, held, hHeld, hRecords⟩
  have hSame : u = held :=
    Option.some.inj (hUpgrade.symm.trans hHeld)
  subst hSame
  rcases carryOut_of_ok id hRefused hPlan with
    ⟨next, hCarried, hHost, _⟩
  rw [openConfirmed, hCarried]
  refine ⟨⟨_, rfl, rfl⟩, ?_⟩
  rw [← hRecords, ← hHost]

end Session

namespace Host

variable {h : Host} {m : ConfirmMessage}
variable {c : ChannelEnd} {u : Upgrade}

/- What an end that flushes checks before it is confirmed. -/
structure Confirms
    (h : Host)
    (m : ConfirmMessage)
    (c : ChannelEnd)
    (u : Upgrade) : Prop where
  valid : m.validate = .ok ()
  channel : h.channels[m.key]? = some c
  state : c.state = .flushing
  verified :
    h.verifyCounterparty m.key c m.counterpartyState
      m.counterpartySequence m.counterpartyUpgrade
      m.channelProof m.upgradeProof m.proofHeight = .ok ()
  upgrade : h.upgrades[m.key]? = some u
  sequence : c.upgradeSequence = m.counterpartySequence
  ahead :
    m.counterpartyUpgrade.hasRunOut h.height h.timestamp = false

/- A counterparty that is confirmed flushes or is done. -/
theorem Confirms.isUpgrading
    (hConfirms : h.Confirms m c u) :
    m.counterpartyState.isUpgrading = true := by
  have hValid := hConfirms.valid
  simp [ConfirmMessage.validate] at hValid
  exact hValid.1

/- A confirmation that is due goes through its checks. -/
theorem Confirms.processConfirm
    (hConfirms : h.Confirms m c u) :
    ∃ report, h.processConfirm m = .ok report ∧
      report.result =
        ⟨⟨⟨m.key, c, u⟩, m.counterpartyUpgrade⟩,
          m.counterpartyState⟩ := by
  have hTimeout :
      h.checkCounterpartyTimeout m.counterpartySequence
        m.counterpartyUpgrade = .ok () :=
    checkCounterpartyTimeout_eq_ok_iff.mpr hConfirms.ahead
  simp [Host.processConfirm, confirmable, hConfirms.channel,
    hConfirms.state, hConfirms.isUpgrading, hConfirms.verified,
    hConfirms.upgrade, checkSequence, hConfirms.sequence,
    hTimeout]

theorem exists_plan_of_confirm
    (step : ConfirmStep)
    (hChannel : h.channels[step.key]? = some c) :
    ∃ p, confirmPlan step h = .ok p := by
  simp [confirmPlan, hChannel]

/- With nothing in flight, and the counterparty done flushing,
   an end is done flushing and ready to open. -/
theorem exists_confirmPlan
    {key : ChannelKey}
    {v : Upgrade}
    (hChannel : h.channels[key]? = some c)
    (hState : c.state = .flushing)
    (hEmpty : (h.records key).inFlight = ∅) :
    ∃ p,
      confirmPlan ⟨⟨⟨key, c, u⟩, v⟩, .flushComplete⟩ h =
          .ok p ∧
        p.outcome.2 = true ∧
        (h.applyAll p.writes).records key =
          { h.records key with
            channel := { c with state := .flushComplete } } := by
  rcases
      exists_plan_of_confirm
        ⟨⟨⟨key, c, u⟩, v⟩, .flushComplete⟩ hChannel with
    ⟨p, hPlan⟩
  rcases (records_confirmPlan hPlan (by simp [hState])).2 with
    ⟨hSent, _⟩ | ⟨_, hBoth, hRecords⟩
  · exact (hSent hEmpty).elim
  · exact ⟨p, hPlan, hBoth, hRecords⟩

/- An end that flushes, with nothing in flight, opens when the
   counterparty is done flushing. -/
theorem dispatch_confirm_opens
    (hConfirms : h.Confirms m c u)
    (hPeerState : m.counterpartyState = .flushComplete)
    (hEmpty : (h.records m.key).inFlight = ∅) :
    Succeeds (h.dispatch (.confirm m)).1 ∧
      (h.dispatch (.confirm m)).2.records m.key =
        (h.records m.key).opened u := by
  rcases hConfirms.processConfirm with
    ⟨report, hChecked, hResult⟩
  rw [hPeerState] at hResult
  rcases
      exists_confirmPlan hConfirms.channel hConfirms.state hEmpty
    with
    ⟨p, hPlan, hBoth, hRecords⟩
  rw [← hResult] at hPlan
  rcases Session.carryOut_of_ok id (s := .start h) rfl hPlan with
    ⟨next, hCarried, hHost, hFree⟩
  have hDispatch :
      (Session.start h).dispatchConfirm m =
        next.openConfirmed m.key report p.outcome.1 := by
    have hOutcome : p.outcome = (p.outcome.1, true) :=
      Prod.ext rfl hBoth
    rw [hOutcome] at hCarried
    simp only [Session.dispatchConfirm, Session.start] at *
    simp only [hChecked, hCarried]
  have hNext :
      next.host.records m.key =
        { h.records m.key with
          channel := { c with state := .flushComplete } } := by
    rw [hHost]
    exact hRecords
  have hNextChannel :
      next.host.channels[m.key]? =
        some { c with state := .flushComplete } := by
    rw [channels_eq_of_state_ne (by rw [hNext]; simp), hNext]
  have hNextUpgrade : next.host.upgrades[m.key]? = some u := by
    have hSame := congrArg Records.upgrade? hNext
    exact hSame.trans hConfirms.upgrade
  have hOpened :=
    Session.openConfirmed_succeeds report p.outcome.1 hFree
      hNextChannel hNextUpgrade
  rw [dispatch_of_valid (m := .confirm m) hConfirms.valid,
    Session.dispatchValid, hDispatch]
  refine ⟨hOpened.1, hOpened.2.trans ?_⟩
  rw [hNext, Records.opened, Records.opened,
    records_channel hConfirms.channel]
  rfl

end Host

end Interchain

------------------------------------------------------------
-- Cancelling
------------------------------------------------------------

namespace Interchain

namespace Host

variable {h : Host}

/- What may be cancelled can be. -/
theorem exists_cancelPlan
    {m : CancelMessage}
    {report : EventReport CancelStep}
    (hOk : h.processCancel m = .ok report) :
    ∃ p, cancelPlan report.result h = .ok p := by
  rcases processCancel_eq_ok_iff.mp ⟨report, hOk⟩ with
    ⟨c, u, hChannel, hUpgrade, _⟩
  rw [result_processCancel hOk]
  simp [cancelPlan, restorePlan, hChannel, hUpgrade]

/- An attempt that may be cancelled is, and the receipt is
   kept. -/
theorem dispatch_cancel_succeeds
    {m : CancelMessage}
    {report : EventReport CancelStep}
    (hOk : h.processCancel m = .ok report) :
    Succeeds (h.dispatch (.cancel m)).1 ∧
      ((h.dispatch (.cancel m)).2.records m.key) =
        (h.records m.key).restored m.receipt.sequence
          m.receipt := by
  rcases processCancel_eq_ok_iff.mp ⟨report, hOk⟩ with
    ⟨c, u, hChannel, hUpgrade, hSequence, _⟩
  have hResult := result_processCancel hOk
  rcases exists_cancelPlan hOk with ⟨p, hPlan⟩
  have hRecords := (records_cancelPlan hPlan).2
  rw [← records_channel hChannel] at hSequence
  rw [hResult, max_eq_right hSequence] at hRecords
  exact dispatch_of_conclude (m := .cancel m) rfl
    (Session.take_of_ok hOk cancelPlan) hPlan hRecords

end Host

end Interchain
