import Interchain.Proofs.Handshake.Acceptance
import Interchain.Proofs.Handshake.Refusal

/-
  How a message is answered.

  A message is rejected, its step is taken, or its attempt is
  given up.  Each way names the checks that passed and the
  plans that were carried out, so what holds of every answer is
  proved way by way, without opening how messages are handled.

  Main declarations:
    * `Host.Takes`
    * `Host.Ends`
    * `Host.Answers`

  Main statements:
    * `Host.answers_dispatch`
-/

------------------------------------------------------------
-- Ways to Answer
------------------------------------------------------------

namespace Interchain

namespace Host

/- The ways to take the step of a message, with the events
   that tell of it and the chain that it leads to. -/
inductive Takes (h : Host) :
    UpgradeMessage → List Event → Host → Prop
  | init
      {m : InitMessage}
      {report : EventReport UpgradeStep}
      {p : Plan Event}
      (hOk : h.processInit m = .ok report)
      (hPlan : proposalPlan report.result h = .ok p) :
      Takes h (.init m) [p.outcome] (h.applyAll p.writes)
  | attempt
      {m : TryMessage}
      {staged : Option UpgradeStep}
      {report : EventReport UpgradeStep}
      {p : Plan Event}
      (hStaged : h.stageAnswer m = .ok staged)
      (hOk : h.processTry m staged = .ok report)
      (hPlan : answerPlan report.result h = .ok p) :
      Takes h (.attempt m) [p.outcome] (h.applyAll p.writes)
  | ack
      {m : AckMessage}
      {report : EventReport AckStep}
      {p : Plan Event}
      (hOk : h.processAck m = .ok report)
      (hPlan : ackPlan report.result h = .ok p) :
      Takes h (.ack m) [p.outcome] (h.applyAll p.writes)
  | confirm
      {m : ConfirmMessage}
      {report : EventReport ConfirmStep}
      {p : Plan (Event × Bool)}
      (hOk : h.processConfirm m = .ok report)
      (hPlan : confirmPlan report.result h = .ok p) :
      Takes h (.confirm m) [p.outcome.1] (h.applyAll p.writes)
  | confirmOpen
      {m : ConfirmMessage}
      {report : EventReport ConfirmStep}
      {p : Plan (Event × Bool)}
      {q : Plan Event}
      (hOk : h.processConfirm m = .ok report)
      (hPlan : confirmPlan report.result h = .ok p)
      (hOpen : openPlan m.key (h.applyAll p.writes) = .ok q) :
      Takes h (.confirm m) [p.outcome.1, q.outcome]
        ((h.applyAll p.writes).applyAll q.writes)
  | reopen
      {m : OpenMessage}
      {report : EventReport Unit}
      {p : Plan Event}
      (hOk : h.processOpen m = .ok report)
      (hPlan : openPlan m.key h = .ok p) :
      Takes h (.reopen m) [p.outcome] (h.applyAll p.writes)
  | cancel
      {m : CancelMessage}
      {report : EventReport CancelStep}
      {p : Plan Event}
      (hOk : h.processCancel m = .ok report)
      (hPlan : cancelPlan report.result h = .ok p) :
      Takes h (.cancel m) [p.outcome] (h.applyAll p.writes)
  | timeout
      {m : TimeoutMessage}
      {report : EventReport TimeoutStep}
      {p : Plan Event}
      (hOk : h.processTimeout m = .ok report)
      (hPlan : timeoutPlan report.result h = .ok p) :
      Takes h (.timeout m) [p.outcome] (h.applyAll p.writes)

/- The ways in which a step fails for the attempt, with the
   events so far and the chain that gives the attempt up. -/
inductive Ends (h : Host) :
    UpgradeMessage → UpgradeError → List Event → Host → Prop
  | attempt
      {m : TryMessage}
      {error : UpgradeError}
      (hStaged : h.stageAnswer m = .ok none)
      (hEnded : h.processTry m none = .error (.ended error)) :
      Ends h (.attempt m) error [] h
  | staged
      {m : TryMessage}
      {error : UpgradeError}
      {step : UpgradeStep}
      {p : Plan Event}
      (hStaged : h.stageAnswer m = .ok (some step))
      (hEnded :
        h.processTry m (some step) = .error (.ended error))
      (hPlan : proposalPlan step h = .ok p) :
      Ends h (.attempt m) error [p.outcome]
        (h.applyAll p.writes)
  | ack
      {m : AckMessage}
      {error : UpgradeError}
      (hEnded : h.processAck m = .error (.ended error)) :
      Ends h (.ack m) error [] h
  | confirm
      {m : ConfirmMessage}
      {error : UpgradeError}
      (hEnded : h.processConfirm m = .error (.ended error)) :
      Ends h (.confirm m) error [] h

/- The ways to answer a message, and the chain afterwards. -/
inductive Answers (h : Host) (m : UpgradeMessage) :
    Except DispatchError (EventReport UpgradeOutcome) →
      Host → Prop
  | rejected
      (cause : ChannelError) :
      Answers h m (.error (.rejected cause)) h
  | taken
      {events : List Event}
      {after : Host}
      (log : List String)
      (hTakes : h.Takes m events after) :
      Answers h m (.ok ⟨.success, log, events⟩) after
  | givenUp
      {error : UpgradeError}
      {events : List Event}
      {before : Host}
      {p : Plan (EventReport ErrorReceipt)}
      (hEnds : h.Ends m error events before)
      (hPlan :
        abortPlan m.key (.step error) before = .ok p) :
      Answers h m
        (.ok ⟨.aborted p.outcome.result, p.outcome.log,
          events ++ p.outcome.events⟩)
        (before.applyAll p.writes)

end Host

end Interchain

------------------------------------------------------------
-- Reports of the Checks
------------------------------------------------------------

namespace Interchain

@[simp] theorem events_noting
    {α : Type}
    (a : α)
    (line : String) :
    (Report.noting a line : EventReport α).events = [] := rfl

namespace Host

variable {h : Host}

/- Checks emit no events; only writes do. -/
theorem events_processInit
    {m : InitMessage}
    {report : EventReport UpgradeStep}
    (hOk : h.processInit m = .ok report) :
    report.events = [] := by
  simp [processInit] at hOk
  rcases hOk with ⟨_, _, _, _, rfl⟩
  rfl

/- Nothing is told of a proposal while it is checked. -/
theorem events_processTry
    {m : TryMessage}
    {staged : Option UpgradeStep}
    {report : EventReport UpgradeStep}
    (hOk : h.processTry m staged = .ok report) :
    report.events = [] := by
  simp [processTry] at hOk
  rcases hOk with ⟨_, _, _, _, _, _, _, _, rfl⟩
  rfl

theorem events_processAck
    {m : AckMessage}
    {report : EventReport AckStep}
    (hOk : h.processAck m = .ok report) :
    report.events = [] := by
  simp [processAck] at hOk
  rcases hOk with ⟨_, _, _, _, _, _, _, _, _, _, _, rfl⟩
  rfl

theorem events_processConfirm
    {m : ConfirmMessage}
    {report : EventReport ConfirmStep}
    (hOk : h.processConfirm m = .ok report) :
    report.events = [] := by
  simp [processConfirm] at hOk
  rcases hOk with ⟨_, _, _, _, _, _, _, rfl⟩
  rfl

theorem events_processOpen
    {m : OpenMessage}
    {report : EventReport Unit}
    (hOk : h.processOpen m = .ok report) :
    report.events = [] := by
  simp [processOpen] at hOk
  rcases hOk with ⟨_, _, _, _, _, _, _, _, _, _, rfl⟩
  rfl

theorem events_processCancel
    {m : CancelMessage}
    {report : EventReport CancelStep}
    (hOk : h.processCancel m = .ok report) :
    report.events = [] := by
  simp [processCancel] at hOk
  rcases hOk with ⟨_, _, ⟨_, rfl⟩ | ⟨_, _, rfl⟩⟩ <;> rfl

theorem events_processTimeout
    {m : TimeoutMessage}
    {report : EventReport TimeoutStep}
    (hOk : h.processTimeout m = .ok report) :
    report.events = [] := by
  simp [processTimeout] at hOk
  rcases hOk with ⟨_, _, _, _, _, _, _, _, _, _, _, rfl⟩
  rfl

end Host

end Interchain

------------------------------------------------------------
-- Plans That Can Be Made
------------------------------------------------------------

namespace Interchain

namespace Host

variable {h : Host} {c : ChannelEnd} {u : Upgrade}

/- A proposal that may be given up can be. -/
theorem exists_timeoutPlan
    {m : TimeoutMessage}
    {report : EventReport TimeoutStep}
    (hOk : h.processTimeout m = .ok report) :
    ∃ p, timeoutPlan report.result h = .ok p := by
  rcases processTimeout_eq_ok hOk with
    ⟨c, u, hChannel, _, hUpgrade, hKey⟩
  simp [timeoutPlan, restorePlan, hKey, hChannel, hUpgrade]

/- An end with an upgrade can give it up. -/
theorem exists_abortPlan
    {key : ChannelKey}
    (reason : AbortReason)
    (hChannel : h.channels[key]? = some c)
    (hUpgrade : h.upgrades[key]? = some u) :
    ∃ p, abortPlan key reason h = .ok p := by
  simp [abortPlan, restorePlan, hChannel, hUpgrade]

end Host

end Interchain

------------------------------------------------------------
-- Records That Are Left
------------------------------------------------------------

namespace Interchain

namespace Host

variable {h : Host}

/- A proposal is stored at the attempt after the one that the
   end was at. -/
theorem records_of_processInit
    {m : InitMessage}
    {report : EventReport UpgradeStep}
    {p : Plan Event}
    (hOk : h.processInit m = .ok report)
    (hPlan : proposalPlan report.result h = .ok p) :
    ∃ c,
      h.channels[m.key]? = some c ∧
        c.state = .open ∧
        (h.applyAll p.writes).records m.key =
          { h.records m.key with
            channel :=
              { c with upgradeSequence := c.upgradeSequence.next }
            upgrade? := some ⟨m.fields, m.timeout, .zero⟩ } := by
  rcases processInit_eq_ok hOk with ⟨c, hChannel, hPropose⟩
  rcases propose_eq_ok hPropose with ⟨hState, _, _, hStep⟩
  have hRecords := (records_stepPlan hPlan).2
  rw [hStep] at hRecords
  exact ⟨c, hChannel, hState, hRecords⟩

/- An answer leaves the end that it builds on flushing. -/
theorem records_of_processTry
    {m : TryMessage}
    {staged : Option UpgradeStep}
    {report : EventReport UpgradeStep}
    {p : Plan Event}
    (hOk : h.processTry m staged = .ok report)
    (hPlan : answerPlan report.result h = .ok p) :
    ∃ c u upgrade,
      h.answered m.key staged = .ok (c, u) ∧
        (h.applyAll p.writes).records m.key =
          { h.records m.key with
            channel := { c with state := .flushing }
            upgrade? := some upgrade } := by
  rcases processTry_eq_ok hOk with
    ⟨c, u, flushing, upgrade, hAnswered, _, _, _, _, hFlush,
      hResult⟩
  have hRecords := (records_stepPlan hPlan).2
  rw [hResult, (startFlushing_eq_ok hFlush).1] at hRecords
  exact ⟨c, u, upgrade, hAnswered, hRecords⟩

/- So does an acknowledgement, unless nothing is in flight. -/
theorem records_of_processAck
    {m : AckMessage}
    {report : EventReport AckStep}
    {p : Plan Event}
    (hOk : h.processAck m = .ok report)
    (hPlan : ackPlan report.result h = .ok p) :
    ∃ c stored upgrade,
      h.channels[m.key]? = some c ∧
        h.upgrades[m.key]? = some stored ∧
        ((h.applyAll p.writes).records m.key =
            { h.records m.key with
              channel := { c with state := .flushing }
              upgrade? := some upgrade
              counterparty? := some m.counterpartyUpgrade } ∨
          (h.records m.key).inFlight = ∅ ∧
            (h.applyAll p.writes).records m.key =
              { h.records m.key with
                channel := { c with state := .flushComplete }
                upgrade? := some upgrade }) := by
  rcases processAck_eq_ok hOk with
    ⟨c, stored, flushing, upgrade, hChannel, hState, _, hStored,
      _, _, hFlush, hResult⟩
  have hRecords := (records_ackPlan hPlan).2
  rw [hResult, flushIfOpen_eq_ok hState hFlush] at hRecords
  refine ⟨c, stored, upgrade, hChannel, hStored, ?_⟩
  rcases hRecords with ⟨_, hRecords⟩ | ⟨hEmpty, hRecords⟩
  · exact Or.inl hRecords
  · exact Or.inr ⟨hEmpty, hRecords⟩

/- A confirmed end was flushing.  It keeps the counterparty's
   upgrade, unless nothing is in flight. -/
theorem records_of_processConfirm
    {m : ConfirmMessage}
    {report : EventReport ConfirmStep}
    {p : Plan (Event × Bool)}
    (hOk : h.processConfirm m = .ok report)
    (hPlan : confirmPlan report.result h = .ok p) :
    ∃ c u,
      h.channels[m.key]? = some c ∧
        c.state = .flushing ∧
        h.upgrades[m.key]? = some u ∧
        ((h.applyAll p.writes).records m.key =
            { h.records m.key with
              counterparty? := some m.counterpartyUpgrade } ∨
          (h.records m.key).inFlight = ∅ ∧
            (h.applyAll p.writes).records m.key =
              { h.records m.key with
                channel :=
                  { c with state := .flushComplete } }) := by
  rcases processConfirm_eq_ok hOk with
    ⟨c, u, hChannel, hState, _, hUpgrade, _, hResult⟩
  have hStep : report.result.channel.state ≠ .flushComplete := by
    simp [hResult, hState]
  have hRecords := (records_confirmPlan hPlan hStep).2
  rw [hResult] at hRecords
  refine ⟨c, u, hChannel, hState, hUpgrade, ?_⟩
  rcases hRecords with
    ⟨_, _, hRecords⟩ | ⟨hEmpty, _, hRecords⟩
  · exact Or.inl hRecords
  · exact Or.inr ⟨hEmpty, hRecords⟩

end Host

end Interchain

------------------------------------------------------------
-- Carrying Out an Answer
------------------------------------------------------------

namespace Interchain

namespace Host

variable {h : Host} {m : UpgradeMessage}

/- The result of a session, as an answer on a chain. -/
def AnswersWith
    (h : Host)
    (m : UpgradeMessage)
    (d : Dispatched) : Prop :=
  h.Answers m d.1 d.2.host

/- A step that passes its checks is concluded. -/
theorem answersWith_conclude
    {α : Type}
    {report : EventReport α}
    {plan : Host → Except FatalError (Plan Event)}
    {p : Plan Event}
    (hQuiet : report.events = [])
    (hPlan : plan h = .ok p)
    (hTakes :
      h.Takes m [p.outcome] (h.applyAll p.writes)) :
    h.AnswersWith m
      ((Session.start h).conclude report plan) := by
  rcases Session.carryOut_of_ok id (s := .start h) rfl hPlan with
    ⟨next, hCarried, hHost, _⟩
  rw [AnswersWith, Session.conclude, hCarried]
  simp only [succeeded, hQuiet, hHost, List.nil_append]
  exact .taken report.log hTakes

/- A step that fails for the attempt gives it up, as there is
   an attempt to give up. -/
theorem answersWith_giveUp
    {s : Session}
    {error : UpgradeError}
    {events : List Event}
    {c : ChannelEnd}
    {u : Upgrade}
    (hRefused : s.refused = none)
    (hEnds : h.Ends m error events s.host)
    (hChannel : s.host.channels[m.key]? = some c)
    (hUpgrade : s.host.upgrades[m.key]? = some u) :
    h.AnswersWith m (s.giveUp m.key error events) := by
  rcases
      exists_abortPlan (.step error) hChannel hUpgrade with
    ⟨p, hPlan⟩
  rcases Session.carryOut_of_ok id hRefused hPlan with
    ⟨next, hCarried, hHost, _⟩
  rw [AnswersWith, Session.giveUp, hCarried]
  simp only [hHost]
  exact .givenUp hEnds hPlan

/- A step is taken, or it is rejected before any write. -/
theorem answersWith_take
    {α : Type}
    {checked : Except ChannelError (EventReport α)}
    {plan : α → Host → Except FatalError (Plan Event)}
    (hQuiet :
      ∀ report, checked = .ok report → report.events = [])
    (hTakes :
      ∀ report, checked = .ok report →
        ∃ p, plan report.result h = .ok p ∧
          h.Takes m [p.outcome] (h.applyAll p.writes)) :
    h.AnswersWith m
      ((Session.start h).take checked plan) := by
  cases checked with
  | error cause => exact .rejected cause
  | ok report =>
      rcases hTakes report rfl with ⟨p, hPlan, hTakes⟩
      exact answersWith_conclude (hQuiet report rfl) hPlan
        hTakes

end Host

end Interchain

------------------------------------------------------------
-- Answers, Step by Step
------------------------------------------------------------

namespace Interchain

namespace Host

variable {h : Host}

/- What a chain answers to a proposal of its own. -/
theorem answersWith_init
    (m : InitMessage) :
    h.AnswersWith (.init m)
      ((Session.start h).take (h.processInit m)
        proposalPlan) := by
  apply answersWith_take
  · exact fun report hOk => events_processInit hOk
  intro report hOk
  rcases processInit_eq_ok hOk with ⟨c, hChannel, hPropose⟩
  rcases propose_eq_ok hPropose with ⟨_, _, _, hStep⟩
  have hFound : h.channels[report.result.key]? = some c := by
    rw [hStep]
    exact hChannel
  rcases exists_stepPlan .upgradeInit report.result hFound with
    ⟨p, hPlan⟩
  exact ⟨p, hPlan, .init hOk hPlan⟩

/- An answer builds on the stored end, which has caught up with
   the counterparty at most. -/
theorem answered_eq_stored
    {m : TryMessage}
    {staged : Option UpgradeStep}
    {c : ChannelEnd}
    {u : Upgrade}
    (hStaged : h.stageAnswer m = .ok staged)
    (hAnswered : h.answered m.key staged = .ok (c, u)) :
    ∃ found last,
      h.channels[m.key]? = some found ∧
        found.upgradeSequence ≤ last ∧
        c = { found with upgradeSequence := last } := by
  rcases stageAnswer_eq_ok hStaged with
    ⟨rfl, _⟩ | ⟨found, step, rfl, _, hChannel, hPropose⟩
  · simp [answered] at hAnswered
    exact ⟨c, c.upgradeSequence, hAnswered.1, le_refl _, rfl⟩
  · rcases caughtUp_eq found m.counterpartySequence with
      ⟨last, hLast, hCaught, _⟩
    rcases propose_eq_ok hPropose with ⟨_, _, _, rfl⟩
    simp only [answered, Except.ok.injEq, Prod.mk.injEq,
      hCaught] at hAnswered
    exact ⟨found, last.next, hChannel,
      hLast.trans last.le_next, hAnswered.1.symm⟩

/- An answer that was staged is stored before it is given
   up. -/
theorem answersWith_giveUpStaged
    {m : TryMessage}
    {staged : Option UpgradeStep}
    {error : UpgradeError}
    (hStaged : h.stageAnswer m = .ok staged)
    (hEnded :
      h.processTry m staged = .error (.ended error)) :
    h.AnswersWith (.attempt m)
      ((Session.start h).giveUpStaged m.key error staged) := by
  rcases verified_of_processTry (not_isRefused_ended hEnded)
    with ⟨c, u, hAnswered, _, _⟩
  cases staged with
  | none =>
      simp [answered] at hAnswered
      exact answersWith_giveUp (m := .attempt m) rfl
        (.attempt hStaged hEnded) hAnswered.1 hAnswered.2
  | some step =>
      rcases answered_eq_stored hStaged hAnswered with
        ⟨found, _, hChannel, _⟩
      rcases key_of_stageAnswer hStaged with ⟨hKey, hOpen⟩
      rcases
          exists_stepPlan .upgradeInit step
            (by rw [hKey]; exact hChannel) with
        ⟨p, hPlan⟩
      have hPlan : proposalPlan step h = .ok p := hPlan
      rcases
          Session.carryOut_of_ok id (s := .start h) rfl hPlan
        with ⟨next, hCarried, hHost, hFree⟩
      have hHost : next.host = h.applyAll p.writes := hHost
      have hRecords := (records_stepPlan hPlan).2
      rw [hKey] at hRecords
      have hEnds :
          h.Ends (.attempt m) error [p.outcome] next.host := by
        rw [hHost]
        exact .staged hStaged hEnded hPlan
      have hNext :
          next.host.channels[m.key]? = some step.channel := by
        rw [hHost, channels_eq_of_state_ne] <;> rw [hRecords]
        simp [hOpen]
      have hUpgrade :
          next.host.upgrades[m.key]? = some step.upgrade := by
        rw [hHost]
        exact congrArg Records.upgrade? hRecords
      rw [Session.giveUpStaged, hCarried]
      exact answersWith_giveUp (m := .attempt m) hFree hEnds
        hNext hUpgrade

/- What it answers to a proposal of the other one. -/
theorem answersWith_dispatchTry
    (m : TryMessage) :
    h.AnswersWith (.attempt m)
      ((Session.start h).dispatchTry m) := by
  unfold Session.dispatchTry
  split
  case h_1 cause _ => exact .rejected cause
  case h_2 staged hStaged =>
    split
    case h_1 report hOk =>
      rcases processTry_eq_ok hOk with
        ⟨c, u, _, _, hAnswered, _, _, _, _, _, hResult⟩
      rcases answered_eq_stored hStaged hAnswered with
        ⟨found, _, hChannel, _⟩
      have hFound :
          h.channels[report.result.key]? = some found := by
        rw [hResult]
        exact hChannel
      rcases exists_stepPlan .upgradeTry report.result hFound
        with ⟨p, hPlan⟩
      exact answersWith_conclude (events_processTry hOk) hPlan
        (.attempt hStaged hOk hPlan)
    case h_2 cause _ => exact .rejected cause
    case h_3 error hEnded =>
      exact answersWith_giveUpStaged hStaged hEnded

/- What it answers to an acknowledgement. -/
theorem answersWith_dispatchAck
    (m : AckMessage) :
    h.AnswersWith (.ack m)
      ((Session.start h).dispatchAck m) := by
  unfold Session.dispatchAck
  split
  case h_1 report hOk =>
    rcases processAck_eq_ok hOk with
      ⟨c, _, _, _, hChannel, _, _, _, _, _, _, hResult⟩
    have hFound : h.channels[report.result.key]? = some c := by
      rw [hResult]
      exact hChannel
    rcases exists_ackPlan report.result hFound with ⟨p, hPlan⟩
    exact answersWith_conclude (events_processAck hOk) hPlan
      (.ack hOk hPlan)
  case h_2 cause _ => exact .rejected cause
  case h_3 error hEnded =>
    rcases verified_of_processAck (not_isRefused_ended hEnded)
      with ⟨c, u, hChannel, hUpgrade, _⟩
    exact answersWith_giveUp (m := .ack m) rfl (.ack hEnded)
      hChannel hUpgrade

end Host

end Interchain

------------------------------------------------------------
-- Confirmations
------------------------------------------------------------

namespace Interchain

namespace Host

variable {h : Host}

/- A confirmation keeps the proposal, so the end can open
   right after it. -/
theorem kept_of_confirmPlan
    {m : ConfirmMessage}
    {report : EventReport ConfirmStep}
    {p : Plan (Event × Bool)}
    (hOk : h.processConfirm m = .ok report)
    (hPlan : confirmPlan report.result h = .ok p) :
    ∃ c u,
      (h.applyAll p.writes).channels[m.key]? = some c ∧
        (h.applyAll p.writes).upgrades[m.key]? = some u := by
  rcases records_of_processConfirm hOk hPlan with
    ⟨c, u, hChannel, hState, hUpgrade, hRecords⟩
  have hUpgrade : (h.records m.key).upgrade? = some u :=
    hUpgrade
  have hKept :
      ((h.applyAll p.writes).records m.key).channel.state ≠
          .uninitialized ∧
        ((h.applyAll p.writes).records m.key).upgrade? =
          some u := by
    rcases hRecords with hRecords | ⟨_, hRecords⟩
    · rw [hRecords]
      simp [records_channel hChannel, hState, hUpgrade]
    · rw [hRecords]
      simp [hUpgrade]
  exact ⟨_, u, channels_eq_of_state_ne hKept.1, hKept.2⟩

/- What it answers to a confirmation. -/
theorem answersWith_dispatchConfirm
    (m : ConfirmMessage) :
    h.AnswersWith (.confirm m)
      ((Session.start h).dispatchConfirm m) := by
  unfold Session.dispatchConfirm
  split
  case h_1 cause _ => exact .rejected cause
  case h_2 error hEnded =>
    rcases
        verified_of_processConfirm (not_isRefused_ended hEnded)
      with ⟨c, u, hChannel, hUpgrade, _⟩
    exact answersWith_giveUp (m := .confirm m) rfl
      (.confirm hEnded) hChannel hUpgrade
  case h_3 report hOk =>
    rcases processConfirm_eq_ok hOk with
      ⟨c, _, hChannel, _, _, _, _, hResult⟩
    have hFound : h.channels[report.result.key]? = some c := by
      rw [hResult]
      exact hChannel
    rcases exists_plan_of_confirm report.result hFound with
      ⟨p, hPlan⟩
    rcases Session.carryOut_of_ok id (s := .start h) rfl hPlan
      with ⟨next, hCarried, hHost, hFree⟩
    rw [hCarried]
    rcases hOutcome : p.outcome with ⟨event, done⟩
    cases done with
    | false =>
        have hTakes := Takes.confirm hOk hPlan
        rw [hOutcome] at hTakes
        simp only [AnswersWith, succeeded, hHost,
          events_processConfirm hOk, List.nil_append]
        exact .taken report.log hTakes
    | true =>
        rcases kept_of_confirmPlan hOk hPlan with
          ⟨c', u, hChannel', hUpgrade'⟩
        rcases exists_openPlan hChannel' hUpgrade' with
          ⟨q, hOpen⟩
        have hTakes := Takes.confirmOpen hOk hPlan hOpen
        rw [hOutcome] at hTakes
        have hNext : openPlan m.key next.host = .ok q := by
          rw [hHost]
          exact hOpen
        rcases Session.carryOut_of_ok id hFree hNext with
          ⟨opened, hCarried', hHost', _⟩
        simp only [AnswersWith, Session.openConfirmed,
          hCarried', succeeded, hHost', hHost,
          events_processConfirm hOk, List.nil_append]
        exact .taken report.log hTakes

end Host

end Interchain

------------------------------------------------------------
-- Any Message
------------------------------------------------------------

namespace Interchain

namespace Host

variable {h : Host}

/- What it answers when it is asked to open. -/
theorem answersWith_reopen
    (m : OpenMessage) :
    h.AnswersWith (.reopen m)
      ((Session.start h).take (h.processOpen m)
        fun _ => openPlan m.key) := by
  apply answersWith_take
  · exact fun report hOk => events_processOpen hOk
  intro report hOk
  rcases processOpen_eq_ok_iff.mp ⟨report, hOk⟩ with
    ⟨c, u, _, _, _, hChannel, _, hUpgrade, _⟩
  rcases exists_openPlan hChannel hUpgrade with ⟨p, hPlan⟩
  exact ⟨p, hPlan, .reopen hOk hPlan⟩

theorem answersWith_cancel
    (m : CancelMessage) :
    h.AnswersWith (.cancel m)
      ((Session.start h).take (h.processCancel m)
        cancelPlan) := by
  apply answersWith_take
  · exact fun report hOk => events_processCancel hOk
  intro report hOk
  rcases exists_cancelPlan hOk with ⟨p, hPlan⟩
  exact ⟨p, hPlan, .cancel hOk hPlan⟩

theorem answersWith_timeout
    (m : TimeoutMessage) :
    h.AnswersWith (.timeout m)
      ((Session.start h).take (h.processTimeout m)
        timeoutPlan) := by
  apply answersWith_take
  · exact fun report hOk => events_processTimeout hOk
  intro report hOk
  rcases exists_timeoutPlan hOk with ⟨p, hPlan⟩
  exact ⟨p, hPlan, .timeout hOk hPlan⟩

/- Every message is answered in one of the ways. -/
theorem answers_dispatch
    (h : Host)
    (m : UpgradeMessage) :
    h.Answers m (h.dispatch m).1 (h.dispatch m).2 := by
  cases hValid : m.validate with
  | error cause =>
      rw [dispatch_of_invalid hValid]
      exact .rejected cause
  | ok valid =>
      rw [dispatch_of_valid hValid]
      cases m with
      | init m => exact answersWith_init m
      | attempt m => exact answersWith_dispatchTry m
      | ack m => exact answersWith_dispatchAck m
      | confirm m => exact answersWith_dispatchConfirm m
      | reopen m => exact answersWith_reopen m
      | cancel m => exact answersWith_cancel m
      | timeout m => exact answersWith_timeout m

end Host

end Interchain
