import Interchain.Proofs.Handshake.Moves
import Interchain.Proofs.Host.Locality

/-
  What a message looks at.

  How a message is handled depends on the records of its own
  channel and on the setting of the chain only.  So chains that
  agree at the channel answer it alike, and agree afterwards.

  Main declarations:
    * `Session.AgreesAt`
    * `Session.AnswersAlike`

  Main statements:
    * `Host.AgreesAt.dispatch`
-/

------------------------------------------------------------
-- What Depends on the Setting
------------------------------------------------------------

namespace Interchain

namespace Host

section Setting

variable {g h : Host} (hSame : g.HasSameSetting h)

include hSame

/- Chains in the same setting have the same connections. -/
theorem HasSameSetting.connectionEnd :
    g.connectionEnd = h.connectionEnd := by
  funext id
  simp only [Host.connectionEnd, hSame.connections]

theorem HasSameSetting.openConnection :
    g.openConnection = h.openConnection := by
  funext c
  simp only [Host.openConnection, hSame.connectionEnd]

/- What a client remembers, and the checks that ask it. -/
theorem HasSameSetting.counterpartyClient :
    g.counterpartyClient = h.counterpartyClient := by
  funext connection height
  simp only [Host.counterpartyClient, Host.consensusState,
    hSame.clients, hSame.consensusStates]

theorem HasSameSetting.verifyChannel :
    g.verifyChannel = h.verifyChannel := by
  funext c connection expected proof height
  simp only [Host.verifyChannel, hSame.counterpartyClient]

theorem HasSameSetting.verifyUpgrade :
    g.verifyUpgrade = h.verifyUpgrade := by
  funext c connection expected proof height
  simp only [Host.verifyUpgrade, hSame.counterpartyClient]

theorem HasSameSetting.verifyReceipt :
    g.verifyReceipt = h.verifyReceipt := by
  funext c connection expected proof height
  simp only [Host.verifyReceipt, hSame.counterpartyClient]

theorem HasSameSetting.verifyNoReceipt :
    g.verifyNoReceipt = h.verifyNoReceipt := by
  funext c connection proof height
  simp only [Host.verifyNoReceipt, hSame.counterpartyClient]

theorem HasSameSetting.counterpartyTime :
    g.counterpartyTime = h.counterpartyTime := by
  funext connection height
  simp only [Host.counterpartyTime, hSame.counterpartyClient]

/- The checks of a proposal. -/
theorem HasSameSetting.propose : g.propose = h.propose := by
  funext key c fields timeout
  simp only [Host.propose, checkProposal, checkSupport,
    hSame.connectionEnd]

theorem HasSameSetting.checkCompatible :
    g.checkCompatible = h.checkCompatible := by
  funext own counterparty
  simp only [Host.checkCompatible, checkHops,
    hSame.connectionEnd]

theorem HasSameSetting.verifyCounterparty :
    g.verifyCounterparty = h.verifyCounterparty := by
  funext key c state sequence upgrade channelProof upgradeProof
    height
  simp only [Host.verifyCounterparty, hSame.openConnection,
    hSame.verifyChannel, hSame.verifyUpgrade]

theorem HasSameSetting.checkCounterpartyTimeout :
    g.checkCounterpartyTimeout = h.checkCounterpartyTimeout := by
  funext sequence counterparty
  simp only [Host.checkCounterpartyTimeout, hSame.height,
    hSame.timestamp]

end Setting

end Host

end Interchain

------------------------------------------------------------
-- What Depends on the Channel
------------------------------------------------------------

namespace Interchain

namespace Host

section Channel

variable {key : ChannelKey} {g h : Host}

/- Chains that agree at a channel have the same end. -/
theorem AgreesAt.channelEnd
    (hAgrees : g.AgreesAt key h) :
    g.channelEnd key = h.channelEnd key := by
  simp only [Host.channelEnd, hAgrees.channel]

theorem AgreesAt.upgradeOf
    (hAgrees : g.AgreesAt key h) :
    g.upgrade key = h.upgrade key := by
  simp only [Host.upgrade, hAgrees.upgrade]

theorem AgreesAt.startFlushing
    (hAgrees : g.AgreesAt key h)
    (c : ChannelEnd)
    (u : Upgrade) :
    g.startFlushing key c u = h.startFlushing key c u := by
  simp only [Host.startFlushing, flushProgress, latestSent,
    Host.nextSequence, hAgrees.nextSequence,
    hAgrees.setting.openConnection, hAgrees.setting.params,
    hAgrees.setting.height, hAgrees.setting.timestamp]

end Channel

/- The checks of each message. -/

variable {g h : Host}

/- Chains that agree at a channel judge a proposal of their own
   alike. -/
theorem AgreesAt.processInit
    {m : InitMessage}
    (hAgrees : g.AgreesAt m.key h) :
    g.processInit m = h.processInit m := by
  simp only [Host.processInit, hAgrees.channelEnd,
    hAgrees.setting.propose]

theorem AgreesAt.stageAnswer
    {m : TryMessage}
    (hAgrees : g.AgreesAt m.key h) :
    g.stageAnswer m = h.stageAnswer m := by
  simp only [Host.stageAnswer, hAgrees.upgrade,
    hAgrees.channelEnd, hAgrees.setting.propose]

/- They also judge a proposal of the other end alike. -/
theorem AgreesAt.processTry
    {m : TryMessage}
    (hAgrees : g.AgreesAt m.key h)
    (staged : Option UpgradeStep) :
    g.processTry m staged = h.processTry m staged := by
  simp only [Host.processTry, answered, verifyProposal,
    hAgrees.channelEnd, hAgrees.upgradeOf,
    hAgrees.startFlushing, hAgrees.setting.openConnection,
    hAgrees.setting.checkCompatible,
    hAgrees.setting.verifyChannel,
    hAgrees.setting.verifyUpgrade]

theorem AgreesAt.processAck
    {m : AckMessage}
    (hAgrees : g.AgreesAt m.key h) :
    g.processAck m = h.processAck m := by
  simp only [Host.processAck, acknowledgeable, flushIfOpen,
    hAgrees.channelEnd, hAgrees.upgradeOf,
    hAgrees.startFlushing, hAgrees.setting.verifyCounterparty,
    hAgrees.setting.checkCompatible,
    hAgrees.setting.checkCounterpartyTimeout]

theorem AgreesAt.processConfirm
    {m : ConfirmMessage}
    (hAgrees : g.AgreesAt m.key h) :
    g.processConfirm m = h.processConfirm m := by
  simp only [Host.processConfirm, confirmable,
    hAgrees.channelEnd, hAgrees.upgradeOf,
    hAgrees.setting.verifyCounterparty,
    hAgrees.setting.checkCounterpartyTimeout]

theorem AgreesAt.processOpen
    {m : OpenMessage}
    (hAgrees : g.AgreesAt m.key h) :
    g.processOpen m = h.processOpen m := by
  simp only [Host.processOpen, openable, expectedBeforeOpen,
    expectedOpen, hAgrees.channelEnd, hAgrees.upgradeOf,
    hAgrees.setting.connectionEnd,
    hAgrees.setting.openConnection,
    hAgrees.setting.verifyChannel]

theorem AgreesAt.processCancel
    {m : CancelMessage}
    (hAgrees : g.AgreesAt m.key h) :
    g.processCancel m = h.processCancel m := by
  simp only [Host.processCancel, cancellable, verifyCancel,
    hAgrees.channelEnd, hAgrees.upgradeOf,
    hAgrees.setting.params, hAgrees.setting.openConnection,
    hAgrees.setting.verifyReceipt]

theorem AgreesAt.processTimeout
    {m : TimeoutMessage}
    (hAgrees : g.AgreesAt m.key h) :
    g.processTimeout m = h.processTimeout m := by
  simp only [Host.processTimeout, waiting, elapsedTimeout,
    verifyUnanswered, hAgrees.channelEnd, hAgrees.upgradeOf,
    hAgrees.setting.openConnection,
    hAgrees.setting.counterpartyTime,
    hAgrees.setting.verifyChannel,
    hAgrees.setting.verifyReceipt,
    hAgrees.setting.verifyNoReceipt]

end Host

end Interchain

------------------------------------------------------------
-- Plans
------------------------------------------------------------

namespace Interchain

namespace Host

variable {g h : Host}

/- A plan is made from the records of its channel. -/
theorem AgreesAt.stepPlan
    (tell : UpgradeAttributes → Event)
    {step : UpgradeStep}
    (hAgrees : g.AgreesAt step.key h) :
    stepPlan tell step g = stepPlan tell step h := by
  simp only [Interchain.stepPlan, hAgrees.channelEnd]

/- Chains that agree at a channel make the same plan for an
   acknowledgement. -/
theorem AgreesAt.ackPlan
    {step : AckStep}
    (hAgrees : g.AgreesAt step.key h) :
    ackPlan step g = ackPlan step h := by
  simp only [Interchain.ackPlan, hAgrees.channelEnd,
    hAgrees.hasInFlight]

theorem AgreesAt.confirmPlan
    {step : ConfirmStep}
    (hAgrees : g.AgreesAt step.key h) :
    confirmPlan step g = confirmPlan step h := by
  simp only [Interchain.confirmPlan, hAgrees.channelEnd,
    hAgrees.hasInFlight]

theorem AgreesAt.openPlan
    {key : ChannelKey}
    (hAgrees : g.AgreesAt key h) :
    openPlan key g = openPlan key h := by
  simp only [Interchain.openPlan, hAgrees.channelEnd,
    hAgrees.upgradeOf]

theorem AgreesAt.abortPlan
    {key : ChannelKey}
    (hAgrees : g.AgreesAt key h)
    (reason : AbortReason) :
    abortPlan key reason g = abortPlan key reason h := by
  simp only [Interchain.abortPlan, restorePlan,
    hAgrees.channelEnd, hAgrees.upgradeOf]

theorem AgreesAt.cancelPlan
    {step : CancelStep}
    (hAgrees : g.AgreesAt step.key h) :
    cancelPlan step g = cancelPlan step h := by
  simp only [Interchain.cancelPlan, restorePlan,
    hAgrees.channelEnd, hAgrees.upgradeOf]

theorem AgreesAt.timeoutPlan
    {step : TimeoutStep}
    (hAgrees : g.AgreesAt step.key h) :
    timeoutPlan step g = timeoutPlan step h := by
  simp only [Interchain.timeoutPlan, restorePlan,
    hAgrees.channelEnd, hAgrees.upgradeOf]

end Host

end Interchain

------------------------------------------------------------
-- Sessions
------------------------------------------------------------

namespace Interchain

namespace Session

/- Sessions that wrote as much, on chains that agree. -/
structure AgreesAt
    (key : ChannelKey)
    (s t : Session) : Prop where
  host : s.host.AgreesAt key t.host
  written : s.written = t.written
  refused : s.refused = t.refused

/- The same result, and sessions that agree afterwards. -/
def AnswersAlike
    {α : Type}
    (key : ChannelKey)
    (x y : α × Session) : Prop :=
  x.1 = y.1 ∧ x.2.AgreesAt key y.2

variable {ε α : Type} {key : ChannelKey} {s t : Session}

/- Sessions that answer alike give one answer, and agree after. -/
theorem AnswersAlike.exists_eq
    {x y : α × Session}
    (hAlike : AnswersAlike key x y) :
    ∃ a s t, x = (a, s) ∧ y = (a, t) ∧ s.AgreesAt key t := by
  rcases x with ⟨a, s⟩
  rcases y with ⟨b, t⟩
  rcases hAlike with ⟨hResult, hAgrees⟩
  cases hResult
  exact ⟨a, s, t, rfl, rfl, hAgrees⟩

/- They still agree after the same write. -/
theorem AgreesAt.write
    (hAgrees : s.AgreesAt key t)
    (w : Write) :
    AnswersAlike key (s.write w) (t.write w) := by
  unfold Session.write
  rw [hAgrees.refused, hAgrees.written]
  split
  case isTrue => exact ⟨rfl, hAgrees.host, rfl, rfl⟩
  case isFalse => exact ⟨rfl, hAgrees.host.apply w, rfl, rfl⟩

theorem AgreesAt.writeAll
    (hAgrees : s.AgreesAt key t)
    (writes : List Write) :
    AnswersAlike key (s.writeAll writes) (t.writeAll writes) := by
  induction writes generalizing s t with
  | nil => exact ⟨rfl, hAgrees⟩
  | cons w rest ih =>
      rcases (hAgrees.write w).exists_eq with
        ⟨result, next, next', hWrite, hWrite', hNext⟩
      rw [Session.writeAll, Session.writeAll, hWrite, hWrite']
      cases result with
      | ok => exact ih hNext
      | error e => exact ⟨rfl, hNext⟩

/- The same plan is carried out in the same way. -/
theorem AgreesAt.carryOut
    (hAgrees : s.AgreesAt key t)
    (fatal : FatalError → ε)
    {plan : Host → Except ε (Plan α)}
    (hPlan : plan s.host = plan t.host) :
    AnswersAlike key (s.carryOut fatal plan)
      (t.carryOut fatal plan) := by
  unfold Session.carryOut
  rw [hPlan]
  cases plan t.host with
  | error e => exact ⟨rfl, hAgrees⟩
  | ok p =>
      rcases (hAgrees.writeAll p.writes).exists_eq with
        ⟨result, next, next', hWrites, hWrites', hNext⟩
      simp only [hWrites, hWrites']
      cases result <;> exact ⟨rfl, hNext⟩

end Session

end Interchain

------------------------------------------------------------
-- Handling a Message
------------------------------------------------------------

namespace Interchain

namespace Session

variable {key : ChannelKey} {s t : Session}

/- Sessions that agree at a channel conclude a plan alike. -/
theorem AgreesAt.conclude
    {α : Type}
    (hAgrees : s.AgreesAt key t)
    (report : EventReport α)
    {plan : Host → Except FatalError (Plan Event)}
    (hPlan : plan s.host = plan t.host) :
    AnswersAlike key (s.conclude report plan)
      (t.conclude report plan) := by
  rcases (hAgrees.carryOut id hPlan).exists_eq with
    ⟨result, next, next', hCarried, hCarried', hNext⟩
  rw [Session.conclude, Session.conclude, hCarried, hCarried']
  cases result <;> exact ⟨rfl, hNext⟩

theorem AgreesAt.giveUp
    (hAgrees : s.AgreesAt key t)
    (error : UpgradeError)
    (before : List Event) :
    AnswersAlike key (s.giveUp key error before)
      (t.giveUp key error before) := by
  have hPlan := hAgrees.host.abortPlan (.step error)
  rcases (hAgrees.carryOut id hPlan).exists_eq with
    ⟨result, next, next', hCarried, hCarried', hNext⟩
  rw [Session.giveUp, Session.giveUp, hCarried, hCarried']
  cases result <;> exact ⟨rfl, hNext⟩

theorem AgreesAt.openConfirmed
    (hAgrees : s.AgreesAt key t)
    (report : EventReport ConfirmStep)
    (event : Event) :
    AnswersAlike key (s.openConfirmed key report event)
      (t.openConfirmed key report event) := by
  have hPlan := hAgrees.host.openPlan
  rcases (hAgrees.carryOut id hPlan).exists_eq with
    ⟨result, next, next', hCarried, hCarried', hNext⟩
  rw [Session.openConfirmed, Session.openConfirmed, hCarried,
    hCarried']
  cases result <;> exact ⟨rfl, hNext⟩

/- A step whose check is the same is taken in the same way. -/
theorem AgreesAt.take
    {α : Type}
    (hAgrees : s.AgreesAt key t)
    {checked checked' : Except ChannelError (EventReport α)}
    {plan : α → Host → Except FatalError (Plan Event)}
    (hChecked : checked = checked')
    (hPlan :
      ∀ report, checked = .ok report →
        plan report.result s.host = plan report.result t.host) :
    AnswersAlike key (s.take checked plan)
      (t.take checked' plan) := by
  subst hChecked
  cases checked with
  | error e => exact ⟨rfl, hAgrees⟩
  | ok report => exact hAgrees.conclude report (hPlan report rfl)

/- They give up alike what was only staged. -/
theorem AgreesAt.giveUpStaged
    (hAgrees : s.AgreesAt key t)
    (error : UpgradeError)
    {staged : Option UpgradeStep}
    (hKey : ∀ step, staged = some step → step.key = key) :
    AnswersAlike key (s.giveUpStaged key error staged)
      (t.giveUpStaged key error staged) := by
  cases staged with
  | none => exact hAgrees.giveUp error []
  | some step =>
      have hStep := hKey step rfl
      subst hStep
      have hPlan :
          proposalPlan step s.host = proposalPlan step t.host :=
        hAgrees.host.stepPlan .upgradeInit
      rcases (hAgrees.carryOut id hPlan).exists_eq with
        ⟨result, next, next', hCarried, hCarried', hNext⟩
      rw [Session.giveUpStaged, Session.giveUpStaged, hCarried,
        hCarried']
      cases result with
      | error e => exact ⟨rfl, hNext⟩
      | ok event => exact hNext.giveUp error [event]

/- They answer a proposal alike. -/
theorem AgreesAt.dispatchTry
    {m : TryMessage}
    (hAgrees : s.AgreesAt m.key t) :
    AnswersAlike m.key (s.dispatchTry m) (t.dispatchTry m) := by
  unfold Session.dispatchTry
  rw [hAgrees.host.stageAnswer]
  cases hStaged : t.host.stageAnswer m with
  | error e => exact ⟨rfl, hAgrees⟩
  | ok staged =>
      simp only [hAgrees.host.processTry]
      cases hTry : t.host.processTry m staged with
      | ok report =>
          apply hAgrees.conclude
          apply Host.AgreesAt.stepPlan
          rw [Host.key_of_processTry hTry]
          exact hAgrees.host
      | error failure =>
          cases failure with
          | refused e => exact ⟨rfl, hAgrees⟩
          | ended error =>
              apply hAgrees.giveUpStaged
              rintro step rfl
              exact (Host.key_of_stageAnswer hStaged).1

theorem AgreesAt.dispatchAck
    {m : AckMessage}
    (hAgrees : s.AgreesAt m.key t) :
    AnswersAlike m.key (s.dispatchAck m) (t.dispatchAck m) := by
  unfold Session.dispatchAck
  rw [hAgrees.host.processAck]
  cases hAck : t.host.processAck m with
  | ok report =>
      apply hAgrees.conclude
      apply Host.AgreesAt.ackPlan
      rw [Host.key_of_processAck hAck]
      exact hAgrees.host
  | error failure =>
      cases failure with
      | refused e => exact ⟨rfl, hAgrees⟩
      | ended error => exact hAgrees.giveUp error []

theorem AgreesAt.dispatchConfirm
    {m : ConfirmMessage}
    (hAgrees : s.AgreesAt m.key t) :
    AnswersAlike m.key (s.dispatchConfirm m)
      (t.dispatchConfirm m) := by
  unfold Session.dispatchConfirm
  rw [hAgrees.host.processConfirm]
  cases hConfirm : t.host.processConfirm m with
  | error failure =>
      cases failure with
      | refused e => exact ⟨rfl, hAgrees⟩
      | ended error => exact hAgrees.giveUp error []
  | ok report =>
      have hPlan :
          confirmPlan report.result s.host =
            confirmPlan report.result t.host := by
        apply Host.AgreesAt.confirmPlan
        rw [Host.key_of_processConfirm hConfirm]
        exact hAgrees.host
      rcases (hAgrees.carryOut id hPlan).exists_eq with
        ⟨result, next, next', hCarried, hCarried', hNext⟩
      simp only [hCarried, hCarried']
      match result with
      | .error e => exact ⟨rfl, hNext⟩
      | .ok (event, false) => exact ⟨rfl, hNext⟩
      | .ok (event, true) =>
          exact hNext.openConfirmed report event

/- A message is handled alike where chains agree. -/
theorem AgreesAt.dispatch
    {m : UpgradeMessage}
    (hAgrees : s.AgreesAt m.key t) :
    AnswersAlike m.key (s.dispatch m) (t.dispatch m) := by
  unfold Session.dispatch
  split
  case h_1 => exact ⟨rfl, hAgrees⟩
  case h_2 =>
    cases m with
    | init m =>
        refine hAgrees.take hAgrees.host.processInit ?_
        intro report hOk
        apply Host.AgreesAt.stepPlan
        rw [Host.key_of_processInit hOk]
        exact hAgrees.host
    | attempt m => exact AgreesAt.dispatchTry hAgrees
    | ack m => exact AgreesAt.dispatchAck hAgrees
    | confirm m => exact AgreesAt.dispatchConfirm hAgrees
    | reopen m =>
        exact hAgrees.take hAgrees.host.processOpen fun _ _ =>
          hAgrees.host.openPlan
    | cancel m =>
        refine hAgrees.take hAgrees.host.processCancel ?_
        intro report hOk
        apply Host.AgreesAt.cancelPlan
        rw [Host.key_of_processCancel hOk]
        exact hAgrees.host
    | timeout m =>
        refine hAgrees.take hAgrees.host.processTimeout ?_
        intro report hOk
        apply Host.AgreesAt.timeoutPlan
        rw [Host.key_of_processTimeout hOk]
        exact hAgrees.host

end Session

end Interchain

namespace Interchain

namespace Host

variable {g h : Host} {m : UpgradeMessage}

/- Chains that agree at a channel answer alike, and agree
   after. -/
theorem AgreesAt.dispatch
    (hAgrees : g.AgreesAt m.key h) :
    (g.dispatch m).1 = (h.dispatch m).1 ∧
      (g.dispatch m).2.AgreesAt m.key (h.dispatch m).2 := by
  have hStart :
      (Session.start g).AgreesAt m.key (Session.start h) :=
    ⟨hAgrees, rfl, rfl⟩
  rcases hStart.dispatch with ⟨hResult, hAfter⟩
  exact ⟨hResult, hAfter.host⟩

/- Nothing but its channel is written by a message. -/
theorem agreesAt_dispatch_of_ne
    (h : Host)
    {key : ChannelKey}
    (hKey : m.key ≠ key) :
    (h.dispatch m).2.AgreesAt key h := by
  rw [dispatch_eq]
  refine Session.dispatch_keeps (s := .start h)
    (P := fun after => after.AgreesAt key h) m ?_ rfl
    (.refl key h)
  intro before writes hWrites hBefore
  refine (before.agreesAt_applyAll_of_ne ?_).trans hBefore
  intro w hw
  rw [hWrites w hw]
  exact hKey

end Host

end Interchain
