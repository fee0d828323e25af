import Interchain.Proofs.Handshake.Answer
import Interchain.Proofs.Handshake.Looking
import Interchain.Proofs.Time.Deadline

/-
  Acknowledging and confirming while packets are in flight.

  An end that learns the upgrade of the counterparty is done
  flushing if nothing is in flight.  Otherwise it keeps the
  upgrade, and a later look at the channel finds it done once
  the last packet is resolved, unless the counterparty's upgrade
  has run out by then.

  Main declarations:
    * `Records.Drains`

  Main statements:
    * `Host.dispatch_ack_drains`
    * `Host.dispatch_confirm_of_ok`
    * `Host.refreshPlan_of_waits`
-/

------------------------------------------------------------
-- Deadlines
------------------------------------------------------------

namespace Interchain

namespace Params

/- A deadline that can be set can elapse. -/
theorem validate_of_deadline
    {p : Params}
    {height : Height}
    {timestamp : Timestamp}
    {timeout : UpgradeTimeout}
    (hDeadline : p.deadline height timestamp = .ok timeout) :
    timeout.validate = .ok () := by
  have hValid := (deadline_eq_ok_iff.mp hDeadline).1
  rw [UpgradeTimeout.validate, if_pos hValid]

end Params

end Interchain

------------------------------------------------------------
-- Draining
------------------------------------------------------------

namespace Interchain

/-
  An end that knows the upgrade of the counterparty: it waits
  for packets in flight and keeps that upgrade, or it is done
  flushing.
-/
inductive Records.Drains
    (c : ChannelEnd)
    (u v : Upgrade)
    (r : Records) : Prop
  | waits
      (hChannel : r.channel = { c with state := .flushing })
      (hUpgrade : r.upgrade? = some u)
      (hCounterparty : r.counterparty? = some v)
      (hSent : r.inFlight ≠ ∅)
  | done
      (hChannel : r.channel = { c with state := .flushComplete })
      (hUpgrade : r.upgrade? = some u)

namespace Host

variable {h : Host}

/- An acknowledgement that starts to flush, and is done at once
   if nothing is in flight. -/
theorem dispatch_ack_drains
    {m : AckMessage}
    {report : EventReport AckStep}
    {c : ChannelEnd}
    {u v : Upgrade}
    (hValid : m.validate = .ok ())
    (hOk : h.processAck m = .ok report)
    (hResult :
      report.result =
        ⟨⟨m.key, { c with state := .flushing }, u⟩, v⟩) :
    Succeeds (h.dispatch (.ack m)).1 ∧
      ((h.dispatch (.ack m)).2.records m.key).Drains c u v := by
  have hDone := dispatch_ack_of_ok hValid hOk hResult
  refine ⟨hDone.1, ?_⟩
  rcases hDone.2 with ⟨hSent, hRecords⟩ | ⟨_, hRecords⟩
  · rw [hRecords]
    exact .waits rfl rfl rfl hSent
  · rw [hRecords]
    exact .done rfl rfl

end Host

end Interchain

------------------------------------------------------------
-- Confirming
------------------------------------------------------------

namespace Interchain

namespace Host

variable {h : Host} {m : ConfirmMessage}
variable {c : ChannelEnd} {u : Upgrade}

/- A confirmation that does not find both ends done leaves what
   its plan says. -/
theorem dispatch_confirm_of_waiting
    {report : EventReport ConfirmStep}
    {p : Plan (Event × Bool)}
    (hValid : m.validate = .ok ())
    (hOk : h.processConfirm m = .ok report)
    (hPlan : confirmPlan report.result h = .ok p)
    (hWaits : p.outcome.2 = false) :
    Succeeds (h.dispatch (.confirm m)).1 ∧
      (h.dispatch (.confirm m)).2 = h.applyAll p.writes := by
  rcases Session.carryOut_of_ok id (s := .start h) rfl hPlan with
    ⟨next, hCarried, hHost, _⟩
  have hOutcome : p.outcome = (p.outcome.1, false) :=
    Prod.ext rfl hWaits
  have hDispatch :
      (Session.start h).dispatchConfirm m =
        (.ok (succeeded report [p.outcome.1]), next) := by
    rw [hOutcome] at hCarried
    simp only [Session.dispatchConfirm, Session.start] at *
    simp only [hOk, hCarried]
  rw [dispatch_of_valid (m := .confirm m) hValid,
    Session.dispatchValid, hDispatch]
  exact ⟨⟨_, rfl, rfl⟩, hHost⟩

/- A confirmed end drains, or it opens right away as both ends
   are done. -/
theorem dispatch_confirm_of_ok
    (hConfirms : h.Confirms m c u) :
    Succeeds (h.dispatch (.confirm m)).1 ∧
      (((h.dispatch (.confirm m)).2.records m.key).Drains c u
          m.counterpartyUpgrade ∨
        m.counterpartyState = .flushComplete ∧
          (h.dispatch (.confirm m)).2.records m.key =
            (h.records m.key).opened u) := by
  rcases hConfirms.processConfirm with ⟨report, hOk, hResult⟩
  rcases
      exists_plan_of_confirm report.result
        (by rw [hResult]; exact hConfirms.channel) with
    ⟨p, hPlan⟩
  have hStep : report.result.channel.state ≠ .flushComplete := by
    simp [hResult, hConfirms.state]
  have hRecords := (records_confirmPlan hPlan hStep).2
  rw [hResult] at hRecords
  have hUpgrade : (h.records m.key).upgrade? = some u :=
    hConfirms.upgrade
  rcases hRecords with
    ⟨hSent, hWaits, hRecords⟩ | ⟨hEmpty, hBoth, hRecords⟩
  · have hDone :=
      dispatch_confirm_of_waiting hConfirms.valid hOk hPlan hWaits
    refine ⟨hDone.1, Or.inl ?_⟩
    rw [hDone.2, hRecords]
    apply Records.Drains.waits
    · rw [← hConfirms.state]
      exact records_channel hConfirms.channel
    · exact hUpgrade
    · rfl
    · exact hSent
  · by_cases hPeer : m.counterpartyState = .flushComplete
    · have hOpened :=
        dispatch_confirm_opens hConfirms hPeer hEmpty
      exact ⟨hOpened.1, Or.inr ⟨hPeer, hOpened.2⟩⟩
    · have hWaits : p.outcome.2 = false := by
        rw [hBoth]
        simpa using hPeer
      have hDone :=
        dispatch_confirm_of_waiting hConfirms.valid hOk hPlan
          hWaits
      refine ⟨hDone.1, Or.inl ?_⟩
      rw [hDone.2, hRecords]
      exact .done rfl hUpgrade

end Host

end Interchain

------------------------------------------------------------
-- Looks
------------------------------------------------------------

namespace Interchain

namespace Host

variable {h : Host} {key : ChannelKey}

/- A look finds nothing to do unless the end flushes and knows
   the upgrade of the counterparty. -/
theorem looks_still
    {s : Session}
    (hNot :
      (s.host.records key).channel.state = .flushing →
        (s.host.records key).counterparty? = none) :
    (s.refresh key).2.host = s.host := by
  have hIdle :
      ∀ p, refreshPlan key s.host = .ok p → p.writes = [] := by
    intro p hPlan
    rcases Session.refreshPlan_cases hPlan with
      rfl | ⟨c, v, hChannel, hCounterparty, hState, _⟩
    · rfl
    · rw [← records_channel hChannel] at hState
      have hNone : s.host.counterpartyUpgrades[key]? = none :=
        hNot hState
      simp [hNone] at hCounterparty
  cases hPlan : refreshPlan key s.host with
  | error e =>
      rw [Session.refresh, Session.carryOut_of_error _ hPlan]
  | ok p =>
      rw [Session.refresh, Session.carryOut, hPlan]
      simp only [hIdle p hPlan, Session.writeAll]

/- A look at an end that drains, before the upgrade of the
   counterparty runs out, leaves it draining, or done once
   nothing is in flight. -/
theorem refreshPlan_of_waits
    {c : ChannelEnd}
    {v : Upgrade}
    (hChannel : h.channels[key]? = some c)
    (hState : c.state = .flushing)
    (hCounterparty : h.counterpartyUpgrades[key]? = some v)
    (hAhead : v.hasRunOut h.height h.timestamp = false) :
    refreshPlan key h =
      if h.hasInFlight key then .ok stillFlushing
      else .ok (completePlan key c) := by
  have hTimeout :
      h.checkCounterpartyTimeout c.upgradeSequence v = .ok () :=
    checkCounterpartyTimeout_eq_ok_iff.mpr hAhead
  simp [refreshPlan, channelEnd_eq_ok.mpr hChannel, hState,
    hCounterparty, hTimeout]

end Host

end Interchain
