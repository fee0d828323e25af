import Interchain.Handshake.Dispatch
import Interchain.Proofs.Handshake.Result
import Interchain.Proofs.Host.Records

/-
  What the plans of the handshake write.

  Every plan is about one channel.  For each, a law says what
  the records of that channel are once it is carried out.

  Main declarations:
    * `Records.restored`
    * `Records.opened`
    * `Plan.IsAbout`

  Main statements:
    * `Session.carryOut_of_ok`
    * `Host.records_abortPlan`
    * `Host.records_openPlan`
-/

------------------------------------------------------------
-- Carrying Out
------------------------------------------------------------

namespace Interchain

namespace Session

variable {ε α : Type}

/- A plan that cannot be made leaves the session as it was. -/
theorem carryOut_of_error
    (fatal : FatalError → ε)
    {s : Session}
    {plan : Host → Except ε (Plan α)}
    {e : ε}
    (hPlan : plan s.host = .error e) :
    s.carryOut fatal plan = (.error e, s) := by
  rw [carryOut, hPlan]

/- A plan is carried out as a whole. -/
theorem carryOut_of_ok
    (fatal : FatalError → ε)
    {s : Session}
    {plan : Host → Except ε (Plan α)}
    {p : Plan α}
    (hRefused : s.refused = none)
    (hPlan : plan s.host = .ok p) :
    ∃ next,
      s.carryOut fatal plan = (.ok p.outcome, next) ∧
        next.host = s.host.applyAll p.writes ∧
        next.refused = none := by
  rw [carryOut, hPlan]
  simp only
  rw [writeAll_of_refused_eq_none s p.writes hRefused]
  exact ⟨_, rfl, rfl, hRefused⟩

end Session

/- All writes of a plan are for one channel. -/
def Plan.IsAbout
    {α : Type}
    (p : Plan α)
    (key : ChannelKey) : Prop :=
  ∀ w ∈ p.writes, w.channelKey = key

end Interchain

------------------------------------------------------------
-- Restored and Opened Records
------------------------------------------------------------

namespace Interchain

namespace Records

/- The records once an attempt is given up. -/
def restored
    (r : Records)
    (sequence : Sequence)
    (receipt : ErrorReceipt) :
    Records :=
  { r with
    channel := r.channel.restored sequence
    upgrade? := none
    counterparty? := none
    receipt? := some receipt }

/- The records once an upgrade is complete. -/
def opened (r : Records) (u : Upgrade) : Records :=
  { r with
    channel :=
      { r.channel.applyFields u.fields with state := .open }
    upgrade? := none
    counterparty? := none
    receipt? := none }

end Records

end Interchain

------------------------------------------------------------
-- Plans That Go Forward
------------------------------------------------------------

namespace Interchain

namespace Host

variable {h : Host}

/- A step stores its end and its upgrade. -/
theorem records_stepPlan
    {tell : UpgradeAttributes → Event}
    {step : UpgradeStep}
    {p : Plan Event}
    (hPlan : stepPlan tell step h = .ok p) :
    p.IsAbout step.key ∧
      (h.applyAll p.writes).records step.key =
        { h.records step.key with
          channel := step.channel
          upgrade? := some step.upgrade } := by
  simp only [stepPlan, bind_eq_ok, pure_eq_ok] at hPlan
  rcases hPlan with ⟨_, _, rfl⟩
  exact ⟨by simp [Plan.IsAbout, Write.channelKey], by simp⟩

/- An acknowledged end flushes on if packets are in flight,
   and is done flushing otherwise. -/
theorem records_ackPlan
    {step : AckStep}
    {p : Plan Event}
    (hPlan : ackPlan step h = .ok p) :
    p.IsAbout step.key ∧
      ((h.records step.key).inFlight ≠ ∅ ∧
          (h.applyAll p.writes).records step.key =
            { h.records step.key with
              channel := step.channel
              upgrade? := some step.upgrade
              counterparty? :=
                some step.counterpartyUpgrade } ∨
        (h.records step.key).inFlight = ∅ ∧
          (h.applyAll p.writes).records step.key =
            { h.records step.key with
              channel :=
                { step.channel with state := .flushComplete }
              upgrade? := some step.upgrade }) := by
  simp only [ackPlan, bind_eq_ok, pure_eq_ok] at hPlan
  rcases hPlan with ⟨_, _, rfl⟩
  cases hFlight : h.hasInFlight step.key with
  | true =>
      have hSent : (h.records step.key).inFlight ≠ ∅ := by
        rw [ne_eq, ← hasInFlight_eq_false_iff, hFlight]
        simp
      exact ⟨by simp [Plan.IsAbout, Write.channelKey],
        Or.inl ⟨hSent, by simp⟩⟩
  | false =>
      have hSent := hasInFlight_eq_false_iff.mp hFlight
      exact ⟨by simp [Plan.IsAbout, Write.channelKey],
        Or.inr ⟨hSent, by simp⟩⟩

/- A confirmed end keeps the counterparty's upgrade if packets
   are in flight, and is done flushing otherwise. -/
theorem records_confirmPlan
    {step : ConfirmStep}
    {p : Plan (Event × Bool)}
    (hPlan : confirmPlan step h = .ok p)
    (hState : step.channel.state ≠ .flushComplete) :
    p.IsAbout step.key ∧
      ((h.records step.key).inFlight ≠ ∅ ∧
          p.outcome.2 = false ∧
          (h.applyAll p.writes).records step.key =
            { h.records step.key with
              counterparty? :=
                some step.counterpartyUpgrade } ∨
        (h.records step.key).inFlight = ∅ ∧
          p.outcome.2 =
            (step.counterpartyState == .flushComplete) ∧
          (h.applyAll p.writes).records step.key =
            { h.records step.key with
              channel :=
                { step.channel with
                  state := .flushComplete } }) := by
  simp only [confirmPlan, bind_eq_ok, pure_eq_ok] at hPlan
  rcases hPlan with ⟨_, _, rfl⟩
  cases hFlight : h.hasInFlight step.key with
  | true =>
      have hSent : (h.records step.key).inFlight ≠ ∅ := by
        rw [ne_eq, ← hasInFlight_eq_false_iff, hFlight]
        simp
      exact ⟨by simp [Plan.IsAbout, Write.channelKey],
        Or.inl ⟨hSent, by simp [hState], by simp⟩⟩
  | false =>
      have hSent := hasInFlight_eq_false_iff.mp hFlight
      exact ⟨by simp [Plan.IsAbout, Write.channelKey],
        Or.inr ⟨hSent, by simp, by simp⟩⟩

/- An end that is done flushing changes its state only. -/
theorem records_completePlan
    (h : Host)
    (key : ChannelKey)
    (c : ChannelEnd) :
    (completePlan key c).IsAbout key ∧
      (h.applyAll (completePlan key c).writes).records key =
        { h.records key with
          channel := { c with state := .flushComplete } } :=
  ⟨by simp [Plan.IsAbout, completePlan, Write.channelKey],
    by simp [completePlan]⟩

/- An end that opens takes the fields of its upgrade. -/
theorem records_openPlan
    {key : ChannelKey}
    {p : Plan Event}
    (hPlan : openPlan key h = .ok p) :
    p.IsAbout key ∧
      ∃ u, (h.records key).upgrade? = some u ∧
        (h.applyAll p.writes).records key =
          (h.records key).opened u := by
  simp only [openPlan, bind_eq_ok, required_eq_ok,
    channelEnd_eq_ok, upgrade_eq_ok, pure_eq_ok] at hPlan
  rcases hPlan with ⟨c, hChannel, u, hUpgrade, rfl⟩
  refine ⟨?_, u, hUpgrade, ?_⟩
  · simp [Plan.IsAbout, dropProposals, Write.channelKey]
  · simp [dropProposals, Records.opened,
      records_channel hChannel]

end Host

end Interchain

------------------------------------------------------------
-- Plans That Go Back
------------------------------------------------------------

namespace Interchain

namespace Host

variable {h : Host}

/- An end is restored at a sequence, without proposals. -/
theorem restorePlan_eq_ok
    {key : ChannelKey}
    {sequence : Sequence}
    {p : Plan ChannelEnd}
    (hPlan : restorePlan key sequence h = .ok p) :
    ∃ c, h.channels[key]? = some c ∧
      p = ⟨.channel key (c.restored sequence) ::
        dropProposals key, c.restored sequence⟩ := by
  simp only [restorePlan, bind_eq_ok, required_eq_ok,
    channelEnd_eq_ok, pure_eq_ok] at hPlan
  rcases hPlan with ⟨c, hChannel, rfl⟩
  exact ⟨c, hChannel, rfl⟩

/- Giving up leaves a receipt for the error. -/
theorem records_abortPlan
    {key : ChannelKey}
    {reason : AbortReason}
    {p : Plan (EventReport ErrorReceipt)}
    (hPlan : abortPlan key reason h = .ok p) :
    p.IsAbout key ∧
      (h.records key).upgrade?.isSome ∧
      ∃ error,
        error = reason.error (h.records key).channel ∧
        (h.applyAll p.writes).records key =
          (h.records key).restored
            (max (h.records key).channel.upgradeSequence
              error.sequence)
            error.receipt := by
  simp only [abortPlan, bind_eq_ok, required_eq_ok,
    channelEnd_eq_ok, upgrade_eq_ok, pure_eq_ok] at hPlan
  rcases hPlan with
    ⟨u, hUpgrade, c, hChannel, restoring, hRestore, rfl⟩
  rcases restorePlan_eq_ok hRestore with ⟨c', hChannel', rfl⟩
  rw [hChannel, Option.some.injEq] at hChannel'
  subst hChannel'
  refine ⟨?_, ?_, reason.error c, ?_, ?_⟩
  · simp [Plan.IsAbout, dropProposals, Write.channelKey]
  · simp [records, hUpgrade]
  · rw [records_channel hChannel]
  · simp [dropProposals, Records.restored,
      records_channel hChannel]

/- Cancelling keeps the receipt that was given. -/
theorem records_cancelPlan
    {step : CancelStep}
    {p : Plan Event}
    (hPlan : cancelPlan step h = .ok p) :
    p.IsAbout step.key ∧
      (h.applyAll p.writes).records step.key =
        (h.records step.key).restored
          (max (h.records step.key).channel.upgradeSequence
            step.receipt.sequence)
          step.receipt := by
  simp only [cancelPlan, bind_eq_ok, required_eq_ok,
    channelEnd_eq_ok, upgrade_eq_ok, pure_eq_ok] at hPlan
  rcases hPlan with
    ⟨c, hChannel, u, hUpgrade, restoring, hRestore, rfl⟩
  rcases restorePlan_eq_ok hRestore with ⟨c', hChannel', rfl⟩
  rw [hChannel, Option.some.injEq] at hChannel'
  subst hChannel'
  refine ⟨?_, ?_⟩
  · simp [Plan.IsAbout, dropProposals, Write.channelKey]
  · simp [dropProposals, Records.restored,
      records_channel hChannel]

/- A timeout leaves a receipt for the attempt. -/
theorem records_timeoutPlan
    {step : TimeoutStep}
    {p : Plan Event}
    (hPlan : timeoutPlan step h = .ok p) :
    p.IsAbout step.key ∧
      ∃ error : UpgradeError,
        error.sequence =
          (h.records step.key).channel.upgradeSequence ∧
        (h.applyAll p.writes).records step.key =
          (h.records step.key).restored error.sequence
            error.receipt := by
  simp only [timeoutPlan, bind_eq_ok, required_eq_ok,
    channelEnd_eq_ok, upgrade_eq_ok, pure_eq_ok] at hPlan
  rcases hPlan with
    ⟨c, hChannel, u, hUpgrade, restoring, hRestore, rfl⟩
  rcases restorePlan_eq_ok hRestore with ⟨c', hChannel', rfl⟩
  rw [hChannel, Option.some.injEq] at hChannel'
  subst hChannel'
  refine ⟨?_,
    ⟨c.upgradeSequence, .timeoutElapsed step.timeout⟩, ?_, ?_⟩
  · simp [Plan.IsAbout, dropProposals, Write.channelKey]
  · rw [records_channel hChannel]
  · simp [dropProposals, Records.restored,
      records_channel hChannel]

end Host

end Interchain
