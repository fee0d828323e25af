import Interchain.Proofs.Handshake.Atomicity

/-
  Messages that give an attempt up.

  A message whose step fails for the attempt, and that is valid
  in itself, is answered by giving the attempt up: the answer
  holds the receipt for the error, and the records are those of
  an end that was restored.

  Main declarations:
    * `Records.givenUp`
    * `IsStaleAnswer`

  Main statements:
    * `Host.dispatch_of_ends`
    * `Host.ends_of_behind`
-/

------------------------------------------------------------
-- Records
------------------------------------------------------------

namespace Interchain

/- The records once an attempt is given up for an error. -/
def Records.givenUp
    (r : Records)
    (error : UpgradeError) :
    Records :=
  r.restored (max r.channel.upgradeSequence error.sequence)
    error.receipt

end Interchain

------------------------------------------------------------
-- Plans That Can Be Made
------------------------------------------------------------

namespace Interchain

namespace Host

variable {h before : Host}

/- Once a step failed for the attempt, there is an attempt to
   give up. -/
theorem Ends.exists_abortPlan
    {m : UpgradeMessage}
    {error : UpgradeError}
    {events : List Event}
    (hEnds : h.Ends m error events before) :
    ∃ p, abortPlan m.key (.step error) before = .ok p := by
  cases hEnds with
  | @attempt m error hStaged hEnded =>
      rcases verified_of_processTry (not_isRefused_ended hEnded)
        with ⟨c, u, hAnswered, _⟩
      simp [answered] at hAnswered
      exact Host.exists_abortPlan _ hAnswered.1 hAnswered.2
  | @staged m error step p hStaged hEnded hPlan =>
      rcases key_of_stageAnswer hStaged with ⟨hKey, hOpen⟩
      have hRecords := (records_stepPlan hPlan).2
      rw [hKey] at hRecords
      have hState :
          ((h.applyAll p.writes).records m.key).channel.state ≠
            .uninitialized := by
        rw [hRecords]
        simp [hOpen]
      exact Host.exists_abortPlan _
        (channels_eq_of_state_ne hState)
        (congrArg Records.upgrade? hRecords)
  | @ack m error hEnded =>
      rcases verified_of_processAck (not_isRefused_ended hEnded)
        with ⟨c, u, hChannel, hUpgrade, _⟩
      exact Host.exists_abortPlan _ hChannel hUpgrade
  | @confirm m error hEnded =>
      rcases
          verified_of_processConfirm (not_isRefused_ended hEnded)
        with ⟨c, u, hChannel, hUpgrade, _⟩
      exact Host.exists_abortPlan _ hChannel hUpgrade

end Host

end Interchain

------------------------------------------------------------
-- Giving Up
------------------------------------------------------------

namespace Interchain

namespace Session

variable {s : Session}

/- An attempt is given up with its receipt for an answer. -/
theorem giveUp_of_ok
    {key : ChannelKey}
    {error : UpgradeError}
    {p : Plan (EventReport ErrorReceipt)}
    (before : List Event)
    (hRefused : s.refused = none)
    (hPlan : abortPlan key (.step error) s.host = .ok p) :
    (∃ report,
        (s.giveUp key error before).1 = .ok report ∧
          report.result = .aborted error.receipt) ∧
      (s.giveUp key error before).2.host.records key =
        (s.host.records key).givenUp error := by
  rcases carryOut_of_ok id hRefused hPlan with
    ⟨next, hCarried, hHost, _⟩
  rcases Host.records_abortPlan hPlan with
    ⟨_, _, reported, hReported, hRecords⟩
  have hReported : reported = error := hReported
  have hResult := Host.result_abortPlan hPlan
  rw [giveUp, hCarried]
  refine ⟨⟨_, rfl, congrArg UpgradeOutcome.aborted hResult⟩, ?_⟩
  simp only [hHost]
  rw [hRecords, hReported]
  rfl

/- Giving up makes the writes of its plan. -/
theorem host_giveUp
    {key : ChannelKey}
    {error : UpgradeError}
    {p : Plan (EventReport ErrorReceipt)}
    (before : List Event)
    (hRefused : s.refused = none)
    (hPlan : abortPlan key (.step error) s.host = .ok p) :
    (s.giveUp key error before).2.host =
      s.host.applyAll p.writes := by
  rcases carryOut_of_ok id hRefused hPlan with
    ⟨next, hCarried, hHost, _⟩
  rw [giveUp, hCarried]
  exact hHost

end Session

namespace Host

variable {h before : Host}

/- How a message whose step failed for the attempt is
   handled. -/
theorem Ends.dispatchValid
    {m : UpgradeMessage}
    {error : UpgradeError}
    {events : List Event}
    (hEnds : h.Ends m error events before) :
    ∃ s : Session,
      s.refused = none ∧ s.host = before ∧
        (Session.start h).dispatchValid m =
          s.giveUp m.key error events := by
  cases hEnds with
  | @attempt m error hStaged hEnded =>
      refine ⟨.start h, rfl, rfl, ?_⟩
      simp only [Session.dispatchValid, Session.dispatchTry,
        Session.start, hStaged, hEnded, Session.giveUpStaged]
      rfl
  | @staged m error step p hStaged hEnded hPlan =>
      rcases Session.carryOut_of_ok id (s := .start h) rfl hPlan
        with ⟨next, hCarried, hHost, hFree⟩
      refine ⟨next, hFree, hHost, ?_⟩
      simp only [Session.dispatchValid, Session.dispatchTry,
        Session.start, hStaged, hEnded, Session.giveUpStaged]
      rw [Session.start] at hCarried
      rw [hCarried]
      rfl
  | @ack m error hEnded =>
      refine ⟨.start h, rfl, rfl, ?_⟩
      simp only [Session.dispatchValid, Session.dispatchAck,
        Session.start, hEnded]
      rfl
  | @confirm m error hEnded =>
      refine ⟨.start h, rfl, rfl, ?_⟩
      simp only [Session.dispatchValid, Session.dispatchConfirm,
        Session.start, hEnded]
      rfl

/- A message whose step fails for the attempt gives the attempt
   up. -/
theorem dispatch_of_ends
    {m : UpgradeMessage}
    {error : UpgradeError}
    {events : List Event}
    (hValid : m.validate = .ok ())
    (hEnds : h.Ends m error events before) :
    (∃ report,
        (h.dispatch m).1 = .ok report ∧
          report.result = .aborted error.receipt) ∧
      (h.dispatch m).2.records m.key =
        (before.records m.key).givenUp error := by
  rcases hEnds.exists_abortPlan with ⟨p, hPlan⟩
  rcases hEnds.dispatchValid with ⟨s, hFree, hHost, hDispatch⟩
  rw [← hHost] at hPlan ⊢
  rw [dispatch_of_valid hValid, hDispatch]
  exact Session.giveUp_of_ok events hFree hPlan

/- A message that ends the attempt makes the same writes. -/
theorem host_dispatch_of_ends
    {m : UpgradeMessage}
    {error : UpgradeError}
    {events : List Event}
    {p : Plan (EventReport ErrorReceipt)}
    (hValid : m.validate = .ok ())
    (hEnds : h.Ends m error events before)
    (hPlan : abortPlan m.key (.step error) before = .ok p) :
    (h.dispatch m).2 = before.applyAll p.writes := by
  rcases hEnds.dispatchValid with ⟨s, hFree, hHost, hDispatch⟩
  rw [← hHost] at hPlan ⊢
  rw [dispatch_of_valid hValid, hDispatch]
  exact Session.host_giveUp events hFree hPlan

end Host

end Interchain

------------------------------------------------------------
-- Stale Answers
------------------------------------------------------------

namespace Interchain

/- The error of an answer whose own attempt is ahead. -/
def staleError (own theirs : Sequence) : UpgradeError :=
  ⟨own.previous, .upgradeSequence own theirs⟩

/- A message was answered by giving the attempt up, since the
   attempt of the counterparty lies behind. -/
def IsStaleAnswer
    (result : Except DispatchError (EventReport UpgradeOutcome))
    (own theirs : Sequence) : Prop :=
  ∃ report, result = .ok report ∧
    report.result = .aborted (staleError own theirs).receipt

/- A proposal that lies behind is stale. -/
theorem checkAnswered_of_lt
    {c : ChannelEnd}
    {n : Sequence}
    (isStaged : Bool)
    (hBehind : n < c.upgradeSequence) :
    checkAnswered c n isStaged =
      .error (staleError c.upgradeSequence n) := by
  rw [checkAnswered, if_pos hBehind]
  rfl

namespace Host

variable {h : Host}

/- A proposal of the counterparty that lies behind the stored
   one ends it. -/
theorem ends_of_behind
    {m : TryMessage}
    {c : ChannelEnd}
    {u : Upgrade}
    (hChannel : h.channels[m.key]? = some c)
    (hUpgrade : h.upgrades[m.key]? = some u)
    (hVerified : h.verifyProposal m c u = .ok ())
    (hBehind : m.counterpartySequence < c.upgradeSequence) :
    h.Ends (.attempt m)
      (staleError c.upgradeSequence m.counterpartySequence) []
      h := by
  have hStaged : h.stageAnswer m = .ok none := by
    simp [stageAnswer, hUpgrade]
  have hAnswered : h.answered m.key none = .ok (c, u) := by
    simp [answered, hChannel, hUpgrade]
  refine .attempt hStaged ?_
  simp only [processTry, bind_eq_error, endAttempt_eq_ended,
    refuse_eq_ok]
  exact Or.inr ⟨_, hAnswered, Or.inr ⟨(), hVerified,
    Or.inl (checkAnswered_of_lt false hBehind)⟩⟩

end Host

end Interchain
