import Interchain.Proofs.Handshake.Locality
import Interchain.Proofs.Handshake.Lockstep

/-
  An answer is a proposal and then an answer.

  An end without a proposal answers the counterparty by staging
  one.  The same could be done in two messages: the end, raised
  to the attempt before the counterparty's, proposes what it
  would stage, and is then asked to answer.  Both ways are
  rejected together, and otherwise they come to one outcome on
  one chain.

  Main declarations:
    * `UpgradeStep.stored`
    * `Host.raised`
    * `Host.proposeFor`
    * `Rejects`, `SettleAlike`

  Main statements:
    * `Host.processTry_stored`
    * `Host.answer_is_propose_then_answer`
-/

------------------------------------------------------------
-- Two Ways
------------------------------------------------------------

namespace Interchain

/- A message was rejected. -/
def Rejects
    (result :
      Except DispatchError (EventReport UpgradeOutcome)) : Prop :=
  ∃ cause, result = .error (.rejected cause)

/- Two messages came to one outcome, with one receipt if it has
   one, and left one chain. -/
def SettleAlike
    (a b :
      Except DispatchError (EventReport UpgradeOutcome) × Host) :
    Prop :=
  ∃ first second,
    a.1 = .ok first ∧
      b.1 = .ok second ∧
      first.result = second.result ∧
      a.2 = b.2

/- What succeeds is not rejected. -/
theorem not_rejects_of_ok
    {result : Except DispatchError (EventReport UpgradeOutcome)}
    {report : EventReport UpgradeOutcome}
    (hOk : result = .ok report) :
    ¬ Rejects result := by
  rintro ⟨cause, hRejected⟩
  simp [hOk] at hRejected

/- The message that makes the proposal which an answer would
   stage. -/
def TryMessage.proposal
    (m : TryMessage)
    (signer : Signer) :
    InitMessage :=
  ⟨m.key, m.fields, none, signer⟩

namespace Host

/- The chain with the upgrade sequence of an end raised to a
   sequence, if that is higher. -/
def raised
    (h : Host)
    (key : ChannelKey)
    (n : Sequence) :
    Host :=
  match h.channels[key]? with
  | none => h
  | some c =>
      h.apply
        (.channel key
          { c with upgradeSequence := max c.upgradeSequence n })

/- How a chain, raised to the attempt before the counterparty's,
   handles the proposal. -/
def proposeFor
    (h : Host)
    (m : TryMessage)
    (signer : Signer) :
    Except DispatchError (EventReport UpgradeOutcome) × Host :=
  (h.raised m.key m.counterpartySequence.previous).dispatch
    (.init (m.proposal signer))

end Host

end Interchain

------------------------------------------------------------
-- Stored Steps
------------------------------------------------------------

namespace Interchain

/- The chain with the end and the upgrade of a step. -/
def UpgradeStep.stored (step : UpgradeStep) (h : Host) : Host :=
  (h.apply (.channel step.key step.channel)).apply
    (.upgrade step.key step.upgrade)

namespace Host

variable {h : Host}

/- Of two ends that are stored, the second remains. -/
theorem apply_channel_channel
    (h : Host)
    (key : ChannelKey)
    (first second : ChannelEnd) :
    (h.apply (.channel key first)).apply (.channel key second) =
      h.apply (.channel key second) := by
  have hTable :
      (h.channels.insert key first).insert key second =
        h.channels.insert key second := by
    apply Std.ExtTreeMap.ext_getElem?
    intro other
    simp only [Std.ExtTreeMap.getElem?_insert]
    split <;> rfl
  simp only [apply, hTable]

theorem apply_upgrade_upgrade
    (h : Host)
    (key : ChannelKey)
    (first second : Upgrade) :
    (h.apply (.upgrade key first)).apply (.upgrade key second) =
      h.apply (.upgrade key second) := by
  have hTable :
      (h.upgrades.insert key first).insert key second =
        h.upgrades.insert key second := by
    apply Std.ExtTreeMap.ext_getElem?
    intro other
    simp only [Std.ExtTreeMap.getElem?_insert]
    split <;> rfl
  simp only [apply, hTable]

/- A step replaces one for the same channel. -/
theorem stored_stored
    (h : Host)
    {first second : UpgradeStep}
    (hKey : first.key = second.key) :
    second.stored (first.stored h) = second.stored h := by
  have hChannel :=
    h.apply_channel_channel second.key first.channel
      second.channel
  have hUpgrade :=
    (h.apply (.channel second.key
      second.channel)).apply_upgrade_upgrade second.key
        first.upgrade second.upgrade
  rw [← hChannel] at hUpgrade
  rw [UpgradeStep.stored, UpgradeStep.stored,
    UpgradeStep.stored, hKey, ← hChannel]
  exact hUpgrade

/- Raising an end makes no difference to a step. -/
theorem stored_raised
    (h : Host)
    (step : UpgradeStep)
    (n : Sequence) :
    step.stored (h.raised step.key n) = step.stored h := by
  unfold raised
  split
  case h_1 => rfl
  case h_2 c _ =>
    rw [UpgradeStep.stored, apply_channel_channel]
    rfl

/- An end is raised in the same setting. -/
theorem hasSameSetting_raised
    (h : Host)
    (key : ChannelKey)
    (n : Sequence) :
    (h.raised key n).HasSameSetting h := by
  unfold raised
  split
  case h_1 => exact .refl h
  case h_2 c _ => exact h.hasSameSetting_apply _

/- A plan that stores a step leads to the chain with it. -/
theorem applyAll_stepPlan
    {tell : UpgradeAttributes → Event}
    {step : UpgradeStep}
    {p : Plan Event}
    (hPlan : stepPlan tell step h = .ok p) :
    h.applyAll p.writes = step.stored h := by
  simp only [stepPlan, bind_eq_ok, pure_eq_ok] at hPlan
  rcases hPlan with ⟨_, _, rfl⟩
  rfl

end Host

end Interchain

------------------------------------------------------------
-- Catching Up
------------------------------------------------------------

namespace Interchain

/- A staged answer counts up from the attempt before the
   counterparty's, or from its own if that is later. -/
theorem ChannelEnd.caughtUp_eq_max
    (c : ChannelEnd)
    (counterparty : Sequence) :
    c.caughtUp counterparty =
      { c with
        upgradeSequence :=
          max c.upgradeSequence counterparty.previous } := by
  unfold caughtUp
  split
  case isTrue hBehind =>
    rw [max_eq_right (Sequence.le_previous_of_lt hBehind)]
  case isFalse hAhead =>
    rw [max_eq_left
      (counterparty.previous_le.trans (not_lt.mp hAhead))]

/- What was staged needs no comparison with the counterparty's
   attempt but for being ahead of it. -/
theorem checkAnswered_stored
    {c : ChannelEnd}
    {counterparty : Sequence}
    (hNext :
      c.upgradeSequence ≤ counterparty →
        c.upgradeSequence = counterparty) :
    checkAnswered c counterparty false =
      checkAnswered c counterparty true := by
  by_cases hAhead : counterparty < c.upgradeSequence
  · rw [checkAnswered, if_pos hAhead, checkAnswered,
      if_pos hAhead]
  · rw [checkAnswered, if_neg hAhead, checkAnswered,
      if_neg hAhead]
    exact checkSequence_eq_ok_iff.mpr (hNext (not_lt.mp hAhead))

namespace Host

variable {h : Host} {m : TryMessage} {step : UpgradeStep}

theorem channels_raised
    {key : ChannelKey}
    {c : ChannelEnd}
    (hChannel : h.channels[key]? = some c)
    (n : Sequence) :
    (h.raised key n).channels[key]? =
      some
        { c with
          upgradeSequence := max c.upgradeSequence n } := by
  simp [raised, hChannel, apply]

/- The checks of an answer pass, end the attempt or refuse it
   the same whether its proposal was staged or stored. -/
theorem processTry_stored
    (hStaged : h.stageAnswer m = .ok (some step)) :
    (step.stored h).processTry m none =
      h.processTry m (some step) := by
  rcases stageAnswer_eq_ok hStaged with
    ⟨hNone, _⟩ | ⟨c, other, hSome, _, _, hPropose⟩
  · simp at hNone
  cases hSome
  rcases caughtUp_eq c m.counterpartySequence with
    ⟨last, _, hCaught, hNext⟩
  rcases propose_eq_ok hPropose with ⟨_, _, _, rfl⟩
  rw [hCaught]
  generalize hStep :
    (⟨m.key,
      { c with upgradeSequence := last.next },
      ⟨m.fields, none, .zero⟩⟩ : UpgradeStep) = step
  have hKey : step.key = m.key := by rw [← hStep]
  have hAnswered :
      (step.stored h).answered m.key none =
        h.answered m.key (some step) := by
    simp [answered, UpgradeStep.stored, apply, channelEnd,
      upgrade, hKey, bind, Except.bind, pure, Except.pure]
  have hPasses :
      checkAnswered step.channel m.counterpartySequence false =
        checkAnswered step.channel m.counterpartySequence
          true := by
    rw [← hStep]
    exact checkAnswered_stored hNext
  -- No other check reads the end or the upgrade that is stored.
  unfold processTry
  rw [hAnswered]
  simp only [answered, refuse, bind, Except.bind,
    Option.isSome_none, Option.isSome_some, hPasses]
  rfl

end Host

end Interchain

------------------------------------------------------------
-- Proposing First
------------------------------------------------------------

namespace Interchain

namespace Host

variable {h : Host} {m : TryMessage} {step : UpgradeStep}

/- What an answer stages can be proposed first. -/
theorem proposeFor_of_stageAnswer
    (signer : Signer)
    (hStaged : h.stageAnswer m = .ok (some step)) :
    Succeeds (h.proposeFor m signer).1 ∧
      (h.proposeFor m signer).2 = step.stored h := by
  rcases stageAnswer_eq_ok hStaged with
    ⟨hNone, _⟩ | ⟨c, other, hSome, _, hChannel, hPropose⟩
  · simp at hNone
  cases hSome
  rcases key_of_stageAnswer hStaged with ⟨hKey, _⟩
  have hRaised :=
    channels_raised hChannel m.counterpartySequence.previous
  rw [← c.caughtUp_eq_max] at hRaised
  rw [← (h.hasSameSetting_raised m.key
    m.counterpartySequence.previous).propose] at hPropose
  generalize hStart :
    h.raised m.key m.counterpartySequence.previous = start at *
  rcases propose_eq_ok hPropose with ⟨_, hFields, _, _⟩
  have hValid : (m.proposal signer).validate = .ok () := by
    simp [InitMessage.validate, TryMessage.proposal, hFields,
      validateOptionalTimeout]
  have hOk :
      ∃ report, start.processInit (m.proposal signer) =
          .ok report ∧
        report.result = step := by
    simp [processInit, TryMessage.proposal, hRaised, hPropose]
  rcases hOk with ⟨report, hOk, hResult⟩
  rcases
      exists_stepPlan .upgradeInit step
        (by rw [hKey]; exact hRaised) with
    ⟨p, hPlan⟩
  have hMade : proposalPlan report.result start = .ok p := by
    rw [hResult]
    exact hPlan
  have hDone :=
    host_dispatch_of_conclude (m := .init (m.proposal signer))
      hValid
      (Session.take_of_ok (s := .start start) hOk proposalPlan)
      hMade
  rw [proposeFor, hStart]
  refine ⟨hDone.1, hDone.2.trans ?_⟩
  rw [← stored_raised h step m.counterpartySequence.previous,
    hKey, hStart]
  exact applyAll_stepPlan hPlan

/- An answer stages what could be proposed first. -/
theorem stageAnswer_of_proposeFor
    {signer : Signer}
    (hNone : h.upgrades[m.key]? = none)
    (hSucceeds : Succeeds (h.proposeFor m signer).1) :
    ∃ step, h.stageAnswer m = .ok (some step) := by
  rcases (answers_dispatch _ _).takes_of_succeeds hSucceeds with
    ⟨events, hTakes⟩
  revert hTakes
  generalize Prod.snd _ = after
  intro hTakes
  cases hTakes with
  | @init _ report p hOk hPlan =>
      rcases processInit_eq_ok hOk with
        ⟨own, hRaised, hPropose⟩
      have hKey : (m.proposal signer).key = m.key := rfl
      rw [hKey] at hRaised hPropose
      cases hChannel : h.channels[m.key]? with
      | none => simp [raised, hChannel] at hRaised
      | some c =>
          rw [channels_raised hChannel, ← c.caughtUp_eq_max,
            Option.some.injEq] at hRaised
          rw [(h.hasSameSetting_raised m.key
            m.counterpartySequence.previous).propose,
            ← hRaised] at hPropose
          have hPropose :
              h.propose m.key
                (c.caughtUp m.counterpartySequence) m.fields
                none = .ok report.result :=
            hPropose
          exact ⟨report.result,
            by simp [stageAnswer, hNone, hChannel, hPropose]⟩

end Host

end Interchain

------------------------------------------------------------
-- Answering
------------------------------------------------------------

namespace Interchain

namespace Host

variable {h : Host} {m : TryMessage}

/- An answer whose step is refused is rejected. -/
theorem rejects_of_refused
    {staged : Option UpgradeStep}
    {cause : ChannelError}
    (hValid : m.validate = .ok ())
    (hStaged : h.stageAnswer m = .ok staged)
    (hRefused :
      h.processTry m staged = .error (.refused cause)) :
    Rejects (h.dispatch (.attempt m)).1 := by
  refine ⟨cause, ?_⟩
  rw [dispatch_of_valid (m := .attempt m) hValid,
    Session.dispatchValid]
  simp only [Session.dispatchTry, Session.start, hStaged,
    hRefused]

/- An answer whose step is taken leads to the chain with it. -/
theorem host_dispatch_attempt
    {staged : Option UpgradeStep}
    {report : EventReport UpgradeStep}
    (hValid : m.validate = .ok ())
    (hStaged : h.stageAnswer m = .ok staged)
    (hOk : h.processTry m staged = .ok report) :
    Succeeds (h.dispatch (.attempt m)).1 ∧
      (h.dispatch (.attempt m)).2 = report.result.stored h := by
  rcases processTry_eq_ok hOk with
    ⟨c, u, _, _, hAnswered, _⟩
  rcases answered_eq_stored hStaged hAnswered with
    ⟨found, _, hChannel, _⟩
  rw [← key_of_processTry hOk] at hChannel
  rcases exists_stepPlan .upgradeTry report.result hChannel with
    ⟨p, hPlan⟩
  have hStep :
      (Session.start h).dispatchTry m =
        (Session.start h).conclude report
          (answerPlan report.result) := by
    simp only [Session.dispatchTry, Session.start, hStaged, hOk]
  have hDone :=
    host_dispatch_of_conclude (m := .attempt m) hValid hStep hPlan
  exact ⟨hDone.1, hDone.2.trans (applyAll_stepPlan hPlan)⟩

/- An answer that ends the attempt is given up on the chain that
   holds what was staged. -/
theorem dispatch_attempt_ended
    {before : Host}
    {error : UpgradeError}
    {events : List Event}
    {p : Plan (EventReport ErrorReceipt)}
    (hValid : m.validate = .ok ())
    (hEnds : h.Ends (.attempt m) error events before)
    (hPlan : abortPlan m.key (.step error) before = .ok p) :
    ∃ report,
      (h.dispatch (.attempt m)).1 = .ok report ∧
        report.result = .aborted error.receipt ∧
        (h.dispatch (.attempt m)).2 =
          before.applyAll p.writes := by
  rcases (dispatch_of_ends (m := .attempt m) hValid hEnds).1 with
    ⟨report, hReport, hResult⟩
  exact ⟨report, hReport, hResult,
    host_dispatch_of_ends (m := .attempt m) hValid hEnds hPlan⟩

/- Once a proposal is staged, an answer on the chain without it
   and one on the chain that stores it are both rejected, or they
   settle alike. -/
theorem settleAlike_stored
    {step : UpgradeStep}
    (hStaged : h.stageAnswer m = .ok (some step)) :
    Rejects (h.dispatch (.attempt m)).1 ∧
        Rejects ((step.stored h).dispatch (.attempt m)).1 ∨
      SettleAlike (h.dispatch (.attempt m))
        ((step.stored h).dispatch (.attempt m)) := by
  rcases key_of_stageAnswer hStaged with ⟨hKey, _⟩
  have hStored : (step.stored h).stageAnswer m = .ok none := by
    simp [stageAnswer, UpgradeStep.stored, apply, hKey]
  have hSame := processTry_stored hStaged
  cases hValid : m.validate with
  | error cause =>
      rw [dispatch_of_invalid (m := .attempt m) hValid,
        dispatch_of_invalid (m := .attempt m) hValid]
      exact Or.inl ⟨⟨cause, rfl⟩, cause, rfl⟩
  | ok =>
      cases hTry : h.processTry m (some step) with
      | ok report =>
          rw [hTry] at hSame
          have hKeys : step.key = report.result.key :=
            hKey.trans (key_of_processTry hTry).symm
          rcases host_dispatch_attempt hValid hStaged hTry with
            ⟨⟨first, hFirst, hTaken⟩, hAfter⟩
          rcases host_dispatch_attempt hValid hStored hSame with
            ⟨⟨second, hSecond, hTaken'⟩, hAfter'⟩
          rw [stored_stored h hKeys] at hAfter'
          exact Or.inr ⟨first, second, hFirst, hSecond,
            hTaken.trans hTaken'.symm,
            hAfter.trans hAfter'.symm⟩
      | error error =>
          rw [hTry] at hSame
          cases error with
          | refused cause =>
              exact Or.inl
                ⟨rejects_of_refused hValid hStaged hTry,
                  rejects_of_refused hValid hStored hSame⟩
          | ended error =>
              rcases answered_eq_stored hStaged rfl with
                ⟨found, _, hChannel, _⟩
              rw [← hKey] at hChannel
              rcases exists_stepPlan .upgradeInit step hChannel
                with ⟨p, hPlan⟩
              have hEnds : h.Ends (.attempt m) error [p.outcome]
                  (step.stored h) := by
                rw [← applyAll_stepPlan hPlan]
                exact .staged hStaged hTry hPlan
              have hEndsStored :
                  (step.stored h).Ends (.attempt m) error []
                    (step.stored h) :=
                .attempt hStored hSame
              rcases hEnds.exists_abortPlan with ⟨q, hAbort⟩
              rcases dispatch_attempt_ended hValid hEnds hAbort
                with ⟨first, hFirst, hResult, hAfter⟩
              rcases
                  dispatch_attempt_ended hValid hEndsStored
                    hAbort with
                ⟨second, hSecond, hResult', hAfter'⟩
              exact Or.inr ⟨first, second, hFirst, hSecond,
                hResult.trans hResult'.symm,
                hAfter.trans hAfter'.symm⟩

end Host

end Interchain

------------------------------------------------------------
-- Both Ways
------------------------------------------------------------

namespace Interchain

namespace Host

variable {h : Host} {m : TryMessage}

/- An answer of an end without a proposal is rejected unless it
   stages one. -/
theorem stageAnswer_of_not_rejects
    (hNone : h.upgrades[m.key]? = none)
    (hNot : ¬ Rejects (h.dispatch (.attempt m)).1) :
    ∃ step, h.stageAnswer m = .ok (some step) := by
  cases hValid : m.validate with
  | error cause =>
      refine (hNot ⟨cause, ?_⟩).elim
      rw [dispatch_of_invalid (m := .attempt m) hValid]
  | ok =>
      cases hStaged : h.stageAnswer m with
      | error cause =>
          refine (hNot ⟨cause, ?_⟩).elim
          rw [dispatch_of_valid (m := .attempt m) hValid,
            Session.dispatchValid]
          simp only [Session.dispatchTry, Session.start, hStaged]
      | ok staged =>
          rcases stageAnswer_eq_ok hStaged with
            ⟨_, hSome⟩ | ⟨_, step, rfl, _⟩
          · simp [hNone] at hSome
          · exact ⟨step, rfl⟩

/-
  On any chain without a proposal for the channel, answering
  comes to the same as proposing first.  If the answer is not
  rejected, the proposal is taken, and the answer after it has
  the same outcome and leaves the same chain.  The same holds
  if the proposal is taken and the answer after it is not
  rejected.
-/
theorem answer_is_propose_then_answer
    (signer : Signer)
    (hNone : h.upgrades[m.key]? = none) :
    (¬ Rejects (h.dispatch (.attempt m)).1 →
        Succeeds (h.proposeFor m signer).1 ∧
          SettleAlike (h.dispatch (.attempt m))
            ((h.proposeFor m signer).2.dispatch
              (.attempt m))) ∧
      (Succeeds (h.proposeFor m signer).1 →
        ¬ Rejects
            ((h.proposeFor m signer).2.dispatch
              (.attempt m)).1 →
          SettleAlike (h.dispatch (.attempt m))
            ((h.proposeFor m signer).2.dispatch
              (.attempt m))) := by
  constructor
  · intro hNot
    rcases stageAnswer_of_not_rejects hNone hNot with
      ⟨step, hStaged⟩
    rcases proposeFor_of_stageAnswer signer hStaged with
      ⟨hSucceeds, hHost⟩
    refine ⟨hSucceeds, ?_⟩
    rw [hHost]
    exact (settleAlike_stored hStaged).resolve_left
      fun hBoth => hNot hBoth.1
  · intro hSucceeds hNot
    rcases stageAnswer_of_proposeFor hNone hSucceeds with
      ⟨step, hStaged⟩
    have hHost := (proposeFor_of_stageAnswer signer hStaged).2
    rw [hHost] at hNot ⊢
    exact (settleAlike_stored hStaged).resolve_left
      fun hBoth => hNot hBoth.2

end Host

end Interchain

------------------------------------------------------------
-- Sample Chains
------------------------------------------------------------

namespace Interchain

namespace Fixture

/- A answers the proposal of B, and comes to the same by
   proposing first. -/
theorem sample_answer_is_propose_then_answer :
    (toldAwaiting id).upgrades[key .left]? = none ∧
      ¬ Rejects
          ((toldAwaiting id).dispatch
            (.attempt (answerAwaiting id))).1 ∧
      Succeeds
        ((toldAwaiting id).proposeFor (answerAwaiting id)
          signer).1 ∧
      ¬ Rejects
          (((toldAwaiting id).proposeFor (answerAwaiting id)
            signer).2.dispatch (.attempt (answerAwaiting id))).1 ∧
      SettleAlike
        ((toldAwaiting id).dispatch
          (.attempt (answerAwaiting id)))
        (((toldAwaiting id).proposeFor (answerAwaiting id)
          signer).2.dispatch (.attempt (answerAwaiting id))) := by
  have hNone : (toldAwaiting id).upgrades[key .left]? = none :=
    (meets_awaiting id).own.upgrade
  have hNot :
      ¬ Rejects
          ((toldAwaiting id).dispatch
            (.attempt (answerAwaiting id))).1 := by
    rcases takes_awaiting id with ⟨report, hReport, _⟩
    exact not_rejects_of_ok hReport
  have hBoth :=
    Host.answer_is_propose_then_answer (m := answerAwaiting id)
      signer hNone
  rcases hBoth.1 hNot with ⟨hSucceeds, hAlike⟩
  have hNotStored :
      ¬ Rejects
          (((toldAwaiting id).proposeFor (answerAwaiting id)
            signer).2.dispatch (.attempt (answerAwaiting id))).1 := by
    rcases hAlike with ⟨_, second, _, hSecond, _⟩
    exact not_rejects_of_ok hSecond
  exact ⟨hNone, hNot, hSucceeds, hNotStored,
    hBoth.2 hSucceeds hNotStored⟩

end Fixture

end Interchain
