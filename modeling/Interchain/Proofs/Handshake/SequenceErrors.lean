import Interchain.Proofs.Handshake.Answer

/-
  Errors that speak of upgrade sequences.

  An answer to a proposal is held to the counterparty's attempt
  by one check, and the error of that check gives the attempt
  up.  Everything else that an answer checks fails with other
  errors, so an answer whose attempt passes is not refused for
  an upgrade sequence at all.

  Main declarations:
    * `FailsForSequence`
    * `RefusesSequence`

  Main statements:
    * `Host.not_refusesSequence_attempt`
-/

------------------------------------------------------------
-- Failed Checks
------------------------------------------------------------

namespace Interchain

/- A check failed with an error about upgrade sequences. -/
def FailsForSequence
    {α : Type}
    (x : Except ChannelError α) : Prop :=
  ∃ own theirs, x = .error (.upgradeSequence own theirs)

section Checks

variable {α β : Type}

@[simp] theorem failsForSequence_ok (a : α) :
    ¬ FailsForSequence (.ok a) := by
  simp [FailsForSequence]

@[simp] theorem failsForSequence_pure (a : α) :
    ¬ FailsForSequence (pure a) :=
  failsForSequence_ok a

/- Only an error about sequences is one. -/
@[simp] theorem failsForSequence_error (e : ChannelError) :
    FailsForSequence (.error e : Except ChannelError α) ↔
      ∃ own theirs, e = .upgradeSequence own theirs := by
  simp [FailsForSequence]

@[simp] theorem failsForSequence_throw (e : ChannelError) :
    FailsForSequence (throw e : Except ChannelError α) ↔
      ∃ own theirs, e = .upgradeSequence own theirs :=
  failsForSequence_error e

/- A chain of checks fails where one of them does. -/
@[simp] theorem failsForSequence_bind
    {x : Except ChannelError α}
    {f : α → Except ChannelError β} :
    FailsForSequence (x >>= f) ↔
      FailsForSequence x ∨
        ∃ a, x = .ok a ∧ FailsForSequence (f a) := by
  cases x with
  | ok a => simp [FailsForSequence]
  | error e => simp [FailsForSequence]

@[simp] theorem failsForSequence_map
    {x : Except ChannelError α}
    {f : α → β} :
    FailsForSequence (f <$> x) ↔ FailsForSequence x := by
  simp [FailsForSequence]

@[simp] theorem failsForSequence_ite
    {p : Prop}
    [Decidable p]
    {x y : Except ChannelError α} :
    FailsForSequence (if p then x else y) ↔
      p ∧ FailsForSequence x ∨ ¬ p ∧ FailsForSequence y := by
  split_ifs with hCond <;> simp [hCond]

/- An error that is wrapped is one of its own. -/
theorem failsForSequence_wrapError
    {ε : Type}
    {wrap : ε → ChannelError}
    (x : Except ε α)
    (hWrap : ∀ e own theirs, wrap e ≠ .upgradeSequence own theirs) :
    ¬ FailsForSequence (wrapError wrap x) := by
  cases x with
  | ok a => simp [wrapError]
  | error e => simp [wrapError, hWrap e]

end Checks

end Interchain

------------------------------------------------------------
-- Checks of an Answer
------------------------------------------------------------

namespace Interchain

/- No fields are invalid for a sequence. -/
theorem UpgradeFields.not_failsForSequence (f : UpgradeFields) :
    ¬ FailsForSequence f.validate := by
  simp [UpgradeFields.validate]

theorem TryMessage.not_failsForSequence (m : TryMessage) :
    ¬ FailsForSequence m.validate := by
  have hTimeout :
      ¬ FailsForSequence
        (validateOptionalTimeout m.counterpartyTimeout) := by
    unfold validateOptionalTimeout
    split <;> simp [UpgradeTimeout.validate]
  simp [TryMessage.validate, hTimeout,
    m.counterpartyFields.not_failsForSequence]

theorem ConnectionEnd.not_failsForSequence
    (connection : ConnectionEnd)
    (id : ConnectionId) :
    ¬ FailsForSequence (connection.peerConnection id) := by
  unfold ConnectionEnd.peerConnection
  split <;> simp

theorem ChannelEnd.not_failsForSequence (c : ChannelEnd) :
    ¬ FailsForSequence c.peerKey := by
  unfold ChannelEnd.peerKey
  split <;> simp

namespace Host

variable {h : Host}

theorem not_failsForSequence_channelEnd (key : ChannelKey) :
    ¬ FailsForSequence (h.channelEnd key) := by
  unfold channelEnd
  split <;> simp

theorem not_failsForSequence_upgrade (key : ChannelKey) :
    ¬ FailsForSequence (h.upgrade key) := by
  unfold upgrade
  split <;> simp

theorem not_failsForSequence_openConnection (c : ChannelEnd) :
    ¬ FailsForSequence (h.openConnection c) := by
  unfold openConnection
  cases c.hop? with
  | none => simp
  | some id =>
      cases hFound : h.connections[id]? <;>
        simp [connectionEnd, hFound]

/- No proposal is refused for a sequence. -/
theorem not_failsForSequence_propose
    (key : ChannelKey)
    (c : ChannelEnd)
    (fields : UpgradeFields)
    (timeout : Option UpgradeTimeout) :
    ¬ FailsForSequence (h.propose key c fields timeout) := by
  have hSupport : ¬ FailsForSequence (h.checkSupport fields) := by
    unfold checkSupport
    cases fields.hop? with
    | none => simp
    | some id =>
        cases hFound : h.connections[id]? with
        | none => simp [connectionEnd, hFound]
        | some connection =>
            simp only [connectionEnd, hFound]
            split_ifs
            · simp
            · split <;> simp
  have hFields := fields.not_failsForSequence
  simp [propose, checkProposal, hFields, hSupport]

theorem not_failsForSequence_checkCompatible
    (own counterparty : UpgradeFields) :
    ¬ FailsForSequence (h.checkCompatible own counterparty) := by
  have hHops : ¬ FailsForSequence (h.checkHops own counterparty) := by
    unfold checkHops
    cases own.hop? with
    | none => simp
    | some id =>
        cases hFound : h.connections[id]? <;>
          simp [connectionEnd, hFound]
  simp [checkCompatible, hHops]

/- The proofs of the counterparty fail with errors of the light
   client. -/
theorem not_failsForSequence_counterpartyClient
    (connection : ConnectionEnd)
    (height : Height) :
    ¬ FailsForSequence
      (h.counterpartyClient connection height) := by
  have hState :
      ¬ FailsForSequence
        (h.consensusState connection.client height) := by
    unfold consensusState
    split <;> simp
  simp [counterpartyClient, failsForSequence_wrapError, hState]

theorem not_failsForSequence_verifyProposal
    (m : TryMessage)
    (c : ChannelEnd)
    (u : Upgrade) :
    ¬ FailsForSequence (h.verifyProposal m c u) := by
  simp [verifyProposal, verifyChannel, verifyUpgrade,
    not_failsForSequence_openConnection,
    not_failsForSequence_checkCompatible,
    not_failsForSequence_counterpartyClient,
    ConnectionEnd.not_failsForSequence,
    ChannelEnd.not_failsForSequence, failsForSequence_wrapError]

theorem not_failsForSequence_startFlushing
    (key : ChannelKey)
    (c : ChannelEnd)
    (u : Upgrade) :
    ¬ FailsForSequence (h.startFlushing key c u) := by
  have hNext : ¬ FailsForSequence (h.nextSequence key) := by
    unfold nextSequence
    split <;> simp
  have hLatest : ¬ FailsForSequence (h.latestSent key c) := by
    simp [latestSent, not_failsForSequence_openConnection, hNext]
  have hDeadline :
      ¬ FailsForSequence
        (h.params.deadline h.height h.timestamp) := by
    unfold Params.deadline
    split <;> simp [UpgradeTimeout.make]
  unfold startFlushing flushProgress
  cases hSent : h.latestSent key c with
  | error e =>
      rw [hSent] at hLatest
      simpa using hLatest
  | ok latest =>
      cases hTime : h.params.deadline h.height h.timestamp with
      | error e =>
          rw [hTime] at hDeadline
          simpa using hDeadline
      | ok timeout => simp

end Host

end Interchain

------------------------------------------------------------
-- Answers That Pass
------------------------------------------------------------

namespace Interchain

/- An answer to a proposal was rejected with an error about
   upgrade sequences, or the attempt was given up; an answer is
   given up for nothing else. -/
def RefusesSequence
    (result :
      Except DispatchError (EventReport UpgradeOutcome)) : Prop :=
  (∃ own theirs,
      result = .error (.rejected (.upgradeSequence own theirs))) ∨
    ∃ report receipt,
      result = .ok report ∧ report.result = .aborted receipt

/- A failed check that refuses its step. -/
theorem failsForSequence_of_refuse
    {α : Type}
    {x : Except ChannelError α}
    {own theirs : Sequence}
    (hError :
      refuse x = .error (.refused (.upgradeSequence own theirs))) :
    FailsForSequence x := by
  cases x with
  | ok a => simp [refuse] at hError
  | error e =>
      simp only [refuse, Except.error.injEq,
        StepError.refused.injEq] at hError
      exact ⟨own, theirs, by rw [hError]⟩

/- What ends an attempt is no refusal. -/
theorem endAttempt_ne_refused
    {α : Type}
    {x : Except UpgradeError α}
    {cause : ChannelError} :
    endAttempt x ≠ .error (.refused cause) := by
  cases x <;> simp [endAttempt]

namespace Host

variable {h : Host} {m : TryMessage}

theorem not_failsForSequence_stageAnswer (m : TryMessage) :
    ¬ FailsForSequence (h.stageAnswer m) := by
  simp [stageAnswer, not_failsForSequence_channelEnd,
    not_failsForSequence_propose]

theorem not_failsForSequence_answered
    (key : ChannelKey)
    (staged : Option UpgradeStep) :
    ¬ FailsForSequence (h.answered key staged) := by
  cases staged with
  | some step => simp [answered]
  | none =>
      simp [answered, not_failsForSequence_channelEnd,
        not_failsForSequence_upgrade]

/- The step of an answer is never refused for a sequence; it
   would end the attempt. -/
theorem processTry_ne_refused
    (m : TryMessage)
    (staged : Option UpgradeStep)
    (own theirs : Sequence) :
    h.processTry m staged ≠
      .error (.refused (.upgradeSequence own theirs)) := by
  intro hRefused
  simp only [processTry, bind_eq_error] at hRefused
  rcases hRefused with hFirst | ⟨⟨c, u⟩, _, hRefused⟩
  · exact not_failsForSequence_answered _ _
      (failsForSequence_of_refuse hFirst)
  rcases hRefused with hSecond | ⟨_, _, hRefused⟩
  · exact not_failsForSequence_verifyProposal _ _ _
      (failsForSequence_of_refuse hSecond)
  rcases hRefused with hEnded | ⟨_, _, hRefused⟩
  · exact endAttempt_ne_refused hEnded
  rcases hRefused with hFlush | ⟨_, _, hRefused⟩
  · exact not_failsForSequence_startFlushing _ _ _
      (failsForSequence_of_refuse hFlush)
  · simp [pure, Except.pure] at hRefused

/- An answer that ends the attempt has compared sequences. -/
theorem processTry_ne_ended
    {c : ChannelEnd}
    {u : Upgrade}
    {staged : Option UpgradeStep}
    (hAnswered : h.answered m.key staged = .ok (c, u))
    (hPasses :
      checkAnswered c m.counterpartySequence staged.isSome =
        .ok ())
    (error : UpgradeError) :
    h.processTry m staged ≠ .error (.ended error) := by
  intro hEnded
  simp [processTry, hAnswered, hPasses, endAttempt] at hEnded

/- What an answer stages is not ahead of the counterparty, if it
   was not past it before. -/
theorem checkAnswered_of_stageAnswer
    {c : ChannelEnd}
    {staged : Option UpgradeStep}
    (hNone : h.upgrades[m.key]? = none)
    (hChannel : h.channels[m.key]? = some c)
    (hPasses :
      (c.caughtUp m.counterpartySequence).upgradeSequence.next ≤
        m.counterpartySequence)
    (hStaged : h.stageAnswer m = .ok staged) :
    ∃ own u,
      h.answered m.key staged = .ok (own, u) ∧
        checkAnswered own m.counterpartySequence staged.isSome =
          .ok () := by
  rcases stageAnswer_eq_ok hStaged with
    ⟨_, hSome⟩ | ⟨found, step, rfl, _, hFound, hPropose⟩
  · rw [hNone] at hSome
    simp at hSome
  · rw [hChannel, Option.some.injEq] at hFound
    rcases propose_eq_ok hPropose with ⟨_, _, _, rfl⟩
    rw [← hFound]
    refine ⟨_, _, rfl, ?_⟩
    rw [checkAnswered, if_neg (not_lt.mpr hPasses)]
    rfl

/- An answer is rejected before it is written: by itself, as it
   is staged, or by its step. -/
theorem rejected_attempt
    {cause : ChannelError}
    (hRejected :
      (h.dispatch (.attempt m)).1 = .error (.rejected cause)) :
    m.validate = .error cause ∨
      h.stageAnswer m = .error cause ∨
      ∃ staged,
        h.processTry m staged = .error (.refused cause) := by
  cases hValid : m.validate with
  | error e =>
      rw [dispatch_of_invalid (m := .attempt m) hValid,
        Except.error.injEq, DispatchError.rejected.injEq]
        at hRejected
      rw [hRejected]
      exact Or.inl rfl
  | ok =>
      rw [dispatch_of_valid (m := .attempt m) hValid,
        Session.dispatchValid, Session.dispatchTry] at hRejected
      refine Or.inr ?_
      split at hRejected
      case h_1 e hStaged =>
        simp only [Except.error.injEq,
          DispatchError.rejected.injEq] at hRejected
        rw [← hRejected]
        exact Or.inl hStaged
      case h_2 staged hStaged =>
        refine Or.inr ⟨staged, ?_⟩
        split at hRejected
        case h_1 report hOk =>
          rw [Session.conclude] at hRejected
          split at hRejected <;> simp at hRejected
        case h_2 e hRefused =>
          simp only [Except.error.injEq,
            DispatchError.rejected.injEq] at hRejected
          rw [← hRejected]
          exact hRefused
        case h_3 error hEnded =>
          cases staged with
          | none =>
              rw [Session.giveUpStaged, Session.giveUp]
                at hRejected
              split at hRejected <;> simp at hRejected
          | some step =>
              rw [Session.giveUpStaged] at hRejected
              split at hRejected
              · rw [Session.giveUp] at hRejected
                split at hRejected <;> simp at hRejected
              · simp at hRejected

/- An answer that is staged is told nothing of sequences if the
   attempt that it makes is not past the counterparty's. -/
theorem not_refusesSequence_attempt
    {c : ChannelEnd}
    (hNone : h.upgrades[m.key]? = none)
    (hChannel : h.channels[m.key]? = some c)
    (hPasses :
      (c.caughtUp m.counterpartySequence).upgradeSequence.next ≤
        m.counterpartySequence) :
    ¬ RefusesSequence (h.dispatch (.attempt m)).1 := by
  rintro (⟨own, theirs, hRejected⟩ | ⟨report, receipt, hOk, hAborted⟩)
  · rcases rejected_attempt hRejected with
      hInvalid | hUnstaged | ⟨staged, hRefused⟩
    · exact m.not_failsForSequence ⟨own, theirs, hInvalid⟩
    · exact not_failsForSequence_stageAnswer m
        ⟨own, theirs, hUnstaged⟩
    · exact processTry_ne_refused m staged own theirs hRefused
  · have hAnswers := h.answers_dispatch (.attempt m)
    rw [hOk] at hAnswers
    have hEnds :
        ∃ error events before,
          h.Ends (.attempt m) error events before := by
      generalize (h.dispatch (.attempt m)).2 = after at hAnswers
      cases hAnswers with
      | taken _ _ => simp at hAborted
      | givenUp hEnds _ => exact ⟨_, _, _, hEnds⟩
    rcases hEnds with ⟨error, events, before, hEnds⟩
    cases hEnds with
    | attempt hStaged hEnded =>
        rcases
            checkAnswered_of_stageAnswer hNone hChannel hPasses
              hStaged with
          ⟨own, u, hAnswered, hAgrees⟩
        exact processTry_ne_ended hAnswered hAgrees error hEnded
    | staged hStaged hEnded _ =>
        rcases
            checkAnswered_of_stageAnswer hNone hChannel hPasses
              hStaged with
          ⟨own, u, hAnswered, hAgrees⟩
        exact processTry_ne_ended hAnswered hAgrees error hEnded

end Host

end Interchain
