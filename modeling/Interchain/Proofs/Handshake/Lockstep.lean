import Interchain.Proofs.Handshake.Evidence
import Interchain.Proofs.Mirror.Proposal

/-
  Both ends are at one attempt.

  A message that goes forward claims which attempt the
  counterparty is at, and proves the end that is at it.  Once
  the message is taken, this end is at that attempt too.  An
  answer that stages a proposal of its own catches up with it;
  any other end has been at it before.

  Main declarations:
    * `AttemptClaim`
    * `Host.ProvesClaim`
    * `Host.InStep`

  Main statements:
    * `Host.taken_in_step`
-/

------------------------------------------------------------
-- Claims
------------------------------------------------------------

namespace Interchain

/- The attempt of the counterparty, with the proof of the end
   that is at it. -/
structure AttemptClaim where
  sequence : Sequence
  proof : CommitmentProof
  height : Height
  deriving DecidableEq

/- What a message claims of the attempt of the counterparty.  A
   first proposal and the messages that go back claim none. -/
def UpgradeMessage.claim? : UpgradeMessage → Option AttemptClaim
  | .init _ => none
  | .attempt m =>
      some ⟨m.counterpartySequence, m.channelProof,
        m.proofHeight⟩
  | .ack m =>
      some ⟨m.counterpartySequence, m.channelProof,
        m.proofHeight⟩
  | .confirm m =>
      some ⟨m.counterpartySequence, m.channelProof,
        m.proofHeight⟩
  | .reopen m =>
      some ⟨m.counterpartySequence, m.channelProof,
        m.proofHeight⟩
  | .cancel _ => none
  | .timeout _ => none

namespace Host

/- An end of the counterparty that faces this one, at the
   attempt that is claimed, was proven. -/
def ProvesClaim
    (h : Host)
    (key : ChannelKey)
    (claim : AttemptClaim) : Prop :=
  ∃ c id connection shown,
    h.RunsOver key c id connection ∧
      shown.peer = key.peer ∧
      shown.upgradeSequence = claim.sequence ∧
      h.verifyChannel c connection shown claim.proof
        claim.height = .ok ()

/- An answer without a stored proposal stages its own. -/
def Stages (h : Host) : UpgradeMessage → Prop
  | .attempt m => h.upgrades[m.key]? = none
  | _ => False

/- The end of the channel of a message is at an attempt
   afterwards.  It was not past it before, and it was at it
   unless the message stages a proposal. -/
structure InStep
    (h : Host)
    (m : UpgradeMessage)
    (n : Sequence)
    (after : Host) : Prop where
  before :
    ∃ c,
      h.channels[m.key]? = some c ∧
        c.upgradeSequence ≤ n ∧
        (¬ h.Stages m → c.upgradeSequence = n)
  after :
    ∃ c,
      after.channels[m.key]? = some c ∧
        c.upgradeSequence = n

end Host

end Interchain

------------------------------------------------------------
-- Proven Claims
------------------------------------------------------------

namespace Interchain

namespace Host

variable {h : Host} {m : UpgradeMessage}

/- A proof of an attempt proves the claim that is made with it. -/
theorem ProvesAttempt.provesClaim
    {key : ChannelKey}
    {state : ChannelState}
    {n : Sequence}
    {u : Upgrade}
    {channelProof upgradeProof : CommitmentProof}
    {height : Height}
    (hProves :
      h.ProvesAttempt key state n u channelProof upgradeProof
        height) :
    h.ProvesClaim key ⟨n, channelProof, height⟩ := by
  rcases hProves with
    ⟨c, id, connection, hop, hRuns, _, hVerified, _⟩
  exact ⟨c, id, connection, _, hRuns, rfl, rfl, hVerified⟩

/- The end that is proven before opening is at the attempt of
   the stored end, which is the one that is claimed. -/
theorem provesClaim_of_processOpen
    {m : OpenMessage}
    {report : EventReport Unit}
    (hOk : h.processOpen m = .ok report) :
    h.ProvesClaim m.key
      ⟨m.counterpartySequence, m.channelProof,
        m.proofHeight⟩ := by
  rcases processOpen_eq_ok_iff.mp ⟨report, hOk⟩ with
    ⟨c, u, id, connection, expected, hChannel, _, _,
      hConnection, hSequence, hExpected, hVerified⟩
  have hRuns := runsOver_of_openConnection hChannel hConnection
  have hShown :
      expected.peer = m.key.peer ∧
        expected.upgradeSequence = c.upgradeSequence := by
    rcases expectedBeforeOpen_eq_ok hExpected with
      ⟨_, _, rfl⟩ | ⟨_, _, _, _, _, _, rfl⟩
    · exact ⟨rfl, rfl⟩
    · exact ⟨rfl, rfl⟩
  exact ⟨c, id, connection, expected, hRuns, hShown.1,
    hShown.2.trans hSequence.symm, hVerified⟩

/- A message that is taken comes with its claim proven. -/
theorem Takes.provesClaim
    {claim : AttemptClaim}
    {events : List Event}
    {after : Host}
    (hTakes : h.Takes m events after)
    (hClaim : m.claim? = some claim) :
    h.ProvesClaim m.key claim := by
  have hEvidence := hTakes.hasEvidence
  cases hTakes with
  | init => simp [UpgradeMessage.claim?] at hClaim
  | attempt =>
      cases hClaim
      exact hEvidence.provesClaim
  | ack =>
      cases hClaim
      exact hEvidence.provesClaim
  | confirm =>
      cases hClaim
      exact hEvidence.provesClaim
  | confirmOpen =>
      cases hClaim
      exact hEvidence.provesClaim
  | reopen hOk =>
      cases hClaim
      exact provesClaim_of_processOpen hOk
  | cancel => simp [UpgradeMessage.claim?] at hClaim
  | timeout => simp [UpgradeMessage.claim?] at hClaim

end Host

end Interchain

------------------------------------------------------------
-- Attempts in Step
------------------------------------------------------------

namespace Interchain

namespace Host

variable {h after : Host}

/- The end that a taken answer builds on is at the attempt of
   the counterparty: a stored proposal is held to it, and a
   staged one, not past it, has caught up with it. -/
theorem sequence_of_answered
    {m : TryMessage}
    {staged : Option UpgradeStep}
    {c : ChannelEnd}
    {u : Upgrade}
    (hStaged : h.stageAnswer m = .ok staged)
    (hAnswered : h.answered m.key staged = .ok (c, u))
    (hPasses :
      checkAnswered c m.counterpartySequence staged.isSome =
        .ok ()) :
    c.upgradeSequence = m.counterpartySequence := by
  rcases checkAnswered_eq_ok hPasses with ⟨hLe, hStored⟩
  rcases stageAnswer_eq_ok hStaged with
    ⟨rfl, _⟩ | ⟨found, step, rfl, _, _, hPropose⟩
  · exact hStored rfl
  · rcases caughtUp_eq found m.counterpartySequence with
      ⟨last, _, hCaught, hNext⟩
    rcases propose_eq_ok hPropose with ⟨_, _, _, rfl⟩
    simp only [answered, Except.ok.injEq, Prod.mk.injEq,
      hCaught] at hAnswered
    rw [← hAnswered.1] at hLe ⊢
    exact hNext hLe

/- The records that a message leaves show the end. -/
theorem inStep_of_records
    {m : UpgradeMessage}
    {key : ChannelKey}
    {n : Sequence}
    {c : ChannelEnd}
    (hChannel : h.channels[key]? = some c)
    (hKey : m.key = key)
    (hLe : c.upgradeSequence ≤ n)
    (hBefore : ¬ h.Stages m → c.upgradeSequence = n)
    (hState :
      (after.records key).channel.state ≠ .uninitialized)
    (hAfter :
      (after.records key).channel.upgradeSequence = n) :
    h.InStep m n after := by
  subst hKey
  exact ⟨⟨c, hChannel, hLe, hBefore⟩,
    _, channels_eq_of_state_ne hState, hAfter⟩

/- An answer brings the end in step with the proposal. -/
theorem inStep_of_processTry
    {m : TryMessage}
    {staged : Option UpgradeStep}
    {report : EventReport UpgradeStep}
    {p : Plan Event}
    (hStaged : h.stageAnswer m = .ok staged)
    (hOk : h.processTry m staged = .ok report)
    (hPlan : answerPlan report.result h = .ok p) :
    h.InStep (.attempt m) m.counterpartySequence
      (h.applyAll p.writes) := by
  rcases records_of_processTry hOk hPlan with
    ⟨c, u, upgrade, hAnswered, hRecords⟩
  rcases processTry_eq_ok hOk with
    ⟨c', u', _, _, hAnswered', _, _, _, hPasses, _⟩
  rw [hAnswered, Except.ok.injEq, Prod.mk.injEq] at hAnswered'
  rw [← hAnswered'.1] at hPasses
  have hSequence :=
    sequence_of_answered hStaged hAnswered hPasses
  rcases answered_eq_stored hStaged hAnswered with
    ⟨found, last, hChannel, hLe, rfl⟩
  refine inStep_of_records hChannel rfl
    (hLe.trans hSequence.le) ?_ (by simp [hRecords])
    (by rw [hRecords]; exact hSequence)
  intro hStored
  rcases stageAnswer_eq_ok hStaged with
    ⟨rfl, _⟩ | ⟨_, _, _, hNone, _⟩
  · simp only [answered, bind_eq_ok, channelEnd_eq_ok,
      pure_eq_ok, Prod.mk.injEq] at hAnswered
    rcases hAnswered with ⟨own, hOwn, _, _, hSame, _⟩
    rw [hChannel, Option.some.injEq] at hOwn
    rw [hOwn, hSame]
    exact hSequence
  · exact (hStored hNone).elim

/- An acknowledgement is in step with the answer. -/
theorem inStep_of_processAck
    {m : AckMessage}
    {report : EventReport AckStep}
    {p : Plan Event}
    (hOk : h.processAck m = .ok report)
    (hPlan : ackPlan report.result h = .ok p) :
    h.InStep (.ack m) m.counterpartySequence
      (h.applyAll p.writes) := by
  rcases processAck_eq_ok hOk with
    ⟨c, _, _, _, hChannel, _, _, _, hSequence, _⟩
  rcases records_of_processAck hOk hPlan with
    ⟨found, _, _, hFound, _, hRecords⟩
  rw [hChannel, Option.some.injEq] at hFound
  subst hFound
  refine inStep_of_records hChannel rfl hSequence.le
    (fun _ => hSequence) ?_ ?_
  · rcases hRecords with hRecords | ⟨_, hRecords⟩ <;>
      simp [hRecords]
  · rcases hRecords with hRecords | ⟨_, hRecords⟩ <;>
      simp [hRecords, hSequence]

/- A confirmation is in step with what it is about. -/
theorem inStep_of_processConfirm
    {m : ConfirmMessage}
    {report : EventReport ConfirmStep}
    {p : Plan (Event × Bool)}
    (hOk : h.processConfirm m = .ok report)
    (hPlan : confirmPlan report.result h = .ok p) :
    h.InStep (.confirm m) m.counterpartySequence
      (h.applyAll p.writes) := by
  rcases processConfirm_eq_ok hOk with
    ⟨c, _, hChannel, hState, _, _, hSequence, _⟩
  rcases records_of_processConfirm hOk hPlan with
    ⟨found, _, hFound, _, _, hRecords⟩
  rw [hChannel, Option.some.injEq] at hFound
  subst hFound
  refine inStep_of_records hChannel rfl hSequence.le
    (fun _ => hSequence) ?_ ?_
  · rcases hRecords with hRecords | ⟨_, hRecords⟩ <;>
      simp [hRecords, records_channel hChannel, hState]
  · rcases hRecords with hRecords | ⟨_, hRecords⟩ <;>
      simp [hRecords, records_channel hChannel, hSequence]

/- Opening takes new fields at the same attempt. -/
theorem InStep.opened
    {m : UpgradeMessage}
    {n : Sequence}
    {q : Plan Event}
    (hInStep : h.InStep m n after)
    (hOpen : openPlan m.key after = .ok q) :
    h.InStep m n (after.applyAll q.writes) := by
  rcases hInStep with
    ⟨⟨c, hChannel, hLe, hBefore⟩, own, hOwn, hSequence⟩
  rcases (records_openPlan hOpen).2 with ⟨u, _, hRecords⟩
  refine inStep_of_records hChannel rfl hLe hBefore ?_ ?_
  · simp [hRecords, Records.opened]
  · rw [hRecords]
    exact (congrArg ChannelEnd.upgradeSequence
      (records_channel hOwn)).trans hSequence

/- An end opens in step with the other one. -/
theorem inStep_of_processOpen
    {m : OpenMessage}
    {report : EventReport Unit}
    {p : Plan Event}
    (hOk : h.processOpen m = .ok report)
    (hPlan : openPlan m.key h = .ok p) :
    h.InStep (.reopen m) m.counterpartySequence
      (h.applyAll p.writes) := by
  rcases processOpen_eq_ok_iff.mp ⟨report, hOk⟩ with
    ⟨c, _, _, _, _, hChannel, _, _, _, hSequence, _⟩
  have hSame := hSequence.symm
  have hInStep :
      h.InStep (.reopen m) m.counterpartySequence h :=
    ⟨⟨c, hChannel, hSame.le, fun _ => hSame⟩, c, hChannel,
      hSame⟩
  exact hInStep.opened hPlan

/- Every message that is taken is in step with its claim. -/
theorem Takes.inStep
    {m : UpgradeMessage}
    {claim : AttemptClaim}
    {events : List Event}
    (hTakes : h.Takes m events after)
    (hClaim : m.claim? = some claim) :
    h.InStep m claim.sequence after := by
  cases hTakes with
  | init => simp [UpgradeMessage.claim?] at hClaim
  | attempt hStaged hOk hPlan =>
      cases hClaim
      exact inStep_of_processTry hStaged hOk hPlan
  | ack hOk hPlan =>
      cases hClaim
      exact inStep_of_processAck hOk hPlan
  | confirm hOk hPlan =>
      cases hClaim
      exact inStep_of_processConfirm hOk hPlan
  | confirmOpen hOk hPlan hOpen =>
      cases hClaim
      exact (inStep_of_processConfirm hOk hPlan).opened hOpen
  | reopen hOk hPlan =>
      cases hClaim
      exact inStep_of_processOpen hOk hPlan
  | cancel => simp [UpgradeMessage.claim?] at hClaim
  | timeout => simp [UpgradeMessage.claim?] at hClaim

end Host

end Interchain

------------------------------------------------------------
-- Lockstep
------------------------------------------------------------

namespace Interchain

/- A message that is answered by a success had its step
   taken. -/
theorem Host.Answers.takes_of_succeeds
    {h after : Host}
    {m : UpgradeMessage}
    {result :
      Except DispatchError (EventReport UpgradeOutcome)}
    (hAnswers : h.Answers m result after)
    (hSucceeds : Succeeds result) :
    ∃ events, h.Takes m events after := by
  rcases hSucceeds with ⟨report, hReport, hResult⟩
  cases hAnswers with
  | rejected cause => simp at hReport
  | taken log hTakes => exact ⟨_, hTakes⟩
  | givenUp hEnds hPlan =>
      cases hReport
      simp at hResult

/-
  On any chain, once a message that claims the attempt of the
  counterparty is taken, the claim was proven and this end is
  at that attempt.  It was at it before, unless it answers a
  proposal by staging its own.
-/
theorem Host.taken_in_step
    {h : Host}
    {m : UpgradeMessage}
    {claim : AttemptClaim}
    (hClaim : m.claim? = some claim)
    (hSucceeds : Succeeds (h.dispatch m).1) :
    h.ProvesClaim m.key claim ∧
      h.InStep m claim.sequence (h.dispatch m).2 := by
  rcases (h.answers_dispatch m).takes_of_succeeds hSucceeds with
    ⟨events, hTakes⟩
  exact ⟨hTakes.provesClaim hClaim, hTakes.inStep hClaim⟩

end Interchain

------------------------------------------------------------
-- Sample Chains
------------------------------------------------------------

namespace Interchain

namespace Fixture

/- The sample chains, with a proposal of B for its second
   attempt. -/
def awaiting (hash : Hash) : Chains :=
  arranged hash fun side =>
    match side with
    | .left => []
    | .right =>
        [ .channel (key .right) (mirror.endAt .right .open ⟨2⟩),
          .upgrade (key .right)
            (proposal.proposed .right none) ]

/- A is open at the start when it meets a proposal of B for the
   second attempt. -/
theorem meets_awaiting (hash : Hash) :
    mirror.Meets hash .left (awaiting hash) proposal none .zero
      ⟨2⟩ none where
  joins := joins_arranged hash _
  offered := isOffered_arranged hash _
  change := changes_mirror .left
  isValid := rfl
  own := by
    constructor <;>
      rw [awaiting, records_arranged] <;>
      simp [records_host]
  peer := by
    constructor <;>
      rw [awaiting, records_arranged] <;>
      simp [records_host, Side.other, mirror]

/- A is told of B. -/
abbrev toldAwaiting (hash : Hash) : Host :=
  mirror.informed hash .left (awaiting hash)

/- The answer of A to the proposal of B. -/
def answerAwaiting (hash : Hash) : TryMessage :=
  mirror.answering hash .left (awaiting hash) signer proposal none

theorem takes_awaiting (hash : Hash) :
    Succeeds
      ((toldAwaiting hash).dispatch
        (.attempt (answerAwaiting hash))).1 := by
  apply (meets_awaiting hash).takes signer (by decide)
  refine ⟨⟨⟨1⟩, ?_⟩, ⟨_, setsDeadline_arranged hash _ .left⟩⟩
  rw [awaiting, records_arranged]
  simp [records_host]

theorem sequence_answerAwaiting (hash : Hash) :
    (answerAwaiting hash).counterpartySequence = ⟨2⟩ :=
  (meets_awaiting hash).peer.attempt

/- A answers at the attempt of B, which it has not been at. -/
theorem sample_taken_in_step :
    ∃ claim,
      (UpgradeMessage.attempt (answerAwaiting id)).claim? =
          some claim ∧
        claim.sequence = ⟨2⟩ ∧
        (toldAwaiting id).Stages (.attempt (answerAwaiting id)) ∧
        Succeeds
          ((toldAwaiting id).dispatch
            (.attempt (answerAwaiting id))).1 ∧
        (toldAwaiting id).ProvesClaim (key .left) claim ∧
        (toldAwaiting id).InStep (.attempt (answerAwaiting id))
          ⟨2⟩
          ((toldAwaiting id).dispatch
            (.attempt (answerAwaiting id))).2 := by
  have hTaken :=
    Host.taken_in_step (m := .attempt (answerAwaiting id)) rfl
      (takes_awaiting id)
  have hSequence := sequence_answerAwaiting id
  refine ⟨_, rfl, hSequence, (meets_awaiting id).own.upgrade,
    takes_awaiting id, hTaken.1, ?_⟩
  rw [← hSequence]
  exact hTaken.2

end Fixture

end Interchain
