import Interchain.Proofs.Handshake.GivingUp
import Interchain.Proofs.Handshake.Grounds
import Interchain.Proofs.Handshake.Lockstep
import Interchain.Proofs.Text.Decimal

/-
  What an attempt is given up for.

  A failure between the two ends gives the attempt up: their
  attempts differ, their proposals clash, or the deadline of
  the counterparty has passed.  A record that the chain lacks
  rejects the message instead, and nothing changes.  There is
  one exception: an acknowledgement gives the attempt up, with
  the code of no failure between the ends, when the chain lacks
  the connection that its own proposal names.

  Main declarations:
    * `Host.Clash`, `Host.LacksHop`
    * `Host.Fails`
    * `Host.Acknowledges`, `Host.LacksProposed`
    * `AbortsFor`

  Main statements:
    * `UpgradeError.code_eq_of_receipt_eq`
    * `Host.Ends.fails`
    * `Host.Acknowledges.ends`
    * `Host.gives_up_between_ends`
-/

------------------------------------------------------------
-- Failures between the Ends
------------------------------------------------------------

namespace Interchain

namespace Host

/- Two proposals cannot be agreed on: their orders or versions
   differ, or the connection of one is not open or does not lead
   to that of the other. -/
def Clash (h : Host) (own theirs : UpgradeFields) : Prop :=
  own.order ≠ theirs.order ∨
    own.version ≠ theirs.version ∨
    ∃ id connection,
      own.hop? = some id ∧
        h.connections[id]? = some connection ∧
        (connection.isOpen = false ∨
          connection.peer.connection ≠ theirs.hop?)

/- Fields name no connection, or one that the chain does not
   have; the cause tells which. -/
def LacksHop
    (h : Host)
    (fields : UpgradeFields)
    (cause : ChannelError) : Prop :=
  fields.hop? = none ∧ cause = .hopCount 1 0 ∨
    ∃ id,
      fields.hop? = some id ∧
        h.connections[id]? = none ∧
        cause = .connection (.notFound id)

end Host

/- The upgrade of the counterparty whose deadline a message is
   held to. -/
def UpgradeMessage.shown? : UpgradeMessage → Option Upgrade
  | .ack m => some m.counterpartyUpgrade
  | .confirm m => some m.counterpartyUpgrade
  | _ => none

namespace Host

/- A failure between the ends.  The attempt that is compared with
   the counterparty's is the stored one, or the next one after
   catching up if the message stages a proposal. -/
inductive Fails (h : Host) (m : UpgradeMessage) :
    ChannelError → Prop
  | sequence
      {c : ChannelEnd}
      {claim : AttemptClaim}
      {own : Sequence}
      (hChannel : h.channels[m.key]? = some c)
      (hClaim : m.claim? = some claim)
      (hOwn :
        own = c.upgradeSequence ∨
          h.Stages m ∧
            own =
              (c.caughtUp claim.sequence).upgradeSequence.next)
      (hNe : own ≠ claim.sequence) :
      Fails h m (.upgradeSequence own claim.sequence)
  | incompatible
      {ack : AckMessage}
      {c : ChannelEnd}
      {u : Upgrade}
      (reason : String)
      (hMessage : m = .ack ack)
      (hChannel : h.channels[ack.key]? = some c)
      (hUpgrade : h.upgrades[ack.key]? = some u)
      (hClash :
        h.Clash
          (u.settled c
            ack.counterpartyUpgrade.fields.version).fields
          ack.counterpartyUpgrade.fields) :
      Fails h m (.incompatible reason)
  | elapsed
      {v : Upgrade}
      {deadline : UpgradeTimeout}
      (hShown : m.shown? = some v)
      (hDeadline : v.timeout = some deadline)
      (hElapsed :
        deadline.hasElapsed h.height h.timestamp = true) :
      Fails h m (.timeoutElapsed deadline)

/- An acknowledgement is proven and in step, for a proposal that
   agrees with the counterparty's in order and version. -/
structure Acknowledges
    (h : Host)
    (m : AckMessage)
    (c : ChannelEnd)
    (u : Upgrade) : Prop where
  valid : m.validate = .ok ()
  channel : h.channels[m.key]? = some c
  state : c.state = .open ∨ c.state = .flushing
  verified :
    h.verifyCounterparty m.key c .flushing
      m.counterpartySequence m.counterpartyUpgrade
      m.channelProof m.upgradeProof m.proofHeight = .ok ()
  upgrade : h.upgrades[m.key]? = some u
  sequence : c.upgradeSequence = m.counterpartySequence
  order : u.fields.order = m.counterpartyUpgrade.fields.order
  version :
    (u.settled c
        m.counterpartyUpgrade.fields.version).fields.version =
      m.counterpartyUpgrade.fields.version

/- The exception: all is well between the ends, but the chain
   lacks the connection that its own proposal names. -/
def LacksProposed
    (h : Host)
    (m : UpgradeMessage)
    (cause : ChannelError) : Prop :=
  ∃ ack c u,
    m = .ack ack ∧
      h.Acknowledges ack c u ∧
      h.LacksHop u.fields cause

variable {h : Host} {m : UpgradeMessage} {cause : ChannelError}

/- The codes of failures between the ends. -/
theorem Fails.code
    (hFails : h.Fails m cause) :
    cause.code = 2 ∨ cause.code = 3 ∨ cause.code = 4 := by
  cases hFails <;> simp [ChannelError.code]

/- The code of a connection that is lacking. -/
theorem LacksHop.code
    {fields : UpgradeFields}
    (hLacks : h.LacksHop fields cause) :
    cause.code = 1 := by
  rcases hLacks with ⟨_, rfl⟩ | ⟨_, _, _, rfl⟩ <;> rfl

end Host

end Interchain

------------------------------------------------------------
-- Codes of Receipts
------------------------------------------------------------

namespace Interchain

/- A receipt tells the code of the error that it is for. -/
theorem UpgradeError.code_eq_of_receipt_eq
    {a b : UpgradeError}
    (hSame : a.receipt = b.receipt) :
    a.cause.code = b.cause.code := by
  have hText := congrArg ErrorReceipt.message hSame
  simp only [receipt, String.append_left_inj,
    String.append_right_inj] at hText
  exact Text.decimal_injective hText

end Interchain

------------------------------------------------------------
-- Errors of the Checks
------------------------------------------------------------

namespace Interchain

/- An attempt that does not pass differs. -/
theorem checkAnswered_eq_error
    {c : ChannelEnd}
    {counterparty : Sequence}
    {isStaged : Bool}
    {error : UpgradeError}
    (hError :
      checkAnswered c counterparty isStaged = .error error) :
    c.upgradeSequence ≠ counterparty ∧
      error.cause =
        .upgradeSequence c.upgradeSequence counterparty := by
  simp [checkAnswered] at hError
  rcases hError with ⟨hBehind, rfl⟩ | ⟨_, _, hError⟩
  · exact ⟨hBehind.ne', rfl⟩
  · rcases checkSequence_eq_error_iff.mp hError with ⟨hNe, rfl⟩
    exact ⟨hNe, rfl⟩

/- A valid message shows an upgrade with a deadline. -/
theorem UpgradeMessage.exists_deadline
    {m : UpgradeMessage}
    {v : Upgrade}
    (hValid : m.validate = .ok ())
    (hShown : m.shown? = some v) :
    ∃ deadline, v.timeout = some deadline := by
  have hRequired : validateRequiredTimeout v.timeout = .ok () := by
    cases m with
    | ack m =>
        cases hShown
        simp [validate, AckMessage.validate] at hValid
        exact hValid.2
    | confirm m =>
        cases hShown
        simp [validate, ConfirmMessage.validate] at hValid
        exact hValid.2.2
    | _ => simp [shown?] at hShown
  cases hTimeout : v.timeout with
  | none => simp [validateRequiredTimeout, hTimeout] at hRequired
  | some deadline => exact ⟨deadline, rfl⟩

namespace Host

variable {h : Host}

/- Proposals that are not compatible clash, or agree in order and
   version while the connection of the first is lacking. -/
theorem checkCompatible_eq_error
    {own theirs : UpgradeFields}
    {cause : ChannelError}
    (hError : h.checkCompatible own theirs = .error cause) :
    (h.Clash own theirs ∧
        ∃ reason, cause = .incompatible reason) ∨
      own.order = theirs.order ∧
        own.version = theirs.version ∧
        h.LacksHop own cause := by
  unfold checkCompatible at hError
  split_ifs at hError with hOrder hVersion
  · exact Or.inl ⟨Or.inl hOrder, _,
      (Except.error.inj hError).symm⟩
  · exact Or.inl ⟨Or.inr (Or.inl hVersion), _,
      (Except.error.inj hError).symm⟩
  · rw [not_not] at hOrder hVersion
    unfold checkHops at hError
    split at hError
    case h_1 hHop =>
      exact Or.inr ⟨hOrder, hVersion,
        Or.inl ⟨hHop, (Except.error.inj hError).symm⟩⟩
    case h_2 id hHop =>
      cases hFound : h.connections[id]? with
      | none =>
          simp only [connectionEnd, hFound] at hError
          exact Or.inr ⟨hOrder, hVersion, Or.inr
            ⟨id, hHop, hFound, (Except.error.inj hError).symm⟩⟩
      | some connection =>
          simp only [connectionEnd, hFound] at hError
          split_ifs at hError with hOpen hPeer
          · exact Or.inl
              ⟨Or.inr (Or.inr
                ⟨id, connection, hHop, hFound, Or.inl hOpen⟩),
                _, (Except.error.inj hError).symm⟩
          · exact Or.inl
              ⟨Or.inr (Or.inr
                ⟨id, connection, hHop, hFound, Or.inr hPeer⟩),
                _, (Except.error.inj hError).symm⟩

/- A lacking connection is found out once order and version
   agree. -/
theorem checkCompatible_of_lacksHop
    {own theirs : UpgradeFields}
    {cause : ChannelError}
    (hOrder : own.order = theirs.order)
    (hVersion : own.version = theirs.version)
    (hLacks : h.LacksHop own cause) :
    h.checkCompatible own theirs = .error cause := by
  rw [checkCompatible, if_neg (not_not.mpr hOrder),
    if_neg (not_not.mpr hVersion), checkHops]
  rcases hLacks with
    ⟨hHop, rfl⟩ | ⟨id, hHop, hMissing, rfl⟩
  · rw [hHop]
  · simp only [hHop, connectionEnd, hMissing]

/- A deadline that is given fails by having passed. -/
theorem checkCounterpartyTimeout_eq_error
    {n : Sequence}
    {v : Upgrade}
    {deadline : UpgradeTimeout}
    {error : UpgradeError}
    (hDeadline : v.timeout = some deadline)
    (hError : h.checkCounterpartyTimeout n v = .error error) :
    deadline.hasElapsed h.height h.timestamp = true ∧
      error.cause = .timeoutElapsed deadline := by
  simp [checkCounterpartyTimeout, hDeadline] at hError
  exact ⟨hError.1, by rw [← hError.2]⟩

end Host

end Interchain

------------------------------------------------------------
-- Attempts That Are Given Up
------------------------------------------------------------

namespace Interchain

namespace Host

variable {h : Host}

/- An answer is given up because the attempts differ. -/
theorem fails_of_processTry
    {m : TryMessage}
    {staged : Option UpgradeStep}
    {error : UpgradeError}
    (hStaged : h.stageAnswer m = .ok staged)
    (hEnded : h.processTry m staged = .error (.ended error)) :
    h.Fails (.attempt m) error.cause := by
  simp [processTry] at hEnded
  rcases hEnded with ⟨c, u, hAnswered, _, hError⟩
  rcases checkAnswered_eq_error hError with ⟨hNe, hCause⟩
  rw [hCause]
  rcases stageAnswer_eq_ok hStaged with
    ⟨rfl, _⟩ | ⟨found, step, rfl, hNone, hChannel, hPropose⟩
  · simp [answered] at hAnswered
    exact .sequence (m := .attempt m) hAnswered.1 rfl
      (Or.inl rfl) hNe
  · rcases propose_eq_ok hPropose with ⟨_, _, _, rfl⟩
    simp only [answered, Except.ok.injEq, Prod.mk.injEq]
      at hAnswered
    exact .sequence (m := .attempt m) hChannel rfl
      (Or.inr ⟨hNone, by rw [← hAnswered.1]⟩) hNe

/- A deadline that was checked and has passed. -/
theorem fails_of_checkCounterpartyTimeout
    {m : UpgradeMessage}
    {v : Upgrade}
    {n : Sequence}
    {error : UpgradeError}
    (hValid : m.validate = .ok ())
    (hShown : m.shown? = some v)
    (hError : h.checkCounterpartyTimeout n v = .error error) :
    h.Fails m error.cause := by
  rcases UpgradeMessage.exists_deadline hValid hShown with
    ⟨deadline, hDeadline⟩
  rcases checkCounterpartyTimeout_eq_error hDeadline hError with
    ⟨hElapsed, hCause⟩
  rw [hCause]
  exact .elapsed hShown hDeadline hElapsed

/- An acknowledgement ends the attempt for a failure between
   the ends, or because the proposed connection is lacking. -/
theorem fails_of_processAck
    {m : AckMessage}
    {error : UpgradeError}
    (hValid : m.validate = .ok ())
    (hEnded : h.processAck m = .error (.ended error)) :
    h.Fails (.ack m) error.cause ∨
      h.LacksProposed (.ack m) error.cause := by
  simp [processAck, acknowledgeable] at hEnded
  rcases hEnded with
    ⟨c, ⟨hChannel, hState⟩, hVerified, u, hUpgrade, hError⟩
  rcases hError with
    hError | ⟨hSequence, hError | ⟨_, _, hError⟩⟩
  · rcases checkSequence_eq_error_iff.mp hError with ⟨hNe, rfl⟩
    exact Or.inl (.sequence (m := .ack m) hChannel rfl
      (Or.inl rfl) hNe)
  · cases hCompatible :
        h.checkCompatible
          (u.settled c
            m.counterpartyUpgrade.fields.version).fields
          m.counterpartyUpgrade.fields with
    | ok => simp [hCompatible, incompatibleEnds] at hError
    | error cause =>
        simp only [hCompatible, incompatibleEnds,
          Except.error.injEq] at hError
        subst hError
        rcases checkCompatible_eq_error hCompatible with
          ⟨hClash, reason, rfl⟩ | ⟨hOrder, hVersion, hLacks⟩
        · exact Or.inl
            (.incompatible reason rfl hChannel hUpgrade hClash)
        · rcases u.fields_settled c
              m.counterpartyUpgrade.fields.version with
            ⟨hSameOrder, hSameHop⟩
          rw [hSameOrder] at hOrder
          rw [LacksHop, hSameHop] at hLacks
          refine Or.inr ⟨m, c, u, rfl, ?_, hLacks⟩
          exact
            { valid := hValid
              channel := hChannel
              state := Classical.or_iff_not_imp_left.mpr hState
              verified := hVerified
              upgrade := hUpgrade
              sequence := checkSequence_eq_ok_iff.mp hSequence
              order := hOrder
              version := hVersion }
  · exact Or.inl
      (fails_of_checkCounterpartyTimeout (m := .ack m) hValid
        rfl hError)

/- A confirmation ends it only for a failure between the ends. -/
theorem fails_of_processConfirm
    {m : ConfirmMessage}
    {error : UpgradeError}
    (hValid : m.validate = .ok ())
    (hEnded : h.processConfirm m = .error (.ended error)) :
    h.Fails (.confirm m) error.cause := by
  simp [processConfirm, confirmable] at hEnded
  rcases hEnded with ⟨c, ⟨hChannel, _⟩, _, _, hError⟩
  rcases hError with hError | ⟨_, hError⟩
  · rcases checkSequence_eq_error_iff.mp hError with ⟨hNe, rfl⟩
    exact .sequence (m := .confirm m) hChannel rfl (Or.inl rfl)
      hNe
  · exact fails_of_checkCounterpartyTimeout (m := .confirm m)
      hValid rfl hError

/- A valid message gives an attempt up for a failure between the
   ends, or it is the exception. -/
theorem Ends.fails
    {m : UpgradeMessage}
    {before : Host}
    {error : UpgradeError}
    {events : List Event}
    (hValid : m.validate = .ok ())
    (hEnds : h.Ends m error events before) :
    h.Fails m error.cause ∨ h.LacksProposed m error.cause := by
  cases hEnds with
  | attempt hStaged hEnded =>
      exact Or.inl (fails_of_processTry hStaged hEnded)
  | staged hStaged hEnded hPlan =>
      exact Or.inl (fails_of_processTry hStaged hEnded)
  | ack hEnded => exact fails_of_processAck hValid hEnded
  | confirm hEnded =>
      exact Or.inl (fails_of_processConfirm hValid hEnded)

end Host

end Interchain

------------------------------------------------------------
-- The Exception
------------------------------------------------------------

namespace Interchain

/- A message was answered by giving the attempt up for an
   error. -/
def AbortsFor
    (result : Except DispatchError (EventReport UpgradeOutcome))
    (error : UpgradeError) : Prop :=
  ∃ report,
    result = .ok report ∧ report.result = .aborted error.receipt

namespace Host

variable {h : Host} {m : UpgradeMessage}

/- The error of a lacking connection is taken for one between the
   ends, as that is what the errors of the compatibility check
   are. -/
theorem Acknowledges.ends
    {ack : AckMessage}
    {c : ChannelEnd}
    {u : Upgrade}
    {cause : ChannelError}
    (hAcknowledges : h.Acknowledges ack c u)
    (hLacks : h.LacksHop u.fields cause) :
    h.Ends (.ack ack) ⟨c.upgradeSequence, cause⟩ [] h := by
  rcases u.fields_settled c
      ack.counterpartyUpgrade.fields.version with
    ⟨hOrder, hHop⟩
  have hSettled :
      h.LacksHop
        (u.settled c
          ack.counterpartyUpgrade.fields.version).fields
        cause := by
    rw [LacksHop, hHop]
    exact hLacks
  have hIncompatible :=
    checkCompatible_of_lacksHop
      (hOrder.trans hAcknowledges.order) hAcknowledges.version
      hSettled
  have hFound : h.acknowledgeable ack.key = .ok c := by
    simp [acknowledgeable, hAcknowledges.channel]
    exact fun hOpen =>
      hAcknowledges.state.resolve_left hOpen
  have hSequence :=
    checkSequence_eq_ok_iff.mpr hAcknowledges.sequence
  refine .ack ?_
  simp only [processAck, bind_eq_error, refuse_eq_ok,
    endAttempt_eq_ok, endAttempt_eq_ended]
  exact Or.inr ⟨c, hFound, Or.inr ⟨(), hAcknowledges.verified,
    Or.inr ⟨u, upgrade_eq_ok.mpr hAcknowledges.upgrade,
      Or.inr ⟨(), hSequence, Or.inl
        (by rw [hIncompatible, incompatibleEnds])⟩⟩⟩⟩

/- Such an acknowledgement gives the attempt up. -/
theorem LacksProposed.aborts
    {cause : ChannelError}
    (hLacks : h.LacksProposed m cause) :
    ∃ sequence,
      AbortsFor (h.dispatch m).1 ⟨sequence, cause⟩ := by
  rcases hLacks with ⟨ack, c, u, rfl, hAcknowledges, hHop⟩
  exact ⟨c.upgradeSequence,
    (dispatch_of_ends (m := .ack ack) hAcknowledges.valid
      (hAcknowledges.ends hHop)).1⟩

/-
  On any chain, a message is rejected and changes nothing, unless
  the connections that it needs are there.  If they are, it may
  also be taken, if the end can flush where it has to, or give
  the attempt up, and then for a failure between the ends; but an
  acknowledgement also does so, with a code of its own, exactly
  when the chain lacks the connection that its own proposal
  names.
-/
theorem gives_up_between_ends
    (h : Host)
    (m : UpgradeMessage) :
    ((∃ cause,
          h.dispatch m = (.error (.rejected cause), h)) ∨
        h.IsGrounded m ∧
          (Succeeds (h.dispatch m).1 ∧ h.IsReady m ∨
            ∃ error,
              AbortsFor (h.dispatch m).1 error ∧
                (h.Fails m error.cause ∧
                    (error.cause.code = 2 ∨
                      error.cause.code = 3 ∨
                      error.cause.code = 4) ∨
                  h.LacksProposed m error.cause ∧
                    error.cause.code = 1))) ∧
      ∀ cause, h.LacksProposed m cause →
        ∃ sequence,
          AbortsFor (h.dispatch m).1 ⟨sequence, cause⟩ := by
  refine ⟨?_, fun cause hLacks => hLacks.aborts⟩
  cases hValid : m.validate with
  | error cause => exact Or.inl ⟨cause, dispatch_of_invalid hValid⟩
  | ok =>
      have hAnswers := h.answers_dispatch m
      rcases hDispatch : h.dispatch m with ⟨result, after⟩
      rw [hDispatch] at hAnswers
      cases hAnswers with
      | rejected cause => exact Or.inl ⟨cause, rfl⟩
      | taken log hTakes =>
          exact Or.inr ⟨hTakes.isGrounded,
            Or.inl ⟨⟨_, rfl, rfl⟩, hTakes.isReady⟩⟩
      | @givenUp error events before p hEnds hPlan =>
          have hResult := result_abortPlan hPlan
          refine Or.inr ⟨hEnds.isGrounded, Or.inr ⟨error,
            ⟨_, rfl, congrArg UpgradeOutcome.aborted hResult⟩,
            ?_⟩⟩
          rcases hEnds.fails hValid with hFails | hLacks
          · exact Or.inl ⟨hFails, hFails.code⟩
          · have hCode : error.cause.code = 1 := by
              rcases hLacks with ⟨_, _, _, _, _, hHop⟩
              exact hHop.code
            exact Or.inr ⟨hLacks, hCode⟩

end Host

end Interchain

------------------------------------------------------------
-- Sample Chains
------------------------------------------------------------

namespace Interchain

namespace Fixture

/- A connection that neither chain has. -/
def missingHop : ConnectionId := .numbered 9

/- A proposal of A to move to that connection. -/
def missingProposal : Upgrade :=
  ⟨upgradeFields missingHop, none, .zero⟩

/- What B flushes for when it answered the proposal of A. -/
def flushingAnswer : Upgrade :=
  ⟨proposal.fields .right, some sampleDeadline, .zero⟩

/- The sample chains, with the proposal on A and the answer on
   B. -/
def missing (hash : Hash) : Chains :=
  arranged hash fun side =>
    match side with
    | .left =>
        [ .channel (key .left) (mirror.endAt .left .open ⟨1⟩),
          .upgrade (key .left) missingProposal ]
    | .right =>
        [ .channel (key .right)
            (mirror.endAt .right .flushing ⟨1⟩),
          .upgrade (key .right) flushingAnswer ]

/- A proposes a connection that it lacks. -/
theorem stands_missing_left (hash : Hash) :
    mirror.Stands .left (missing hash) .open ⟨1⟩
      (some missingProposal) := by
  constructor <;>
    rw [missing, records_arranged] <;>
    simp [records_host]

theorem stands_missing_right (hash : Hash) :
    mirror.Stands (Side.other .left) (missing hash) .flushing ⟨1⟩
      (some flushingAnswer) := by
  constructor <;>
    rw [missing, records_arranged] <;>
    simp [Side.other, records_host]

/- A is told of B. -/
abbrev toldMissing (hash : Hash) : Host :=
  mirror.informed hash .left (missing hash)

/- A is shown the answer of B. -/
def ackMissing (hash : Hash) : AckMessage :=
  mirror.ackMessage hash .left (missing hash) signer
    flushingAnswer

theorem acknowledges_missing (hash : Hash) :
    (toldMissing hash).Acknowledges (ackMissing hash)
      (mirror.endAt .left .open ⟨1⟩) missingProposal := by
  have hLeft := stands_missing_left hash
  have hRight := stands_missing_right hash
  have hJoins : mirror.Joins hash (missing hash) :=
    joins_arranged hash _
  have hVerified :=
    hJoins.verifies (hRight.channels (by simp)) hRight.upgrade
      .open ⟨1⟩
  have hAttempt :
      (ackMissing hash).counterpartySequence = ⟨1⟩ :=
    hRight.attempt
  exact
    { valid := by
        simp [AckMessage.validate, ackMissing,
          Mirror.ackMessage, flushingAnswer,
          validateRequiredTimeout, proposal.validate_fields,
          validate_sampleDeadline]
      channel := hLeft.channels (by simp)
      state := Or.inl rfl
      verified := by
        rw [hAttempt]
        exact hVerified
      upgrade := hLeft.upgrade
      sequence := hAttempt.symm
      order := rfl
      version := rfl }

/- A lacks the connection of its own proposal. -/
theorem lacksHop_missing (hash : Hash) :
    (toldMissing hash).LacksHop missingProposal.fields
      (.connection (.notFound missingHop)) := by
  refine Or.inr ⟨missingHop, rfl, ?_, rfl⟩
  change ((missing hash).host .left).connections[missingHop]? =
    none
  rw [missing, (hasSameSetting_arranged hash _ .left).connections,
    connections_host]
  decide

/- So the acknowledgement finds the connection lacking. -/
theorem lacksProposed_missing (hash : Hash) :
    (toldMissing hash).LacksProposed (.ack (ackMissing hash))
      (.connection (.notFound missingHop)) :=
  ⟨_, _, _, rfl, acknowledges_missing hash, lacksHop_missing hash⟩

/- A gives its attempt up for a connection that it lacks. -/
theorem sample_gives_up_between_ends :
    (toldMissing id).LacksProposed (.ack (ackMissing id))
        (.connection (.notFound missingHop)) ∧
      ∃ sequence,
        AbortsFor
          ((toldMissing id).dispatch (.ack (ackMissing id))).1
          ⟨sequence, .connection (.notFound missingHop)⟩ := by
  have hLacks := lacksProposed_missing id
  exact ⟨hLacks,
    ((toldMissing id).gives_up_between_ends
      (.ack (ackMissing id))).2 _ hLacks⟩

/- The end of A names a connection that A does not have.  Still,
   the message is not rejected: the attempt is given up, with a
   receipt whose code is that of no failure between the ends. -/
theorem sample_gives_up_for_store :
    (toldMissing id).upgrades[key .left]? =
        some missingProposal ∧
      missingProposal.fields.hop? = some missingHop ∧
      (toldMissing id).connections[missingHop]? = none ∧
      ∃ report receipt,
        ((toldMissing id).dispatch (.ack (ackMissing id))).1 =
            .ok report ∧
          report.result = .aborted receipt ∧
          ∀ error : UpgradeError,
            receipt = error.receipt →
              error.cause.code ≠ 2 ∧
                error.cause.code ≠ 3 ∧
                error.cause.code ≠ 4 := by
  have hLacks := lacksProposed_missing id
  have hMissing :
      (toldMissing id).connections[missingHop]? = none := by
    rcases lacksHop_missing id with ⟨hNone, _⟩ | ⟨id, hHop, hGone, _⟩
    · simp [missingProposal, upgradeFields,
        UpgradeFields.hop?] at hNone
    · cases hHop
      exact hGone
  rcases hLacks.aborts with
    ⟨sequence, report, hReport, hAborted⟩
  refine ⟨(stands_missing_left id).upgrade, rfl, hMissing, report,
    _, hReport, hAborted, ?_⟩
  intro error hSame
  have hCode := UpgradeError.code_eq_of_receipt_eq hSame
  rw [← hCode]
  simp [ChannelError.code]

end Fixture

end Interchain
