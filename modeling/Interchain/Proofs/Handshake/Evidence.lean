import Interchain.Proofs.Handshake.Answer

/-
  Only what the counterparty proved changes a chain.

  Each message comes with claims about the counterparty.  If it
  changes the chain at all, by a step or by giving the attempt
  up, then the client of the channel's connection has accepted
  a proof of them, for the counterparty's end as the chain
  itself rebuilds it.

  Main declarations:
    * `Host.RunsOver`
    * `Host.HasEvidence`

  Main statements:
    * `Host.rejects_or_hasEvidence`
-/

------------------------------------------------------------
-- Evidence
------------------------------------------------------------

namespace Interchain

namespace Host

/- The stored end of a channel, and the open connection that
   its current hop names. -/
structure RunsOver
    (h : Host)
    (key : ChannelKey)
    (c : ChannelEnd)
    (id : ConnectionId)
    (connection : ConnectionEnd) : Prop where
  channel : h.channels[key]? = some c
  hop : c.hop? = some id
  found : h.connections[id]? = some connection
  isOpen : connection.isOpen = true

/- An end of the counterparty that mirrors the stored one, at
   a claimed state and sequence, was proven together with a
   claimed upgrade. -/
def ProvesAttempt
    (h : Host)
    (key : ChannelKey)
    (state : ChannelState)
    (sequence : Sequence)
    (u : Upgrade)
    (channelProof upgradeProof : CommitmentProof)
    (height : Height) : Prop :=
  ∃ c id connection hop,
    h.RunsOver key c id connection ∧
      connection.peer.connection = some hop ∧
      h.verifyChannel c connection
        { state := state
          order := c.order
          peer := ⟨key.port, some key.channel⟩
          hops := [hop]
          version := c.version
          upgradeSequence := sequence }
        channelProof height = .ok () ∧
      h.verifyUpgrade c connection u upgradeProof height =
        .ok ()

/- The counterparty was proven to be done flushing, or to be
   open with the fields that mirror the stored upgrade, at the
   attempt of the stored end. -/
def ProvesReopening (h : Host) (m : OpenMessage) : Prop :=
  ∃ c id connection,
    h.RunsOver m.key c id connection ∧
      ((∃ hop,
          m.counterpartyState = .flushComplete ∧
            connection.peer.connection = some hop ∧
            h.verifyChannel c connection
              { state := .flushComplete
                order := c.order
                peer := ⟨m.key.port, some m.key.channel⟩
                hops := [hop]
                version := c.version
                upgradeSequence := c.upgradeSequence }
              m.channelProof m.proofHeight = .ok ()) ∨
        ∃ u other found hop,
          m.counterpartyState = .open ∧
            h.upgrades[m.key]? = some u ∧
            u.fields.hop? = some other ∧
            h.connections[other]? = some found ∧
            found.peer.connection = some hop ∧
            h.verifyChannel c connection
              { state := .open
                order := u.fields.order
                peer := ⟨m.key.port, some m.key.channel⟩
                hops := [hop]
                version := u.fields.version
                upgradeSequence := c.upgradeSequence }
              m.channelProof m.proofHeight = .ok ())

/- The counterparty's receipt was proven, or the authority
   asks for it before the end is done flushing. -/
def ProvesCancelling (h : Host) (m : CancelMessage) : Prop :=
  ∃ c,
    h.channels[m.key]? = some c ∧
      (h.params.isAuthority m.signer = true ∧
          c.state ≠ .flushComplete ∨
        ∃ id connection proof,
          h.RunsOver m.key c id connection ∧
            m.receiptProof = some proof ∧
            h.verifyReceipt c connection m.receipt proof
              m.proofHeight = .ok ())

/- The counterparty was proven to be open, and to hold no
   receipt for the attempt. -/
def ProvesTimeout (h : Host) (m : TimeoutMessage) : Prop :=
  ∃ c id connection,
    h.RunsOver m.key c id connection ∧
      m.counterpartyChannel.state = .open ∧
      h.verifyChannel c connection m.counterpartyChannel
        m.channelProof m.proofHeight = .ok () ∧
      (m.earlierReceipt = none ∧
          h.verifyNoReceipt c connection m.receiptProof
            m.proofHeight = .ok () ∨
        ∃ receipt,
          m.earlierReceipt = some receipt ∧
            receipt.sequence < c.upgradeSequence ∧
            h.verifyReceipt c connection receipt
              m.receiptProof m.proofHeight = .ok ())

/- The claims of a message were proven.  A proposal claims
   nothing about the counterparty. -/
def HasEvidence (h : Host) : UpgradeMessage → Prop
  | .init _ => True
  | .attempt m =>
      h.ProvesAttempt m.key .open m.counterpartySequence
        ⟨m.counterpartyFields, m.counterpartyTimeout, .zero⟩
        m.channelProof m.upgradeProof m.proofHeight
  | .ack m =>
      h.ProvesAttempt m.key .flushing m.counterpartySequence
        m.counterpartyUpgrade m.channelProof m.upgradeProof
        m.proofHeight
  | .confirm m =>
      h.ProvesAttempt m.key m.counterpartyState
        m.counterpartySequence m.counterpartyUpgrade
        m.channelProof m.upgradeProof m.proofHeight
  | .reopen m => h.ProvesReopening m
  | .cancel m => h.ProvesCancelling m
  | .timeout m => h.ProvesTimeout m

end Host

end Interchain

------------------------------------------------------------
-- Checks That Give Evidence
------------------------------------------------------------

namespace Interchain

namespace Host

variable {h : Host}

/- A channel runs over a connection that is found to be open. -/
theorem runsOver_of_openConnection
    {key : ChannelKey}
    {c : ChannelEnd}
    {id : ConnectionId}
    {connection : ConnectionEnd}
    (hChannel : h.channels[key]? = some c)
    (hConnection : h.openConnection c = .ok (id, connection)) :
    h.RunsOver key c id connection := by
  rcases openConnection_eq_ok.mp hConnection with
    ⟨hHop, hFound, hOpen⟩
  exact ⟨hChannel, hHop, hFound, hOpen⟩

/- The attempt that an end is at plays no part in how proofs
   about its counterparty are checked. -/
theorem provesAttempt_of_verifyCounterparty
    {key : ChannelKey}
    {c : ChannelEnd}
    {last sequence : Sequence}
    {state : ChannelState}
    {u : Upgrade}
    {channelProof upgradeProof : CommitmentProof}
    {height : Height}
    (hChannel : h.channels[key]? = some c)
    (hVerified :
      h.verifyCounterparty key
        { c with upgradeSequence := last } state sequence u
        channelProof upgradeProof height = .ok ()) :
    h.ProvesAttempt key state sequence u channelProof
      upgradeProof height := by
  rcases verifyCounterparty_eq_ok_iff.mp hVerified with
    ⟨id, connection, hop, hConnection, hHop, hEnd, hUpgrade⟩
  have hRuns := runsOver_of_openConnection hChannel hConnection
  exact ⟨c, id, connection, hop, hRuns, hHop, hEnd, hUpgrade⟩

/- A proposal that is not refused was proven. -/
theorem provesAttempt_of_processTry
    {m : TryMessage}
    {staged : Option UpgradeStep}
    (hStaged : h.stageAnswer m = .ok staged)
    (hNot : ¬ IsRefused (h.processTry m staged)) :
    h.HasEvidence (.attempt m) := by
  rcases verified_of_processTry hNot with
    ⟨c, u, hAnswered, _, hVerified⟩
  rcases answered_eq_stored hStaged hAnswered with
    ⟨found, last, hChannel, _, rfl⟩
  exact provesAttempt_of_verifyCounterparty hChannel hVerified

theorem provesAttempt_of_processAck
    {m : AckMessage}
    (hNot : ¬ IsRefused (h.processAck m)) :
    h.HasEvidence (.ack m) := by
  rcases verified_of_processAck hNot with
    ⟨c, u, hChannel, _, hVerified⟩
  exact provesAttempt_of_verifyCounterparty hChannel hVerified

theorem provesAttempt_of_processConfirm
    {m : ConfirmMessage}
    (hNot : ¬ IsRefused (h.processConfirm m)) :
    h.HasEvidence (.confirm m) := by
  rcases verified_of_processConfirm hNot with
    ⟨c, u, hChannel, _, hVerified⟩
  exact provesAttempt_of_verifyCounterparty hChannel hVerified

/- An end that opens was shown the other one. -/
theorem provesReopening_of_processOpen
    {m : OpenMessage}
    {report : EventReport Unit}
    (hOk : h.processOpen m = .ok report) :
    h.HasEvidence (.reopen m) := by
  rcases processOpen_eq_ok_iff.mp ⟨report, hOk⟩ with
    ⟨c, u, id, connection, expected, hChannel, _, hUpgrade,
      hConnection, _, hExpected, hVerified⟩
  have hRuns := runsOver_of_openConnection hChannel hConnection
  refine ⟨c, id, connection, hRuns, ?_⟩
  unfold expectedBeforeOpen at hExpected
  split at hExpected
  case h_1 hState =>
    unfold expectedOpen at hExpected
    split at hExpected
    case h_1 => simp at hExpected
    case h_2 other hHop =>
      simp at hExpected
      rcases hExpected with ⟨found, hFound, hop, hPeer, rfl⟩
      exact Or.inr ⟨u, other, found, hop, hState, hUpgrade,
        hHop, hFound, hPeer, hVerified⟩
  case h_2 hState =>
    simp at hExpected
    rcases hExpected with ⟨hop, hPeer, rfl⟩
    exact Or.inl ⟨hop, hState, hPeer, hVerified⟩
  case h_3 => simp at hExpected

/- An end that cancels was shown a receipt, or asked by the
   authority. -/
theorem provesCancelling_of_processCancel
    {m : CancelMessage}
    {report : EventReport CancelStep}
    (hOk : h.processCancel m = .ok report) :
    h.HasEvidence (.cancel m) := by
  rcases processCancel_eq_ok_iff.mp ⟨report, hOk⟩ with
    ⟨c, _, hChannel, _, _, hAuthority | hVerified⟩
  · exact ⟨c, hChannel, Or.inl hAuthority⟩
  · rcases verifyCancel_eq_ok_iff.mp hVerified with
      ⟨id, connection, proof, hConnection, hProof, hReceipt⟩
    have hRuns :=
      runsOver_of_openConnection hChannel hConnection
    exact ⟨c, hChannel, Or.inr
      ⟨id, connection, proof, hRuns, hProof, hReceipt⟩⟩

/- The counterparty holds no receipt, or an earlier one. -/
theorem verifyUnanswered_eq_ok
    {m : TimeoutMessage}
    {c : ChannelEnd}
    {connection : ConnectionEnd}
    (hOk : h.verifyUnanswered m c connection = .ok ()) :
    m.earlierReceipt = none ∧
        h.verifyNoReceipt c connection m.receiptProof
          m.proofHeight = .ok () ∨
      ∃ receipt,
        m.earlierReceipt = some receipt ∧
          receipt.sequence < c.upgradeSequence ∧
          h.verifyReceipt c connection receipt m.receiptProof
            m.proofHeight = .ok () := by
  unfold verifyUnanswered at hOk
  split at hOk
  case h_1 hNone => exact Or.inl ⟨hNone, hOk⟩
  case h_2 receipt hSome =>
    simp at hOk
    exact Or.inr ⟨receipt, hSome, hOk.1, hOk.2⟩

/- An end that gives up for time was shown that the other one
   had not answered. -/
theorem provesTimeout_of_processTimeout
    {m : TimeoutMessage}
    {report : EventReport TimeoutStep}
    (hOk : h.processTimeout m = .ok report) :
    h.HasEvidence (.timeout m) := by
  rcases processTimeout_eq_ok_iff.mp ⟨report, hOk⟩ with
    ⟨c, u, id, connection, _, hChannel, _, _, hConnection, _,
      hOpen, hVerified, hUnanswered⟩
  have hRuns := runsOver_of_openConnection hChannel hConnection
  exact ⟨c, id, connection, hRuns, hOpen, hVerified,
    verifyUnanswered_eq_ok hUnanswered⟩

end Host

end Interchain

------------------------------------------------------------
-- Answers Rest on Evidence
------------------------------------------------------------

namespace Interchain

namespace Host

variable {h : Host} {m : UpgradeMessage}

/- A message that is taken comes with its evidence. -/
theorem Takes.hasEvidence
    {events : List Event}
    {after : Host}
    (hTakes : h.Takes m events after) :
    h.HasEvidence m := by
  cases hTakes with
  | init => trivial
  | attempt hStaged hOk =>
      exact provesAttempt_of_processTry hStaged
        (not_isRefused_ok hOk)
  | ack hOk =>
      exact provesAttempt_of_processAck (not_isRefused_ok hOk)
  | confirm hOk =>
      exact provesAttempt_of_processConfirm
        (not_isRefused_ok hOk)
  | confirmOpen hOk =>
      exact provesAttempt_of_processConfirm
        (not_isRefused_ok hOk)
  | reopen hOk => exact provesReopening_of_processOpen hOk
  | cancel hOk => exact provesCancelling_of_processCancel hOk
  | timeout hOk => exact provesTimeout_of_processTimeout hOk

/- So does one that ends the attempt. -/
theorem Ends.hasEvidence
    {error : UpgradeError}
    {events : List Event}
    {before : Host}
    (hEnds : h.Ends m error events before) :
    h.HasEvidence m := by
  cases hEnds with
  | attempt hStaged hEnded =>
      exact provesAttempt_of_processTry hStaged
        (not_isRefused_ended hEnded)
  | staged hStaged hEnded =>
      exact provesAttempt_of_processTry hStaged
        (not_isRefused_ended hEnded)
  | ack hEnded =>
      exact provesAttempt_of_processAck
        (not_isRefused_ended hEnded)
  | confirm hEnded =>
      exact provesAttempt_of_processConfirm
        (not_isRefused_ended hEnded)

/- On any chain, a message is rejected and changes nothing,
   unless its claims about the counterparty were proven. -/
theorem rejects_or_hasEvidence
    (h : Host)
    (m : UpgradeMessage) :
    (∃ cause,
        h.dispatch m = (.error (.rejected cause), h)) ∨
      h.HasEvidence m := by
  have hAnswers := h.answers_dispatch m
  rcases hDispatch : h.dispatch m with ⟨result, after⟩
  rw [hDispatch] at hAnswers
  cases hAnswers with
  | rejected cause => exact Or.inl ⟨cause, rfl⟩
  | taken log hTakes => exact Or.inr hTakes.hasEvidence
  | givenUp hEnds hPlan => exact Or.inr hEnds.hasEvidence

end Host

end Interchain
