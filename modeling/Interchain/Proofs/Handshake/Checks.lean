import Interchain.Handshake.Dispatch
import Interchain.Proofs.Channel.Sequence
import Interchain.Proofs.Handshake.Result

/-
  What the checks of a step establish.

  For each step of the handshake, a law says what must hold of
  the chain and of the message for the step to be taken, and
  another what an error that ends the attempt comes from.

  Main statements:
    * `Host.processTry_eq_ok`
    * `Host.processAck_eq_ok`
    * `Host.processConfirm_eq_ok`
    * `Host.processOpen_eq_ok_iff`
    * `Host.processCancel_eq_ok_iff`
    * `Host.processTimeout_eq_ok_iff`
-/

------------------------------------------------------------
-- Proposals
------------------------------------------------------------

namespace Interchain

@[simp] theorem result_noting
    {α : Type}
    (a : α)
    (line : String) :
    (Report.noting a line : EventReport α).result = a := rfl

namespace Host

variable {h : Host}

/- A proposal is valid, new, and made on an open channel. -/
theorem propose_eq_ok
    {key : ChannelKey}
    {c : ChannelEnd}
    {fields : UpgradeFields}
    {timeout : Option UpgradeTimeout}
    {step : UpgradeStep}
    (hOk : h.propose key c fields timeout = .ok step) :
    c.state = .open ∧
      fields.validate = .ok () ∧
      c.fields ≠ fields ∧
      step =
        ⟨key,
          { c with upgradeSequence := c.upgradeSequence.next },
          ⟨fields, timeout, .zero⟩⟩ := by
  simp [propose, checkProposal] at hOk
  rcases hOk with ⟨hOpen, hValid, ⟨hChange, _⟩, rfl⟩
  exact ⟨hOpen, hValid, hChange, rfl⟩

/- A proposal goes through only on a channel that is stored. -/
theorem processInit_eq_ok
    {m : InitMessage}
    {report : EventReport UpgradeStep}
    (hOk : h.processInit m = .ok report) :
    ∃ c, h.channels[m.key]? = some c ∧
      h.propose m.key c m.fields m.timeout =
        .ok report.result := by
  simp only [processInit, bind_eq_ok, channelEnd_eq_ok,
    pure_eq_ok] at hOk
  rcases hOk with ⟨c, hChannel, step, hStep, rfl⟩
  exact ⟨c, hChannel, hStep⟩

/- An answer is staged exactly when nothing is stored. -/
theorem stageAnswer_eq_ok
    {m : TryMessage}
    {staged : Option UpgradeStep}
    (hOk : h.stageAnswer m = .ok staged) :
    staged = none ∧ h.upgrades[m.key]?.isSome ∨
      ∃ c step,
        staged = some step ∧ h.upgrades[m.key]? = none ∧
          h.channels[m.key]? = some c ∧
          h.propose m.key (c.caughtUp m.counterpartySequence)
            m.fields none = .ok step := by
  simp only [stageAnswer, bind_eq_ok, ite_eq_ok, pure_eq_ok,
    channelEnd_eq_ok] at hOk
  rcases hOk with ⟨hStored, hNone⟩ | ⟨hMissing, c, hRest⟩
  · exact Or.inl ⟨hNone.symm, hStored⟩
  · rcases hRest with ⟨hChannel, step, hStep, hSome⟩
    have hNone : h.upgrades[m.key]? = none := by
      simpa using hMissing
    exact Or.inr ⟨c, step, hSome.symm, hNone, hChannel, hStep⟩

/- The channel end that a staged answer counts up from. -/
theorem caughtUp_eq
    (c : ChannelEnd)
    (counterparty : Sequence) :
    ∃ last,
      c.upgradeSequence ≤ last ∧
        c.caughtUp counterparty =
          { c with upgradeSequence := last } ∧
        (last.next ≤ counterparty →
          last.next = counterparty) := by
  unfold ChannelEnd.caughtUp
  split
  case isTrue hBehind =>
    exact ⟨counterparty.previous,
      Sequence.le_previous_of_lt hBehind, rfl,
      fun _ => Sequence.next_previous hBehind⟩
  case isFalse hAhead =>
    exact ⟨c.upgradeSequence, le_refl _, rfl, fun hNext =>
      Sequence.eq_of_le_of_next_le (not_lt.mp hAhead) hNext⟩

end Host

end Interchain

------------------------------------------------------------
-- Compatibility and Flushing
------------------------------------------------------------

namespace Interchain

namespace Host

variable {h : Host}

/- Compatible proposals have one order and version, over open
   connections that lead to each other. -/
theorem checkCompatible_eq_ok
    {own counterparty : UpgradeFields}
    (hOk : h.checkCompatible own counterparty = .ok ()) :
    own.order = counterparty.order ∧
      own.version = counterparty.version ∧
      ∃ id connection,
        own.hop? = some id ∧
          h.connections[id]? = some connection ∧
          connection.isOpen = true ∧
          connection.peer.connection = counterparty.hop? := by
  unfold checkCompatible at hOk
  split at hOk
  case isTrue => simp at hOk
  case isFalse hOrder =>
    split at hOk
    case isTrue => simp at hOk
    case isFalse hVersion =>
      unfold checkHops at hOk
      split at hOk
      case h_1 => simp at hOk
      case h_2 id hHop =>
        split at hOk
        case h_1 => simp at hOk
        case h_2 connection hConnection =>
          rw [connectionEnd_eq_ok] at hConnection
          simp at hOk
          refine ⟨not_not.mp hOrder, not_not.mp hVersion, id,
            connection, hHop, hConnection, hOk.1, hOk.2⟩

/- What an end and its upgrade are when they start to
   flush. -/
theorem startFlushing_cases
    {key : ChannelKey}
    {c flushing : ChannelEnd}
    {u upgrade : Upgrade}
    (hOk :
      h.startFlushing key c u = .ok (flushing, upgrade)) :
    ∃ latest timeout,
      h.latestSent key c = .ok latest ∧
        h.params.deadline h.height h.timestamp = .ok timeout ∧
        flushing = { c with state := .flushing } ∧
        upgrade =
          { u with
            latestSent := latest
            timeout := some timeout } := by
  unfold startFlushing flushProgress at hOk
  cases hSent : h.latestSent key c with
  | error e => simp [hSent] at hOk
  | ok latest =>
      cases hTime : h.params.deadline h.height h.timestamp with
      | error e => simp [hSent, hTime] at hOk
      | ok timeout =>
          simp [hSent, hTime] at hOk
          exact ⟨latest, timeout, rfl, rfl, hOk.1.symm,
            hOk.2.symm⟩

/- Flushing changes the state of the end, and of the upgrade
   the last sequence sent and the timeout. -/
theorem startFlushing_eq_ok
    {key : ChannelKey}
    {c flushing : ChannelEnd}
    {u upgrade : Upgrade}
    (hOk :
      h.startFlushing key c u = .ok (flushing, upgrade)) :
    flushing = { c with state := .flushing } ∧
      upgrade.fields = u.fields := by
  rcases startFlushing_cases hOk with ⟨_, _, _, _, rfl, rfl⟩
  exact ⟨rfl, rfl⟩

/- An end that is acknowledged flushes from then on, at the
   attempt that it is at. -/
theorem flushIfOpen_eq_ok
    {key : ChannelKey}
    {c flushing : ChannelEnd}
    {u upgrade : Upgrade}
    (hState : c.state = .open ∨ c.state = .flushing)
    (hOk :
      h.flushIfOpen key c u = .ok (flushing, upgrade)) :
    flushing = { c with state := .flushing } := by
  by_cases hOpen : c.state = .open
  · rw [flushIfOpen, if_pos hOpen] at hOk
    exact (startFlushing_eq_ok hOk).1
  · rw [flushIfOpen, if_neg hOpen] at hOk
    have hSame : c = flushing :=
      congrArg Prod.fst (Except.ok.inj hOk)
    rw [← hSame, ← hState.resolve_left hOpen]

/- An upgrade of the counterparty passes until it runs out. -/
theorem checkCounterpartyTimeout_eq_ok_iff
    {sequence : Sequence}
    {counterparty : Upgrade} :
    h.checkCounterpartyTimeout sequence counterparty =
        .ok () ↔
      counterparty.hasRunOut h.height h.timestamp = false := by
  unfold checkCounterpartyTimeout Upgrade.hasRunOut
  cases counterparty.timeout with
  | none => simp
  | some timeout => simp

/- A deadline that is over ends the attempt at hand. -/
theorem sequence_of_checkCounterpartyTimeout
    {sequence : Sequence}
    {counterparty : Upgrade}
    {error : UpgradeError}
    (hError :
      h.checkCounterpartyTimeout sequence counterparty =
        .error error) :
    error.sequence = sequence := by
  unfold checkCounterpartyTimeout at hError
  split at hError
  · simp at hError
    rw [← hError]
  · simp at hError
    rw [← hError.2]

end Host

end Interchain

------------------------------------------------------------
-- Sequence Checks
------------------------------------------------------------

namespace Interchain

/- The sequences pass if they are the same. -/
theorem checkSequence_eq_ok_iff
    {c : ChannelEnd}
    {counterparty : Sequence} :
    checkSequence c counterparty = .ok () ↔
      c.upgradeSequence = counterparty := by
  simp [checkSequence]

/- Otherwise the later one is that of the error. -/
theorem checkSequence_eq_error_iff
    {c : ChannelEnd}
    {counterparty : Sequence}
    {error : UpgradeError} :
    checkSequence c counterparty = .error error ↔
      c.upgradeSequence ≠ counterparty ∧
        error =
          ⟨max c.upgradeSequence counterparty,
            .upgradeSequence c.upgradeSequence
              counterparty⟩ := by
  simp [checkSequence, @eq_comm _ error]

/- A mismatch is an error for the later attempt. -/
theorem sequence_of_checkSequence
    {c : ChannelEnd}
    {counterparty : Sequence}
    {error : UpgradeError}
    (hError : checkSequence c counterparty = .error error) :
    error.sequence = max c.upgradeSequence counterparty := by
  rw [(checkSequence_eq_error_iff.mp hError).2]

/- An answer without an error is to an attempt that is not
   behind; a stored proposal must be at it exactly. -/
theorem checkAnswered_eq_ok
    {c : ChannelEnd}
    {counterparty : Sequence}
    {isStaged : Bool}
    (hOk : checkAnswered c counterparty isStaged = .ok ()) :
    c.upgradeSequence ≤ counterparty ∧
      (isStaged = false →
        c.upgradeSequence = counterparty) := by
  simp [checkAnswered, checkSequence_eq_ok_iff] at hOk
  grind

/- The error of an answer is for the attempt before the
   current one, or for a later one. -/
theorem sequence_of_checkAnswered
    {c : ChannelEnd}
    {counterparty : Sequence}
    {isStaged : Bool}
    {error : UpgradeError}
    (hError :
      checkAnswered c counterparty isStaged = .error error) :
    c.upgradeSequence.previous ≤ error.sequence := by
  simp [checkAnswered] at hError
  rcases hError with ⟨_, rfl⟩ | ⟨_, _, hError⟩
  · exact le_refl _
  · rw [sequence_of_checkSequence hError]
    exact le_trans c.upgradeSequence.previous_le
      (le_max_left _ _)

end Interchain

------------------------------------------------------------
-- Steps That Flush
------------------------------------------------------------

namespace Interchain

namespace Host

variable {h : Host}

/- The counterparty was shown to hold an end and an upgrade,
   over the open connection of this end. -/
theorem verifyCounterparty_eq_ok_iff
    {key : ChannelKey}
    {c : ChannelEnd}
    {state : ChannelState}
    {sequence : Sequence}
    {upgrade : Upgrade}
    {channelProof upgradeProof : CommitmentProof}
    {height : Height} :
    h.verifyCounterparty key c state sequence upgrade
        channelProof upgradeProof height = .ok () ↔
      ∃ id connection hop,
        h.openConnection c = .ok (id, connection) ∧
          connection.peer.connection = some hop ∧
          h.verifyChannel c connection
            (c.mirrored state key hop sequence) channelProof
            height = .ok () ∧
          h.verifyUpgrade c connection upgrade upgradeProof
            height = .ok () := by
  simp [verifyCounterparty]

/- An answer is to an open proposal that is compatible and
   proven. -/
theorem processTry_eq_ok
    {m : TryMessage}
    {staged : Option UpgradeStep}
    {report : EventReport UpgradeStep}
    (hOk : h.processTry m staged = .ok report) :
    ∃ c u flushing upgrade,
      h.answered m.key staged = .ok (c, u) ∧
        c.state = .open ∧
        h.checkCompatible u.fields m.counterpartyFields =
          .ok () ∧
        h.verifyCounterparty m.key c .open
          m.counterpartySequence m.counterpartyUpgrade
          m.channelProof m.upgradeProof m.proofHeight =
            .ok () ∧
        checkAnswered c m.counterpartySequence staged.isSome =
          .ok () ∧
        h.startFlushing m.key c u = .ok (flushing, upgrade) ∧
        report.result = ⟨m.key, flushing, upgrade⟩ := by
  simp [processTry, verifyProposal] at hOk
  rcases hOk with
    ⟨c, u, hAnswered, ⟨hOpen, ⟨⟩, id, connection, hConnection,
      hCompatible, hop, hHop, hChannel, hUpgrade⟩, hSequence,
      flushing, upgrade, hFlushing, rfl⟩
  have hVerified :=
    verifyCounterparty_eq_ok_iff.mpr
      ⟨id, connection, hop, hConnection, hHop, hChannel,
        hUpgrade⟩
  exact ⟨c, u, flushing, upgrade, hAnswered, hOpen,
    hCompatible, hVerified, hSequence, hFlushing, rfl⟩

/- A proposal ends an attempt of an open end only, and for the
   attempt before that one at the earliest. -/
theorem processTry_eq_ended
    {m : TryMessage}
    {staged : Option UpgradeStep}
    {error : UpgradeError}
    (hEnded : h.processTry m staged = .error (.ended error)) :
    ∃ c u,
      h.answered m.key staged = .ok (c, u) ∧
        c.state = .open ∧
        c.upgradeSequence.previous ≤ error.sequence := by
  simp [processTry, verifyProposal] at hEnded
  rcases hEnded with ⟨c, u, hAnswered, ⟨hOpen, _⟩, hError⟩
  exact ⟨c, u, hAnswered, hOpen,
    sequence_of_checkAnswered hError⟩

/- An acknowledged answer is compatible, proven, at the same
   attempt, and not run out. -/
theorem processAck_eq_ok
    {m : AckMessage}
    {report : EventReport AckStep}
    (hOk : h.processAck m = .ok report) :
    ∃ c stored flushing upgrade,
      h.channels[m.key]? = some c ∧
        (c.state = .open ∨ c.state = .flushing) ∧
        h.verifyCounterparty m.key c .flushing
          m.counterpartySequence m.counterpartyUpgrade
          m.channelProof m.upgradeProof m.proofHeight =
            .ok () ∧
        h.upgrades[m.key]? = some stored ∧
        c.upgradeSequence = m.counterpartySequence ∧
        h.checkCompatible
          (stored.settled c
            m.counterpartyUpgrade.fields.version).fields
          m.counterpartyUpgrade.fields = .ok () ∧
        h.flushIfOpen m.key c
          (stored.settled c
            m.counterpartyUpgrade.fields.version) =
          .ok (flushing, upgrade) ∧
        report.result =
          ⟨⟨m.key, flushing, upgrade⟩,
            m.counterpartyUpgrade⟩ := by
  simp [processAck, acknowledgeable,
    checkSequence_eq_ok_iff] at hOk
  rcases hOk with
    ⟨c, ⟨hChannel, hState⟩, hVerified, stored, hStored, hSequence,
      hCompatible, flushing, upgrade, hFlushing, _, rfl⟩
  have hCompatible :
      h.checkCompatible
          (stored.settled c
            m.counterpartyUpgrade.fields.version).fields
          m.counterpartyUpgrade.fields = .ok () := by
    revert hCompatible
    cases h.checkCompatible _ _ <;> simp [incompatibleEnds]
  exact ⟨c, stored, flushing, upgrade, hChannel,
    Classical.or_iff_not_imp_left.mpr hState, hVerified,
    hStored, hSequence, hCompatible, hFlushing, rfl⟩

/- An acknowledgement ends one of an end that is open or
   flushes, for no earlier sequence. -/
theorem processAck_eq_ended
    {m : AckMessage}
    {error : UpgradeError}
    (hEnded : h.processAck m = .error (.ended error)) :
    ∃ c,
      h.channels[m.key]? = some c ∧
        (c.state = .open ∨ c.state = .flushing) ∧
        c.upgradeSequence ≤ error.sequence := by
  simp [processAck, acknowledgeable] at hEnded
  rcases hEnded with ⟨c, ⟨hChannel, hState⟩, _, stored, _, hError⟩
  refine ⟨c, hChannel,
    Classical.or_iff_not_imp_left.mpr hState, ?_⟩
  rcases hError with hError | ⟨_, hError | ⟨_, _, hError⟩⟩
  · rw [sequence_of_checkSequence hError]
    exact le_max_left _ _
  · revert hError
    cases h.checkCompatible _ _ with
    | ok => simp [incompatibleEnds]
    | error cause =>
        simp only [incompatibleEnds, Except.error.injEq]
        rintro rfl
        exact le_refl _
  · rw [sequence_of_checkCounterpartyTimeout hError]

/- A confirmed counterparty flushes or is done, is proven, and
   is at the same attempt. -/
theorem processConfirm_eq_ok
    {m : ConfirmMessage}
    {report : EventReport ConfirmStep}
    (hOk : h.processConfirm m = .ok report) :
    ∃ c u,
      h.channels[m.key]? = some c ∧
        c.state = .flushing ∧
        h.verifyCounterparty m.key c m.counterpartyState
          m.counterpartySequence m.counterpartyUpgrade
          m.channelProof m.upgradeProof m.proofHeight =
            .ok () ∧
        h.upgrades[m.key]? = some u ∧
        c.upgradeSequence = m.counterpartySequence ∧
        report.result =
          ⟨⟨⟨m.key, c, u⟩, m.counterpartyUpgrade⟩,
            m.counterpartyState⟩ := by
  simp [processConfirm, confirmable,
    checkSequence_eq_ok_iff] at hOk
  rcases hOk with
    ⟨c, ⟨hChannel, hState, _⟩, hVerified, u, hUpgrade, hSequence,
      _, rfl⟩
  exact ⟨c, u, hChannel, hState, hVerified, hUpgrade,
    hSequence, rfl⟩

/- A confirmation ends one of an end that flushes, for no
   earlier sequence. -/
theorem processConfirm_eq_ended
    {m : ConfirmMessage}
    {error : UpgradeError}
    (hEnded : h.processConfirm m = .error (.ended error)) :
    ∃ c,
      h.channels[m.key]? = some c ∧
        c.state = .flushing ∧
        c.upgradeSequence ≤ error.sequence := by
  simp [processConfirm, confirmable] at hEnded
  rcases hEnded with ⟨c, ⟨hChannel, hState, _⟩, _, _, hError⟩
  refine ⟨c, hChannel, hState, ?_⟩
  rcases hError with hError | ⟨_, hError⟩
  · rw [sequence_of_checkSequence hError]
    exact le_max_left _ _
  · rw [sequence_of_checkCounterpartyTimeout hError]

end Host

end Interchain

------------------------------------------------------------
-- Steps That End an Attempt
------------------------------------------------------------

namespace Interchain

namespace Host

variable {h : Host}

/- What is expected of the counterparty before an end opens. -/
theorem expectedBeforeOpen_eq_ok
    {m : OpenMessage}
    {c expected : ChannelEnd}
    {u : Upgrade}
    {id : ConnectionId}
    {connection : ConnectionEnd}
    (hOk :
      h.expectedBeforeOpen m c u id connection =
        .ok expected) :
    (∃ hop,
        connection.peer.connection = some hop ∧
          expected = c.mirrored .flushComplete m.key hop
            c.upgradeSequence) ∨
      ∃ other found hop,
        u.fields.hop? = some other ∧
          h.connections[other]? = some found ∧
          found.peer.connection = some hop ∧
          expected =
            (c.applyFields u.fields).mirrored .open m.key hop
              c.upgradeSequence := by
  unfold expectedBeforeOpen at hOk
  split at hOk
  case h_1 =>
    unfold expectedOpen at hOk
    split at hOk
    case h_1 => simp at hOk
    case h_2 other hHop =>
      simp at hOk
      rcases hOk with ⟨found, hFound, hop, hPeer, rfl⟩
      exact Or.inr ⟨other, found, hop, hHop, hFound, hPeer, rfl⟩
  case h_2 =>
    simp at hOk
    rcases hOk with ⟨hop, hPeer, rfl⟩
    exact Or.inl ⟨hop, hPeer, rfl⟩
  case h_3 => simp at hOk

/- An end opens when it is done flushing, at the attempt that
   the message names, and the counterparty is proven. -/
theorem processOpen_eq_ok_iff
    {m : OpenMessage} :
    (∃ report, h.processOpen m = .ok report) ↔
      ∃ c u id connection expected,
        h.channels[m.key]? = some c ∧
          c.state = .flushComplete ∧
          h.upgrades[m.key]? = some u ∧
          h.openConnection c = .ok (id, connection) ∧
          m.counterpartySequence = c.upgradeSequence ∧
          h.expectedBeforeOpen m c u id connection =
            .ok expected ∧
          h.verifyChannel c connection expected m.channelProof
            m.proofHeight = .ok () := by
  constructor
  · rintro ⟨report, hOk⟩
    simp [processOpen, openable] at hOk
    rcases hOk with
      ⟨c, hChannel, u, ⟨hState, hUpgrade⟩, id, connection,
        hConnection, hSequence, expected, hExpected, hVerified, _⟩
    exact ⟨c, u, id, connection, expected, hChannel, hState,
      hUpgrade, hConnection, hSequence, hExpected, hVerified⟩
  · rintro ⟨c, u, id, connection, expected, hChannel, hState,
      hUpgrade, hConnection, hSequence, hExpected, hVerified⟩
    simp [processOpen, openable]
    exact ⟨c, hChannel, u, ⟨hState, hUpgrade⟩, id, connection,
      hConnection, hSequence, expected, hExpected, hVerified⟩

/- An attempt is cancelled for a receipt that is not of an
   earlier one: on the word of the authority while the end is
   not done flushing, or with a proof. -/
theorem processCancel_eq_ok_iff
    {m : CancelMessage} :
    (∃ report, h.processCancel m = .ok report) ↔
      ∃ c u,
        h.channels[m.key]? = some c ∧
          h.upgrades[m.key]? = some u ∧
          c.upgradeSequence ≤ m.receipt.sequence ∧
          (h.params.isAuthority m.signer = true ∧
              c.state ≠ .flushComplete ∨
            h.verifyCancel m c = .ok ()) := by
  constructor
  · rintro ⟨report, hOk⟩
    simp [processCancel, cancellable] at hOk
    rcases hOk with ⟨c, hChannel, ⟨u, hUpgrade⟩, hSequence, hRest⟩
    refine ⟨c, u, hChannel, hUpgrade, hSequence, ?_⟩
    rcases hRest with ⟨hAuthority, _⟩ | ⟨_, hVerified, _⟩
    · exact Or.inl hAuthority
    · exact Or.inr hVerified
  · rintro ⟨c, u, hChannel, hUpgrade, hSequence, hRest⟩
    simp [processCancel, cancellable]
    by_cases hAuthority :
        h.params.isAuthority m.signer = true ∧
          c.state ≠ .flushComplete
    · exact ⟨_, c, hChannel, ⟨u, hUpgrade⟩, hSequence,
        Or.inl ⟨hAuthority, rfl⟩⟩
    · have hVerified := hRest.resolve_left hAuthority
      refine ⟨_, c, hChannel, ⟨u, hUpgrade⟩, hSequence,
        Or.inr ⟨?_, hVerified, rfl⟩⟩
      intro hSigner
      by_contra hState
      exact hAuthority ⟨hSigner, hState⟩

/- The step of a cancelled attempt holds the receipt. -/
theorem result_processCancel
    {m : CancelMessage}
    {report : EventReport CancelStep}
    (hOk : h.processCancel m = .ok report) :
    report.result = ⟨m.key, m.receipt⟩ := by
  simp [processCancel] at hOk
  rcases hOk with ⟨c, _, ⟨_, rfl⟩ | ⟨_, _, rfl⟩⟩ <;> rfl

/- A receipt cancels if it is proven over an open connection. -/
theorem verifyCancel_eq_ok_iff
    {m : CancelMessage}
    {c : ChannelEnd} :
    h.verifyCancel m c = .ok () ↔
      ∃ id connection proof,
        h.openConnection c = .ok (id, connection) ∧
          m.receiptProof = some proof ∧
          h.verifyReceipt c connection m.receipt proof
            m.proofHeight = .ok () := by
  cases hProof : m.receiptProof <;>
    simp [verifyCancel, hProof]

/- A deadline is over if it was at the time of the other chain. -/
theorem elapsedTimeout_eq_ok_iff
    {u : Upgrade}
    {connection : ConnectionEnd}
    {height : Height}
    {deadline : UpgradeTimeout} :
    h.elapsedTimeout u connection height = .ok deadline ↔
      u.timeout = some deadline ∧
        ∃ time,
          h.counterpartyTime connection height = .ok time ∧
            deadline.hasElapsed height time = true := by
  cases hTimeout : u.timeout with
  | none => simp [elapsedTimeout, hTimeout]
  | some found =>
      simp only [elapsedTimeout, hTimeout, bind_eq_ok,
        ite_eq_ok, pure_eq_ok, Option.some.injEq]
      constructor
      · rintro ⟨time, hTime, ⟨hElapsed, rfl⟩ | ⟨_, hThrow⟩⟩
        · exact ⟨rfl, time, hTime, hElapsed⟩
        · simp at hThrow
      · rintro ⟨rfl, time, hTime, hElapsed⟩
        exact ⟨time, hTime, Or.inl ⟨hElapsed, rfl⟩⟩

/- A proposal is given up when its deadline has passed on the
   counterparty, which is proven to be open and to hold no
   receipt for the attempt. -/
theorem processTimeout_eq_ok_iff
    {m : TimeoutMessage} :
    (∃ report, h.processTimeout m = .ok report) ↔
      ∃ c u id connection deadline,
        h.channels[m.key]? = some c ∧
          c.state = .open ∧
          h.upgrades[m.key]? = some u ∧
          h.openConnection c = .ok (id, connection) ∧
          h.elapsedTimeout u connection m.proofHeight =
            .ok deadline ∧
          m.counterpartyChannel.state = .open ∧
          h.verifyChannel c connection m.counterpartyChannel
            m.channelProof m.proofHeight = .ok () ∧
          h.verifyUnanswered m c connection = .ok () := by
  constructor
  · rintro ⟨report, hOk⟩
    simp [processTimeout, waiting] at hOk
    rcases hOk with
      ⟨c, hChannel, u, ⟨hState, hUpgrade⟩, id, connection,
        hConnection, deadline, hDeadline, hOpen, hVerified,
        hUnanswered, _⟩
    exact ⟨c, u, id, connection, deadline, hChannel, hState,
      hUpgrade, hConnection, hDeadline, hOpen, hVerified,
      hUnanswered⟩
  · rintro ⟨c, u, id, connection, deadline, hChannel, hState,
      hUpgrade, hConnection, hDeadline, hOpen, hVerified,
      hUnanswered⟩
    simp [processTimeout, waiting]
    exact ⟨c, hChannel, u, ⟨hState, hUpgrade⟩, id,
      connection, hConnection, ⟨deadline, hDeadline⟩, hOpen,
      hVerified, hUnanswered⟩

/- A proposal times out while the end is open. -/
theorem processTimeout_eq_ok
    {m : TimeoutMessage}
    {report : EventReport TimeoutStep}
    (hOk : h.processTimeout m = .ok report) :
    ∃ c u,
      h.channels[m.key]? = some c ∧
        c.state = .open ∧
        h.upgrades[m.key]? = some u ∧
        report.result.key = m.key := by
  simp [processTimeout, waiting] at hOk
  rcases hOk with ⟨c, hChannel, u, ⟨hState, hUpgrade⟩, hRest⟩
  rcases hRest with ⟨_, _, _, _, _, _, _, _, rfl⟩
  exact ⟨c, u, hChannel, hState, hUpgrade, rfl⟩

end Host

end Interchain

------------------------------------------------------------
-- Channels of Steps
------------------------------------------------------------

namespace Interchain

namespace Host

variable {h : Host}

/- A step is for the channel of its message. -/
theorem key_of_processInit
    {m : InitMessage}
    {report : EventReport UpgradeStep}
    (hOk : h.processInit m = .ok report) :
    report.result.key = m.key := by
  rcases processInit_eq_ok hOk with ⟨_, _, hPropose⟩
  rcases propose_eq_ok hPropose with ⟨_, _, _, hStep⟩
  rw [hStep]

/- What is staged is for the channel of the message, and open. -/
theorem key_of_stageAnswer
    {m : TryMessage}
    {step : UpgradeStep}
    (hStaged : h.stageAnswer m = .ok (some step)) :
    step.key = m.key ∧ step.channel.state = .open := by
  rcases stageAnswer_eq_ok hStaged with
    ⟨hNone, _⟩ | ⟨c, other, hSome, _, _, hPropose⟩
  · simp at hNone
  · rcases propose_eq_ok hPropose with ⟨hOpen, _, _, hStep⟩
    rw [Option.some.inj hSome, hStep]
    exact ⟨rfl, hOpen⟩

/- An answer is for the channel of its message. -/
theorem key_of_processTry
    {m : TryMessage}
    {staged : Option UpgradeStep}
    {report : EventReport UpgradeStep}
    (hOk : h.processTry m staged = .ok report) :
    report.result.key = m.key := by
  rcases processTry_eq_ok hOk with
    ⟨_, _, _, _, _, _, _, _, _, _, hResult⟩
  rw [hResult]

theorem key_of_processAck
    {m : AckMessage}
    {report : EventReport AckStep}
    (hOk : h.processAck m = .ok report) :
    report.result.key = m.key := by
  rcases processAck_eq_ok hOk with
    ⟨_, _, _, _, _, _, _, _, _, _, _, hResult⟩
  rw [hResult]

theorem key_of_processConfirm
    {m : ConfirmMessage}
    {report : EventReport ConfirmStep}
    (hOk : h.processConfirm m = .ok report) :
    report.result.key = m.key := by
  rcases processConfirm_eq_ok hOk with
    ⟨_, _, _, _, _, _, _, hResult⟩
  rw [hResult]

theorem key_of_processCancel
    {m : CancelMessage}
    {report : EventReport CancelStep}
    (hOk : h.processCancel m = .ok report) :
    report.result.key = m.key := by
  rw [result_processCancel hOk]

theorem key_of_processTimeout
    {m : TimeoutMessage}
    {report : EventReport TimeoutStep}
    (hOk : h.processTimeout m = .ok report) :
    report.result.key = m.key := by
  rcases processTimeout_eq_ok hOk with
    ⟨_, _, _, _, _, hKey⟩
  exact hKey

end Host

end Interchain
