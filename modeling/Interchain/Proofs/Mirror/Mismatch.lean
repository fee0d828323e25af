import Interchain.Proofs.Handshake.Evidence
import Interchain.Proofs.Handshake.SequenceErrors
import Interchain.Proofs.Mirror.Retry

/-
  Ends that find themselves at different attempts.

  An end that is shown an attempt of the other one, and is at a
  different attempt itself, gives its own up.  Both go on from
  the later of the two: the end that gave up is there at once,
  the other one once it cancels on the receipt.  What either of
  them proposes after that is not refused for its sequence.

  Main declarations:
    * `mismatchError`
    * `Mirror.Level`
    * `Mirror.Resumes`

  Main statements:
    * `Host.Ends.of_mismatch`
    * `Mirror.Level.not_refusesSequence`
    * `Mirror.mismatch_resynchronises`
-/

------------------------------------------------------------
-- Mismatches
------------------------------------------------------------

namespace Interchain

/- The error of an end that was shown another attempt than its
   own. -/
def mismatchError (own theirs : Sequence) : UpgradeError :=
  ⟨max own theirs, .upgradeSequence own theirs⟩

/- An attempt that lies behind a staged one is told the attempt
   before; that is no mismatch. -/
theorem staleError_ne_mismatchError
    {own theirs x y : Sequence}
    (hBehind : theirs < own) :
    staleError own theirs ≠ mismatchError x y := by
  intro hSame
  simp only [staleError, mismatchError, UpgradeError.mk.injEq,
    ChannelError.upgradeSequence.injEq] at hSame
  rcases hSame with ⟨hMax, rfl, rfl⟩
  rw [max_eq_left hBehind.le] at hMax
  have hLess :
      own.previous.number.toNat < own.number.toNat := by
    rw [Sequence.toNat_previous]
    rw [Sequence.lt_iff_toNat_lt] at hBehind
    omega
  rw [hMax] at hLess
  exact lt_irrefl _ hLess

/- The attempt of the counterparty that a message shows. -/
def UpgradeMessage.shownAttempt? :
    UpgradeMessage → Option Sequence
  | .init _ => none
  | .attempt m => some m.counterpartySequence
  | .ack m => some m.counterpartySequence
  | .confirm m => some m.counterpartySequence
  | .reopen m => some m.counterpartySequence
  | .cancel _ => none
  | .timeout _ => none

end Interchain

------------------------------------------------------------
-- Finding a Mismatch
------------------------------------------------------------

namespace Interchain

namespace Host

variable {h before : Host} {x y : Sequence}

/- A staged answer is only ended for an attempt that lies
   behind it. -/
theorem processTry_staged_eq_ended
    {m : TryMessage}
    {step : UpgradeStep}
    {error : UpgradeError}
    (hEnded :
      h.processTry m (some step) = .error (.ended error)) :
    m.counterpartySequence < step.channel.upgradeSequence ∧
      error =
        staleError step.channel.upgradeSequence
          m.counterpartySequence := by
  simp only [processTry, bind_eq_error, refuse_ne_ended,
    endAttempt_eq_ended, false_or, refuse_eq_ok, answered,
    Except.ok.injEq, exists_eq_left'] at hEnded
  rcases hEnded with ⟨_, _, hStale | ⟨_, _, _, _, hEnded⟩⟩
  · rw [checkAnswered] at hStale
    split_ifs at hStale with hBehind hStaged
    · exact ⟨hBehind, (Except.error.inj hStale).symm⟩
    · exact absurd rfl hStaged
  · simp [pure, Except.pure] at hEnded

/- The check of sequences is the only one that finds a mismatch:
   for an answer to a proposal, -/
theorem checkSequence_of_processTry
    {m : TryMessage}
    (hEnded :
      h.processTry m none =
        .error (.ended (mismatchError x y))) :
    ∃ c, h.channels[m.key]? = some c ∧
      checkSequence c m.counterpartySequence =
        .error (mismatchError x y) := by
  simp only [processTry, bind_eq_error, refuse_ne_ended,
    endAttempt_eq_ended, false_or, refuse_eq_ok, answered,
    bind_eq_ok, channelEnd_eq_ok] at hEnded
  rcases hEnded with
    ⟨_, ⟨c, hChannel, u, _, hOk⟩, _, _, hCheck | hRest⟩
  · rw [pure_eq_ok] at hOk
    rw [← hOk, checkAnswered] at hCheck
    split_ifs at hCheck with hBehind hStaged
    · exact absurd (Except.error.inj hCheck)
        (staleError_ne_mismatchError hBehind)
    · exact ⟨c, hChannel, hCheck⟩
  · rcases hRest with ⟨_, _, _, _, hEnded⟩
    simp [pure, Except.pure] at hEnded

/- A deadline is no mismatch. -/
theorem checkCounterpartyTimeout_ne_mismatch
    {sequence : Sequence}
    {counterparty : Upgrade} :
    h.checkCounterpartyTimeout sequence counterparty ≠
      .error (mismatchError x y) := by
  unfold checkCounterpartyTimeout
  split
  · simp [mismatchError]
  · split_ifs <;> simp [mismatchError]

theorem incompatibleEnds_ne_mismatch
    {sequence : Sequence}
    {own counterparty : UpgradeFields} :
    incompatibleEnds sequence
        (h.checkCompatible own counterparty) ≠
      .error (mismatchError x y) := by
  have hNot :=
    not_failsForSequence_checkCompatible (h := h) own counterparty
  intro hError
  cases hCheck : h.checkCompatible own counterparty with
  | ok => simp [hCheck, incompatibleEnds] at hError
  | error cause =>
      simp only [hCheck, incompatibleEnds, mismatchError,
        Except.error.injEq, UpgradeError.mk.injEq] at hError
      exact hNot ⟨x, y, by rw [hCheck, hError.2]⟩

/- for an acknowledgement, -/
theorem checkSequence_of_processAck
    {m : AckMessage}
    (hEnded :
      h.processAck m = .error (.ended (mismatchError x y))) :
    ∃ c, h.channels[m.key]? = some c ∧
      checkSequence c m.counterpartySequence =
        .error (mismatchError x y) := by
  simp [processAck, acknowledgeable] at hEnded
  rcases hEnded with ⟨c, ⟨hChannel, _⟩, _, stored, _, hError⟩
  rcases hError with hError | ⟨_, hError | ⟨_, _, hError⟩⟩
  · exact ⟨c, hChannel, hError⟩
  · exact absurd hError incompatibleEnds_ne_mismatch
  · exact absurd hError checkCounterpartyTimeout_ne_mismatch

/- and for a confirmation. -/
theorem checkSequence_of_processConfirm
    {m : ConfirmMessage}
    (hEnded :
      h.processConfirm m =
        .error (.ended (mismatchError x y))) :
    ∃ c, h.channels[m.key]? = some c ∧
      checkSequence c m.counterpartySequence =
        .error (mismatchError x y) := by
  simp [processConfirm, confirmable] at hEnded
  rcases hEnded with ⟨c, ⟨hChannel, _⟩, _, _, hError⟩
  rcases hError with hError | ⟨_, hError⟩
  · exact ⟨c, hChannel, hError⟩
  · exact absurd hError checkCounterpartyTimeout_ne_mismatch

/-
  An end that finds a mismatch has staged nothing.  Its attempt
  and the one that it was shown differ, and are the ones that
  the error names.
-/
theorem Ends.of_mismatch
    {m : UpgradeMessage}
    {events : List Event}
    (hEnds : h.Ends m (mismatchError x y) events before) :
    before = h ∧
      m.shownAttempt? = some y ∧
      (h.records m.key).attempt = x ∧
      x ≠ y := by
  have hNamed
      {c : ChannelEnd}
      {theirs : Sequence}
      (hChannel : h.channels[m.key]? = some c)
      (hCheck :
        checkSequence c theirs = .error (mismatchError x y)) :
      theirs = y ∧ (h.records m.key).attempt = x ∧ x ≠ y := by
    rcases checkSequence_eq_error_iff.mp hCheck with
      ⟨hNe, hError⟩
    simp only [mismatchError, UpgradeError.mk.injEq,
      ChannelError.upgradeSequence.injEq] at hError
    rcases hError with ⟨_, rfl, rfl⟩
    rw [Records.attempt, records_channel hChannel]
    exact ⟨rfl, rfl, hNe⟩
  cases hEnds with
  | attempt _ hEnded =>
      rcases checkSequence_of_processTry hEnded with
        ⟨c, hChannel, hCheck⟩
      rcases hNamed hChannel hCheck with ⟨rfl, hRest⟩
      exact ⟨rfl, rfl, hRest⟩
  | staged _ hEnded _ =>
      rcases processTry_staged_eq_ended hEnded with
        ⟨hBehind, hError⟩
      exact absurd hError.symm
        (staleError_ne_mismatchError hBehind)
  | ack hEnded =>
      rcases checkSequence_of_processAck hEnded with
        ⟨c, hChannel, hCheck⟩
      rcases hNamed hChannel hCheck with ⟨rfl, hRest⟩
      exact ⟨rfl, rfl, hRest⟩
  | confirm hEnded =>
      rcases checkSequence_of_processConfirm hEnded with
        ⟨c, hChannel, hCheck⟩
      rcases hNamed hChannel hCheck with ⟨rfl, hRest⟩
      exact ⟨rfl, rfl, hRest⟩

end Host

end Interchain

------------------------------------------------------------
-- Proposals at Equal Attempts
------------------------------------------------------------

namespace Interchain

namespace Host

variable {h : Host}

/- A proposal that succeeds starts the next attempt. -/
theorem attempt_of_init
    {m : InitMessage}
    (hSucceeds : Succeeds (h.dispatch (.init m)).1) :
    ((h.dispatch (.init m)).2.records m.key).attempt =
      (h.records m.key).attempt.next := by
  have hAnswers := h.answers_dispatch (.init m)
  rcases hSucceeds with ⟨report, hOk, hSuccess⟩
  rw [hOk] at hAnswers
  generalize (h.dispatch (.init m)).2 = after at hAnswers ⊢
  cases hAnswers with
  | givenUp hEnds _ => cases hEnds
  | taken _ hTakes =>
      cases hTakes with
      | init hProcess hPlan =>
          rcases records_of_processInit hProcess hPlan with
            ⟨c, hChannel, _, hRecords⟩
          rw [Records.attempt, hRecords, Records.attempt,
            records_channel hChannel]

/- An answer to the attempt after the one that an end is at is
   not refused for its sequence. -/
theorem not_refusesSequence_next
    {m : TryMessage}
    {c : ChannelEnd}
    (hNone : h.upgrades[m.key]? = none)
    (hChannel : h.channels[m.key]? = some c)
    (hNext : m.counterpartySequence = c.upgradeSequence.next)
    (hLimit : c.upgradeSequence.number ≠ Word.greatest) :
    ¬ RefusesSequence (h.dispatch (.attempt m)).1 := by
  have hAhead := Sequence.lt_next_of_ne_greatest hLimit
  refine not_refusesSequence_attempt hNone hChannel ?_
  rw [hNext, ChannelEnd.caughtUp, if_pos hAhead]
  exact (Sequence.next_previous hAhead).le

end Host

namespace Mirror

variable {mirror : Mirror} {hash : Hash} {c : Chains}
variable {side : Side} {k : Sequence}

/-
  Both ends are open at one attempt, without a proposal.  This
  is how two ends stand that have settled their attempts.
-/
def Level
    (mirror : Mirror)
    (c : Chains)
    (k : Sequence) : Prop :=
  ∀ side, mirror.Stands side c .open k none

/- The other end is then not at a loss for the sequence of a
   proposal, whatever else it has to refuse. -/
theorem Level.not_refusesSequence
    (hLevel : mirror.Level c k)
    (hLimit : k.number ≠ Word.greatest)
    {i : InitMessage}
    {t : TryMessage}
    (hInitKey : i.key = mirror.key side)
    (hInit : Succeeds ((c.host side).dispatch (.init i)).1)
    (hTryKey : t.key = mirror.key side.other)
    (hAttempt :
      t.counterpartySequence =
        (mirror.records side
          (c.replace side
            ((c.host side).dispatch (.init i)).2)).attempt) :
    ¬ RefusesSequence
      (mirror.answer hash side.other
        (c.replace side ((c.host side).dispatch (.init i)).2)
        (.attempt t)) := by
  have hOther :
      mirror.Stands side.other
        (c.replace side ((c.host side).dispatch (.init i)).2)
        .open k none :=
    (hLevel side.other).of_host_eq (Chains.host_replace_other ..)
  have hNext := Host.attempt_of_init hInit
  rw [hInitKey] at hNext
  rw [records, Chains.host_replace_self, hNext] at hAttempt
  change _ = (mirror.records side c).attempt.next at hAttempt
  rw [(hLevel side).attempt] at hAttempt
  refine
    Host.not_refusesSequence_next
      (c := mirror.endAt side.other .open k) ?_ ?_ hAttempt hLimit
  · rw [hTryKey]
    exact hOther.upgrade
  · rw [hTryKey]
    exact hOther.channels (by simp)

/- A proposal that both ends can take up is taken. -/
theorem Level.takes
    {p : Proposal}
    {timeout : Option UpgradeTimeout}
    (hLevel : mirror.Level c k)
    (hLimit : k.number ≠ Word.greatest)
    (hJoins : mirror.Joins hash c)
    (hOffered : p.IsOffered c)
    (hChange :
      (mirror.endAt side .open .zero).fields ≠ p.fields side)
    (hTimeout : validateOptionalTimeout timeout = .ok ())
    (hCan : ∀ side, mirror.CanFlush side c)
    (s₁ s₂ : Signer) :
    Succeeds
        ((c.host side).dispatch
          (.init (mirror.initMessage side s₁ p timeout))).1 ∧
      Succeeds
        (mirror.answer hash side.other
          (mirror.proposing side c s₁ p timeout)
          (.attempt
            (mirror.answering hash side.other
              (mirror.proposing side c s₁ p timeout) s₂ p
              timeout))) := by
  have hOwn := hLevel side
  have hMeets :
      mirror.Meets hash side.other
        (mirror.proposing side c s₁ p timeout) p timeout k
        k.next none :=
    { joins := hJoins.proposing s₁
      offered := hOffered.proposing s₁
      change := hOffered.changes_other hJoins hChange
      isValid := hTimeout
      own :=
        (hLevel side.other).of_host_eq (host_proposing_other s₁)
      peer := by
        rw [Side.other_other]
        exact hOwn.proposing hOffered hChange hTimeout s₁ }
  exact
    ⟨(hOwn.proposes hOffered hChange hTimeout s₁).1,
      hMeets.takes s₂ (Sequence.lt_next_of_ne_greatest hLimit)
        (CanFlush.proposing hCan hOwn hOffered hChange hTimeout
          s₁ side.other)⟩

end Mirror

end Interchain

------------------------------------------------------------
-- Settling a Mismatch
------------------------------------------------------------

namespace Interchain

namespace Mirror

variable {mirror : Mirror} {hash : Hash} {c : Chains}
variable {side : Side} {state peerState : ChannelState}
variable {x y : Sequence} {own? : Option Upgrade}
variable {m : UpgradeMessage} {events : List Event}
variable {before : Host}

/- The end that finds the mismatch is restored at the later
   attempt, and leaves a receipt for it. -/
theorem Stands.gives_up
    (hStands : mirror.Stands side c state x own?)
    (hKey : m.key = mirror.key side)
    (hValid : m.validate = .ok ())
    (hEnds :
      (c.host side).Ends m (mismatchError x y) events before) :
    (∃ report,
        ((c.host side).dispatch m).1 = .ok report ∧
          report.result =
            .aborted (mismatchError x y).receipt) ∧
      mirror.records side
          (c.replace side ((c.host side).dispatch m).2) =
        (mirror.records side c).restored (max x y)
          (mismatchError x y).receipt := by
  have hDone := Host.dispatch_of_ends hValid hEnds
  rw [hEnds.of_mismatch.1, hKey] at hDone
  refine ⟨hDone.1, ?_⟩
  have hMax :
      max (mirror.records side c).channel.upgradeSequence
          (mismatchError x y).sequence = max x y := by
    rw [hStands.channel]
    exact max_eq_right (le_max_left x y)
  rw [records, Chains.host_replace_self, hDone.2, Records.givenUp]
  exact congrArg
    (fun q => (mirror.records side c).restored q _) hMax

/- The chains once an end gave its attempt up for a mismatch, and
   the other one was shown the receipt for that. -/
def settled
    (mirror : Mirror)
    (hash : Hash)
    (side : Side)
    (c : Chains)
    (signer : Signer)
    (x y : Sequence) :
    Chains :=
  mirror.after hash side.other c
    (.cancel
      (mirror.cancelMessage hash side.other c signer
        (mismatchError x y).receipt))

/- The other end is restored at the later attempt as well. -/
theorem Joins.settles
    {v : Upgrade}
    (hJoins : mirror.Joins hash c)
    (hOwn : mirror.Stands side c .open (max x y) none)
    (hReceipt :
      (mirror.records side c).receipt? =
        some (mismatchError x y).receipt)
    (hPeer :
      mirror.Stands side.other c peerState y (some v))
    (hPeerState : peerState ≠ .uninitialized)
    (signer : Signer) :
    Succeeds
        (mirror.answer hash side.other c
          (.cancel
            (mirror.cancelMessage hash side.other c signer
              (mismatchError x y).receipt))) ∧
      mirror.records side.other
          (mirror.settled hash side c signer x y) =
        (mirror.records side.other c).restored (max x y)
          (mismatchError x y).receipt ∧
      mirror.Level (mirror.settled hash side c signer x y)
        (max x y) := by
  have hShown :
      (mirror.records side.other.other c).receipt? =
        some (mismatchError x y).receipt := by
    rw [Side.other_other]
    exact hReceipt
  have hDone :=
    hJoins.cancels hPeer hPeerState hShown (le_max_right x y)
      signer
  refine ⟨hDone.1, hDone.2, ?_⟩
  intro s
  rcases Side.eq_or_eq_other s side with rfl | rfl
  · exact hOwn.of_host_eq (host_after_of_other ..)
  · exact hPeer.restored hDone.2

/-
  What can follow once both ends stand level, seen from how the
  chains were before: no proposal of either end is refused for
  its sequence, and one that both can take up is taken.
-/
structure Resumes
    (mirror : Mirror)
    (hash : Hash)
    (before settled : Chains) : Prop where
  notRefused :
    ∀ (side : Side) (i : InitMessage) (t : TryMessage),
      i.key = mirror.key side →
      Succeeds ((settled.host side).dispatch (.init i)).1 →
      t.key = mirror.key side.other →
      t.counterpartySequence =
        (mirror.records side
          (settled.replace side
            ((settled.host side).dispatch (.init i)).2)).attempt →
      ¬ RefusesSequence
        (mirror.answer hash side.other
          (settled.replace side
            ((settled.host side).dispatch (.init i)).2)
          (.attempt t))
  taken :
    ∀ (side : Side) (p : Proposal)
      (timeout : Option UpgradeTimeout) (s₁ s₂ : Signer),
      p.IsOffered before →
      (mirror.endAt side .open .zero).fields ≠ p.fields side →
      validateOptionalTimeout timeout = .ok () →
      (∀ side, mirror.CanFlush side before) →
      Succeeds
          ((settled.host side).dispatch
            (.init (mirror.initMessage side s₁ p timeout))).1 ∧
        Succeeds
          (mirror.answer hash side.other
            (mirror.proposing side settled s₁ p timeout)
            (.attempt
              (mirror.answering hash side.other
                (mirror.proposing side settled s₁ p timeout)
                s₂ p timeout)))

/-
  An end that gives up for a mismatch is open at the later of
  the two attempts, with a receipt for it.  Whatever the other
  end has come to, as long as it holds an upgrade at the attempt
  that was shown, it cancels on that receipt.  Both ends are
  then open at the same attempt with the fields that they had,
  and a proposal of either is not refused for its sequence; one
  that both can take up is taken.
-/
theorem mismatch_resynchronises
    {n : Sequence}
    (hJoins : mirror.Joins hash c)
    (hStands : mirror.Stands side c state n own?)
    (hKey : m.key = mirror.key side)
    (hValid : m.validate = .ok ())
    (hEnds :
      (c.host side).Ends m (mismatchError x y) events before) :
    n = x ∧
      m.shownAttempt? = some y ∧
      (c.host side).HasEvidence m ∧
      x ≠ y ∧
      (∃ report,
        ((c.host side).dispatch m).1 = .ok report ∧
          report.result =
            .aborted (mismatchError x y).receipt) ∧
      (mismatchError x y).receipt.sequence = max x y ∧
      ∃ c₁,
        c₁ = c.replace side ((c.host side).dispatch m).2 ∧
          mirror.records side c₁ =
            (mirror.records side c).restored (max x y)
              (mismatchError x y).receipt ∧
          mirror.Stands side c₁ .open (max x y) none ∧
          ∀ peerState v signer,
            mirror.Stands side.other c peerState y (some v) →
            peerState ≠ .uninitialized →
            Succeeds
                (mirror.answer hash side.other c₁
                  (.cancel
                    (mirror.cancelMessage hash side.other c₁
                      signer (mismatchError x y).receipt))) ∧
              mirror.records side.other
                  (mirror.settled hash side c₁ signer x y) =
                (mirror.records side.other c).restored (max x y)
                  (mismatchError x y).receipt ∧
              mirror.Level
                (mirror.settled hash side c₁ signer x y)
                (max x y) ∧
              ((max x y).number ≠ Word.greatest →
                mirror.Resumes hash c
                  (mirror.settled hash side c₁ signer x y)) := by
  have hFound := hEnds.of_mismatch
  have hAttempt : n = x := by
    rw [← hFound.2.2.1, hKey]
    exact hStands.attempt.symm
  subst hAttempt
  have hGivesUp := hStands.gives_up hKey hValid hEnds
  have hOwn := hStands.restored hGivesUp.2
  refine
    ⟨rfl, hFound.2.1, hEnds.hasEvidence, hFound.2.2.2,
      hGivesUp.1, rfl, _, rfl, hGivesUp.2, hOwn, ?_⟩
  intro peerState v signer hPeer hPeerState
  have hSame := (c.host side).hasSameSetting_dispatch m
  have hJoins' := hJoins.replace hSame.links.1
  have hPeer' :=
    hPeer.of_host_eq
      (Chains.host_replace_other c side
        ((c.host side).dispatch m).2)
  have hReceipt := congrArg Records.receipt? hGivesUp.2
  have hSettles :=
    hJoins'.settles hOwn hReceipt hPeer' hPeerState signer
  refine ⟨hSettles.1, ?_, hSettles.2.2, ?_⟩
  · rw [hSettles.2.1, records, Chains.host_replace_other]
    rfl
  intro hLimit
  constructor
  case notRefused =>
    intro s i t hInitKey hInit hTryKey hAttempt
    exact
      hSettles.2.2.not_refusesSequence hLimit hInitKey hInit
        hTryKey hAttempt
  case taken =>
    intro s p timeout s₁ s₂ hOffered hChange hTimeout hCan
    have hNext := congrArg Records.next? hGivesUp.2
    rw [records, Chains.host_replace_self] at hNext
    have hFirst :=
      CanFlush.replace hCan
        ⟨hSame.height, hSame.timestamp, hSame.params⟩ hNext
    have hNext' := congrArg Records.next? hSettles.2.1
    have hSecond := CanFlush.after hFirst hNext'
    exact
      hSettles.2.2.takes hLimit (hJoins'.after side.other _)
        ((hOffered.replace hSame.links.1).after side.other _)
        hChange hTimeout hSecond s₁ s₂

end Mirror

end Interchain

------------------------------------------------------------
-- Acknowledging Another Attempt
------------------------------------------------------------

namespace Interchain

namespace Mirror

variable {mirror : Mirror} {hash : Hash} {c : Chains}
variable {side : Side} {n k : Sequence} {u v : Upgrade}

/- An end that proposed finds the mismatch when it is shown that
   the other end flushes for another attempt. -/
theorem Joins.ends_ack
    (hJoins : mirror.Joins hash c)
    (hStands : mirror.Stands side c .open n (some u))
    (hPeer :
      mirror.Stands side.other c .flushing k (some v))
    (hNe : n ≠ k)
    (signer : Signer) :
    (mirror.informed hash side c).Ends
      (.ack (mirror.ackMessage hash side c signer v))
      (mismatchError n k) [] (mirror.informed hash side c) := by
  have hVerified :=
    hJoins.verifies (hPeer.channels (by simp)) hPeer.upgrade
      .open n
  rw [← hPeer.attempt] at hVerified
  have hChannel :
      (mirror.informed hash side c).channels[mirror.key side]? =
        some (mirror.endAt side .open n) :=
    hStands.channels (by simp)
  have hUpgrade :
      (mirror.informed hash side c).upgrades[mirror.key side]? =
        some u :=
    hStands.upgrade
  have hMismatch :
      checkSequence (mirror.endAt side .open n)
          (mirror.records side.other c).attempt =
        .error (mismatchError n k) := by
    rw [hPeer.attempt]
    exact if_neg hNe
  refine .ack ?_
  have hOpen : (mirror.endAt side .open n).state = .open := rfl
  simp [Host.processAck, Host.acknowledgeable, ackMessage,
    hChannel, hOpen, hVerified, hUpgrade, hMismatch]

end Mirror

end Interchain

------------------------------------------------------------
-- Sample Chains
------------------------------------------------------------

namespace Interchain

namespace Fixture

/- A has proposed its first attempt; B flushes for its second
   one. -/
def mismatched (hash : Hash) : Chains :=
  arranged hash fun side =>
    match side with
    | .left =>
        [ .channel (key .left) (mirror.endAt .left .open ⟨1⟩),
          .upgrade (key .left) (proposal.proposed .left none) ]
    | .right =>
        [ .channel (key .right)
            (mirror.endAt .right .flushing ⟨2⟩),
          .upgrade (key .right)
            ⟨proposal.fields .right, some sampleDeadline,
              .zero⟩ ]

/- A proposed for its first attempt. -/
theorem stands_mismatched_left (hash : Hash) :
    mirror.Stands .left (mismatched hash) .open ⟨1⟩
      (some (proposal.proposed .left none)) := by
  constructor <;>
    rw [mismatched, records_arranged] <;>
    simp [records_host]

/- B flushes for its second one. -/
theorem stands_mismatched_right (hash : Hash) :
    mirror.Stands .right (mismatched hash) .flushing ⟨2⟩
      (some
        ⟨proposal.fields .right, some sampleDeadline, .zero⟩) := by
  constructor <;>
    rw [mismatched, records_arranged] <;>
    simp [records_host]

/- A is told of B, and shown the answer of B to an attempt that
   it does not know. -/
theorem sample_mismatch_resynchronises :
    ∃ c m c₁,
      c =
          (mismatched id).replace .left
            (mirror.informed id .left (mismatched id)) ∧
        m =
          .ack
            (mirror.ackMessage id .left (mismatched id) signer
              ⟨proposal.fields .right, some sampleDeadline,
                .zero⟩) ∧
        (c.host .left).Ends m (mismatchError ⟨1⟩ ⟨2⟩) []
          (c.host .left) ∧
        c₁ = c.replace .left ((c.host .left).dispatch m).2 ∧
        mirror.Level
          (mirror.settled id .left c₁ signer ⟨1⟩ ⟨2⟩) ⟨2⟩ ∧
        mirror.Resumes id c
          (mirror.settled id .left c₁ signer ⟨1⟩ ⟨2⟩) := by
  have hJoins : mirror.Joins id (mismatched id) :=
    joins_arranged id _
  have hLeft := stands_mismatched_left id
  have hRight := stands_mismatched_right id
  have hTold :=
    hJoins.replace
      (mirror.hasSameLinks_informed id .left (mismatched id))
  have hEnds :=
    hJoins.ends_ack hLeft hRight (by decide) signer
  have hOwn :
      mirror.Stands .left
        ((mismatched id).replace .left
          (mirror.informed id .left (mismatched id))) .open ⟨1⟩
        (some (proposal.proposed .left none)) :=
    ⟨hLeft.channel, hLeft.upgrade⟩
  have hPeer :=
    hRight.of_host_eq
      (Chains.host_replace_other (mismatched id) .left
        (mirror.informed id .left (mismatched id)))
  have hValid :
      (UpgradeMessage.ack
        (mirror.ackMessage id .left (mismatched id) signer
          ⟨proposal.fields .right, some sampleDeadline,
            .zero⟩)).validate = .ok () := by
    simp [UpgradeMessage.validate, AckMessage.validate,
      Mirror.ackMessage, validateRequiredTimeout,
      proposal.validate_fields, validate_sampleDeadline]
  rcases
      Mirror.mismatch_resynchronises hTold hOwn rfl hValid hEnds
    with
    ⟨_, _, _, _, _, _, c₁, hAfter, _, _, hSettles⟩
  rcases hSettles _ _ signer hPeer (by simp) with
    ⟨_, _, hLevel, hResumes⟩
  have hMax : max (Sequence.mk 1) ⟨2⟩ = ⟨2⟩ := by decide
  rw [hMax] at hLevel hResumes
  exact ⟨_, _, c₁, rfl, rfl, hEnds, hAfter, hLevel,
    hResumes (by decide)⟩

end Fixture

end Interchain
