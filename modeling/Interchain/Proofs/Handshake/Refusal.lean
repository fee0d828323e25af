import Interchain.Proofs.Handshake.Checks

/-
  What a step has checked once it is not refused.

  A step that fails is refused, or it ends the attempt.  Both
  proofs of a message come before the checks that can end the
  attempt, so a step that ends it has verified as much as one
  that is taken.

  Main declarations:
    * `IsRefused`

  Main statements:
    * `Host.verified_of_processTry`
    * `Host.verified_of_processAck`
    * `Host.verified_of_processConfirm`
-/

------------------------------------------------------------
-- Refusals
------------------------------------------------------------

namespace Interchain

/- A step was refused, rather than taken or ended. -/
def IsRefused
    {α : Type}
    (x : Except StepError α) : Prop :=
  ∃ cause, x = .error (.refused cause)

/- A step that is done is not refused. -/
theorem not_isRefused_ok
    {α : Type}
    {x : Except StepError α}
    {a : α}
    (hOk : x = .ok a) :
    ¬ IsRefused x := by
  rintro ⟨cause, hRefused⟩
  simp [hOk] at hRefused

theorem not_isRefused_ended
    {α : Type}
    {x : Except StepError α}
    {error : UpgradeError}
    (hEnded : x = .error (.ended error)) :
    ¬ IsRefused x := by
  rintro ⟨cause, hRefused⟩
  simp [hEnded] at hRefused

/- A check that can only refuse the step has passed once the
   step is not refused. -/
theorem not_isRefused_refuse_bind
    {α β : Type}
    {x : Except ChannelError α}
    {f : α → Except StepError β} :
    ¬ IsRefused (refuse x >>= f) ↔
      ∃ a, x = .ok a ∧ ¬ IsRefused (f a) := by
  cases x with
  | error cause =>
      simp [IsRefused, refuse, bind, Except.bind]
  | ok a => simp [refuse, bind, Except.bind]

end Interchain

------------------------------------------------------------
-- Steps That Can End an Attempt
------------------------------------------------------------

namespace Interchain

namespace Host

variable {h : Host}

/- An answer that is not refused builds on an open end, and
   has verified the counterparty's. -/
theorem verified_of_processTry
    {m : TryMessage}
    {staged : Option UpgradeStep}
    (hNot : ¬ IsRefused (h.processTry m staged)) :
    ∃ c u,
      h.answered m.key staged = .ok (c, u) ∧
        c.state = .open ∧
        h.verifyCounterparty m.key c .open
          m.counterpartySequence m.counterpartyUpgrade
          m.channelProof m.upgradeProof m.proofHeight =
            .ok () := by
  unfold processTry at hNot
  rcases not_isRefused_refuse_bind.mp hNot with
    ⟨⟨c, u⟩, hAnswered, hNot⟩
  rcases not_isRefused_refuse_bind.mp hNot with
    ⟨_, hVerified, _⟩
  simp [verifyProposal] at hVerified
  rcases hVerified with
    ⟨hOpen, id, connection, hConnection, _, hop, hHop, hChannel,
      hUpgrade⟩
  exact ⟨c, u, hAnswered, hOpen,
    verifyCounterparty_eq_ok_iff.mpr
      ⟨id, connection, hop, hConnection, hHop, hChannel,
        hUpgrade⟩⟩

/- An acknowledgement that is not refused has verified the
   counterparty, and is for a stored proposal. -/
theorem verified_of_processAck
    {m : AckMessage}
    (hNot : ¬ IsRefused (h.processAck m)) :
    ∃ c u,
      h.channels[m.key]? = some c ∧
        h.upgrades[m.key]? = some u ∧
        h.verifyCounterparty m.key c .flushing
          m.counterpartySequence m.counterpartyUpgrade
          m.channelProof m.upgradeProof m.proofHeight =
            .ok () := by
  unfold processAck at hNot
  rcases not_isRefused_refuse_bind.mp hNot with
    ⟨c, hFound, hNot⟩
  rcases not_isRefused_refuse_bind.mp hNot with
    ⟨_, hVerified, hNot⟩
  rcases not_isRefused_refuse_bind.mp hNot with
    ⟨u, hUpgrade, _⟩
  simp [acknowledgeable] at hFound
  exact ⟨c, u, hFound.1, upgrade_eq_ok.mp hUpgrade, hVerified⟩

/- A confirmation that is not refused has verified the
   counterparty, and is for a stored proposal. -/
theorem verified_of_processConfirm
    {m : ConfirmMessage}
    (hNot : ¬ IsRefused (h.processConfirm m)) :
    ∃ c u,
      h.channels[m.key]? = some c ∧
        h.upgrades[m.key]? = some u ∧
        h.verifyCounterparty m.key c m.counterpartyState
          m.counterpartySequence m.counterpartyUpgrade
          m.channelProof m.upgradeProof m.proofHeight =
            .ok () := by
  unfold processConfirm at hNot
  rcases not_isRefused_refuse_bind.mp hNot with
    ⟨c, hFound, hNot⟩
  rcases not_isRefused_refuse_bind.mp hNot with
    ⟨_, hVerified, hNot⟩
  rcases not_isRefused_refuse_bind.mp hNot with
    ⟨u, hUpgrade, _⟩
  simp [confirmable] at hFound
  exact ⟨c, u, hFound.1, upgrade_eq_ok.mp hUpgrade, hVerified⟩

end Host

end Interchain

------------------------------------------------------------
-- The Sequence of an Error
------------------------------------------------------------

namespace Interchain

/- An answer ends a counterparty that lies behind with the
   attempt before the current one, and otherwise the later of
   the two attempts. -/
theorem sequence_of_answered_behind
    {c : ChannelEnd}
    {counterparty : Sequence}
    {isStaged : Bool}
    {error : UpgradeError}
    (hError :
      checkAnswered c counterparty isStaged = .error error) :
    counterparty < c.upgradeSequence ∧
        error.sequence = c.upgradeSequence.previous ∨
      c.upgradeSequence ≤ error.sequence := by
  simp [checkAnswered] at hError
  rcases hError with ⟨hBehind, rfl⟩ | ⟨_, _, hError⟩
  · exact Or.inl ⟨hBehind, rfl⟩
  · rw [sequence_of_checkSequence hError]
    exact Or.inr (le_max_left _ _)

/- The sequence of an attempt that a proposal ends. -/
theorem Host.sequence_of_processTry
    {h : Host}
    {m : TryMessage}
    {staged : Option UpgradeStep}
    {error : UpgradeError}
    (hEnded : h.processTry m staged = .error (.ended error)) :
    ∃ c u,
      h.answered m.key staged = .ok (c, u) ∧
        (m.counterpartySequence < c.upgradeSequence ∧
            error.sequence = c.upgradeSequence.previous ∨
          c.upgradeSequence ≤ error.sequence) := by
  simp [processTry] at hEnded
  rcases hEnded with ⟨c, u, hAnswered, _, hError⟩
  exact ⟨c, u, hAnswered, sequence_of_answered_behind hError⟩

end Interchain
