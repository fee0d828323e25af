import Interchain.Handshake.Outcome
import Interchain.Handshake.Verification
import Mathlib.Tactic.Common

/-
  Taking results apart.

  A chain of checks succeeds when every check does, and it
  fails with the error of the first that does not.  The laws
  are rewritten with by `simp`, so that the checks of a step
  are read off its definition.

  Main statements:
    * `bind_eq_ok`
    * `bind_eq_error`
-/

------------------------------------------------------------
-- Chains of Checks
------------------------------------------------------------

namespace Interchain

section Results

variable {ε ε' α β : Type}

/- A computation succeeds if both of its parts do. -/
@[simp] theorem bind_eq_ok
    {x : Except ε α}
    {f : α → Except ε β}
    {b : β} :
    (x >>= f) = .ok b ↔ ∃ a, x = .ok a ∧ f a = .ok b := by
  cases x <;> simp [bind, Except.bind]

/- It fails if its first part does, or its second after that. -/
@[simp] theorem bind_eq_error
    {x : Except ε α}
    {f : α → Except ε β}
    {e : ε} :
    (x >>= f) = .error e ↔
      x = .error e ∨ ∃ a, x = .ok a ∧ f a = .error e := by
  cases x <;> simp [bind, Except.bind]

@[simp] theorem pure_eq_ok
    {a b : α} :
    (pure a : Except ε α) = .ok b ↔ a = b := by
  simp [pure, Except.pure]

@[simp] theorem map_eq_ok
    {x : Except ε α}
    {f : α → β}
    {b : β} :
    f <$> x = .ok b ↔ ∃ a, x = .ok a ∧ f a = b := by
  cases x <;> simp [Functor.map, Except.map]

@[simp] theorem map_eq_error
    {x : Except ε α}
    {f : α → β}
    {e : ε} :
    f <$> x = .error e ↔ x = .error e := by
  cases x <;> simp [Functor.map, Except.map]

/- A guarded check takes one branch. -/
@[simp] theorem ite_eq_ok
    {p : Prop}
    [Decidable p]
    {x y : Except ε α}
    {a : α} :
    (if p then x else y) = .ok a ↔
      p ∧ x = .ok a ∨ ¬ p ∧ y = .ok a := by
  split <;> simp_all

@[simp] theorem ite_eq_error
    {p : Prop}
    [Decidable p]
    {x y : Except ε α}
    {e : ε} :
    (if p then x else y) = .error e ↔
      p ∧ x = .error e ∨ ¬ p ∧ y = .error e := by
  split <;> simp_all

/- A check has one way to succeed. -/
@[simp] theorem exists_unit_eq_ok
    {x : Except ε Unit} :
    (∃ a, x = .ok a) ↔ x = .ok () :=
  ⟨fun ⟨_, h⟩ => h, fun h => ⟨(), h⟩⟩

/- Errors that are wrapped do not change what succeeds. -/
@[simp] theorem wrapError_eq_ok
    {wrap : ε → ε'}
    {x : Except ε α}
    {a : α} :
    wrapError wrap x = .ok a ↔ x = .ok a := by
  cases x <;> simp [wrapError]

end Results

end Interchain

------------------------------------------------------------
-- Errors of a Step
------------------------------------------------------------

namespace Interchain

section StepResults

variable {α : Type}

@[simp] theorem refuse_eq_ok
    {x : Except ChannelError α}
    {a : α} :
    refuse x = .ok a ↔ x = .ok a := by
  cases x <;> simp [refuse]

@[simp] theorem refuse_ne_ended
    {x : Except ChannelError α}
    {error : UpgradeError} :
    refuse x ≠ .error (.ended error) := by
  cases x <;> simp [refuse]

@[simp] theorem endAttempt_eq_ok
    {x : Except UpgradeError α}
    {a : α} :
    endAttempt x = .ok a ↔ x = .ok a := by
  cases x <;> simp [endAttempt]

@[simp] theorem endAttempt_eq_ended
    {x : Except UpgradeError α}
    {error : UpgradeError} :
    endAttempt x = .error (.ended error) ↔
      x = .error error := by
  cases x <;> simp [endAttempt]

/- What must be there is found if it is there. -/
@[simp] theorem required_eq_ok
    {key : ChannelKey}
    {x : Except ChannelError α}
    {a : α} :
    required key x = .ok a ↔ x = .ok a := by
  cases x <;> simp [required]

end StepResults

end Interchain

------------------------------------------------------------
-- Readings
------------------------------------------------------------

namespace Interchain

namespace Host

@[simp] theorem channelEnd_eq_ok
    {h : Host}
    {key : ChannelKey}
    {c : ChannelEnd} :
    h.channelEnd key = .ok c ↔
      h.channels[key]? = some c := by
  unfold channelEnd
  split <;> simp_all

@[simp] theorem connectionEnd_eq_ok
    {h : Host}
    {id : ConnectionId}
    {connection : ConnectionEnd} :
    h.connectionEnd id = .ok connection ↔
      h.connections[id]? = some connection := by
  unfold connectionEnd
  split <;> simp_all

@[simp] theorem upgrade_eq_ok
    {h : Host}
    {key : ChannelKey}
    {u : Upgrade} :
    h.upgrade key = .ok u ↔ h.upgrades[key]? = some u := by
  unfold upgrade
  split <;> simp_all

@[simp] theorem nextSequence_eq_ok
    {h : Host}
    {key : ChannelKey}
    {next : Sequence} :
    h.nextSequence key = .ok next ↔
      h.nextSequences[key]? = some next := by
  unfold nextSequence
  split <;> simp_all

@[simp] theorem consensusState_eq_ok
    {h : Host}
    {client : ClientId}
    {height : Height}
    {state : ConsensusState} :
    h.consensusState client height = .ok state ↔
      h.consensusStates[ConsensusKey.mk client height]? =
        some state := by
  unfold consensusState
  split <;> simp_all

/- An open connection of a channel end. -/
theorem openConnection_eq_ok
    {h : Host}
    {c : ChannelEnd}
    {id : ConnectionId}
    {connection : ConnectionEnd} :
    h.openConnection c = .ok (id, connection) ↔
      c.hop? = some id ∧
        h.connections[id]? = some connection ∧
        connection.isOpen = true := by
  unfold openConnection
  split
  case h_1 hHop => simp [hHop]
  case h_2 other hHop =>
    split
    case h_1 e hConnection =>
      have hMissing (found : ConnectionEnd) :
          h.connections[other]? ≠ some found := by
        intro hFound
        rw [connectionEnd_eq_ok.mpr hFound] at hConnection
        simp at hConnection
      simp only [reduceCtorEq, hHop, Option.some.injEq,
        false_iff, not_and]
      rintro rfl hFound
      exact (hMissing _ hFound).elim
    case h_2 found hConnection =>
      rw [connectionEnd_eq_ok] at hConnection
      split <;> grind

end Host

@[simp] theorem ConnectionEnd.peerConnection_eq_ok
    {connection : ConnectionEnd}
    {id peer : ConnectionId} :
    connection.peerConnection id = .ok peer ↔
      connection.peer.connection = some peer := by
  unfold peerConnection
  split <;> simp_all

@[simp] theorem ChannelEnd.peerKey_eq_ok
    {c : ChannelEnd}
    {key : ChannelKey} :
    c.peerKey = .ok key ↔ c.peer = key.peer := by
  rcases key with ⟨port, channel⟩
  rcases c with ⟨_, _, ⟨port', channel'⟩, _, _, _⟩
  cases channel' <;> simp [peerKey, ChannelKey.peer]

end Interchain
