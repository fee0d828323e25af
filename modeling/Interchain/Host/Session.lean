import Interchain.Host.State

/-
  Writes, and sessions of writes.

  A write stores or removes one record of one channel.  What a
  step writes is planned before any of it is written: a plan
  is a list of writes together with what it amounts to.  A
  session carries out plans on a host; it counts the writes
  and may refuse one of them, which ends the plan.

  Main declarations:
    * `Write`
    * `Host.apply`
    * `Plan`
    * `Session`
-/

------------------------------------------------------------
-- Writes
------------------------------------------------------------

namespace Interchain

/- The writes that a step can make. -/
inductive Write where
  | channel (key : ChannelKey) (value : ChannelEnd)
  | upgrade (key : ChannelKey) (value : Upgrade)
  | noUpgrade (key : ChannelKey)
  | counterpartyUpgrade (key : ChannelKey) (value : Upgrade)
  | noCounterpartyUpgrade (key : ChannelKey)
  | receipt (key : ChannelKey) (value : ErrorReceipt)
  | noReceipt (key : ChannelKey)
  | commitment (key : PacketKey) (value : PacketCommitment)
  | noCommitment (key : PacketKey)
  | nextSequence (key : ChannelKey) (value : Sequence)
  deriving DecidableEq

namespace Write

/- The channel that a write is about. -/
def channelKey : Write → ChannelKey
  | .channel key _ => key
  | .upgrade key _ => key
  | .noUpgrade key => key
  | .counterpartyUpgrade key _ => key
  | .noCounterpartyUpgrade key => key
  | .receipt key _ => key
  | .noReceipt key => key
  | .commitment key _ => key.source
  | .noCommitment key => key.source
  | .nextSequence key _ => key

end Write

namespace Host

/- The host after one write. -/
def apply (h : Host) : Write → Host
  | .channel key value =>
      { h with channels := h.channels.insert key value }
  | .upgrade key value =>
      { h with upgrades := h.upgrades.insert key value }
  | .noUpgrade key =>
      { h with upgrades := h.upgrades.erase key }
  | .counterpartyUpgrade key value =>
      { h with counterpartyUpgrades :=
          h.counterpartyUpgrades.insert key value }
  | .noCounterpartyUpgrade key =>
      { h with counterpartyUpgrades :=
          h.counterpartyUpgrades.erase key }
  | .receipt key value =>
      { h with receipts := h.receipts.insert key value }
  | .noReceipt key =>
      { h with receipts := h.receipts.erase key }
  | .commitment key value =>
      { h with commitments := h.commitments.insert key value }
  | .noCommitment key =>
      { h with commitments := h.commitments.erase key }
  | .nextSequence key value =>
      { h with nextSequences :=
          h.nextSequences.insert key value }

/- The host after writes, in their order. -/
def applyAll (h : Host) (writes : List Write) : Host :=
  writes.foldl apply h

end Host

end Interchain

------------------------------------------------------------
-- Plans
------------------------------------------------------------

namespace Interchain

/- Writes, and what they amount to. -/
structure Plan (α : Type) where
  writes : List Write
  outcome : α
  deriving DecidableEq

namespace Plan

/- A plan with another outcome makes the same writes. -/
def map
    {α β : Type}
    (f : α → β)
    (p : Plan α) :
    Plan β :=
  ⟨p.writes, f p.outcome⟩

/- A plan that writes nothing. -/
def idle {α : Type} (outcome : α) : Plan α := ⟨[], outcome⟩

end Plan

end Interchain

------------------------------------------------------------
-- Fatal Errors
------------------------------------------------------------

namespace Interchain

/-
  Why a step could not be written: a record that an earlier
  step left is missing, or a write was refused.
-/
inductive FatalError where
  | missing (key : ChannelKey) (cause : ChannelError)
  | store (cause : ChannelError)
  deriving DecidableEq

namespace FatalError

/- What is reported of an error that stops a chain. -/
def message : FatalError → String
  | .missing key _ =>
      "state required by channel " ++ key.display ++
        " is missing"
  | .store _ => "failed to persist the channel upgrade state"

/- The name of such an error. -/
def name : FatalError → String
  | .missing _ _ => "InvariantViolated"
  | .store _ => "Store"

/- The error that is behind it. -/
def source : FatalError → ChannelError
  | .missing _ cause => cause
  | .store cause => cause

instance : Traced FatalError where
  trace e := ⟨e.name, e.message⟩ :: trace e.source

end FatalError

/- A record that must be there. -/
def required
    {α : Type}
    (key : ChannelKey) :
    Except ChannelError α → Except FatalError α
  | .ok a => .ok a
  | .error cause => .error (.missing key cause)

end Interchain

------------------------------------------------------------
-- Sessions
------------------------------------------------------------

namespace Interchain

/- A host, the number of writes so far, and the number of the
   write that is refused, if one is. -/
structure Session where
  host : Host
  written : Nat
  refused : Option Nat

namespace Session

/- A session that refuses no write. -/
def start (h : Host) : Session := ⟨h, 0, none⟩

/- A session that refuses the write with a number. -/
def refusing (h : Host) (number : Option Nat) : Session :=
  ⟨h, 0, number⟩

/- Write, unless it is the write to refuse. -/
def write
    (s : Session)
    (w : Write) :
    Except FatalError Unit × Session :=
  if s.refused = some s.written then
    let reason :=
      "write " ++ Text.decimal s.written ++ " refused"
    (.error (.store (.application reason)),
      { s with written := s.written + 1 })
  else
    (.ok (),
      { s with host := s.host.apply w,
               written := s.written + 1 })

/- Write up to the first write that is refused. -/
def writeAll :
    Session → List Write → Except FatalError Unit × Session
  | s, [] => (.ok (), s)
  | s, w :: rest =>
      match s.write w with
      | (.ok (), next) => next.writeAll rest
      | (.error e, next) => (.error e, next)

/-
  Make a plan from the host and carry it out.  The plan's own
  errors leave the session as it was.
-/
def carryOut
    {ε α : Type}
    (fatal : FatalError → ε)
    (s : Session)
    (plan : Host → Except ε (Plan α)) :
    Except ε α × Session :=
  match plan s.host with
  | .error e => (.error e, s)
  | .ok p =>
      match s.writeAll p.writes with
      | (.ok (), next) => (.ok p.outcome, next)
      | (.error e, next) => (.error (fatal e), next)

end Session

end Interchain

------------------------------------------------------------
-- Undisturbed Sessions
------------------------------------------------------------

namespace Interchain

namespace Session

/- Without a refusal every write goes through. -/
theorem writeAll_of_refused_eq_none
    (s : Session)
    (writes : List Write)
    (h : s.refused = none) :
    s.writeAll writes =
      (.ok (),
        { s with host := s.host.applyAll writes,
                 written := s.written + writes.length }) := by
  induction writes generalizing s with
  | nil => simp [writeAll, Host.applyAll]
  | cons w rest ih =>
      have hWrite :
          s.write w =
            (.ok (),
              { s with host := s.host.apply w,
                       written := s.written + 1 }) := by
        simp [write, h]
      have hRest :=
        ih { s with host := s.host.apply w,
                    written := s.written + 1 } h
      rw [writeAll, hWrite]
      simp only
      rw [hRest]
      simp [Host.applyAll]
      omega

end Session

end Interchain
