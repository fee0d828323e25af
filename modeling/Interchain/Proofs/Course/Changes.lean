import Interchain.Proofs.Course.Run
import Interchain.Proofs.Handshake.Atomicity
import Interchain.Proofs.Handshake.Flushing
import Mathlib.Logic.Relation

/-
  What can change in the records of a channel.

  Whatever messages a chain is given, and whatever its clients
  were told, a happening sends a packet on a channel or takes
  its records through a few kinds of changes.  So what each of
  these keeps is kept in every course of a chain.

  Main declarations:
    * `Upgrade.Stamped`
    * `Records.Changes`
    * `Records.Evolves`
    * `Host.sent?`

  Main statements:
    * `Host.evolves_undergo`
    * `Host.sends_undergo`
-/

------------------------------------------------------------
-- Stamped Upgrades
------------------------------------------------------------

namespace Interchain

/- The upgrade of an end that flushes: it holds a deadline that
   can elapse, and the last sequence that was sent. -/
structure Upgrade.Stamped
    (u : Upgrade)
    (next : Sequence) : Prop where
  timeout :
    ∃ timeout,
      u.timeout = some timeout ∧ timeout.validate = .ok ()
  latestSent : u.latestSent = next.previous

namespace Host

variable {h : Host}

/- An end that starts to flush stamps its upgrade. -/
theorem stamped_of_startFlushing
    {key : ChannelKey}
    {c flushing : ChannelEnd}
    {u upgrade : Upgrade}
    (hOk :
      h.startFlushing key c u = .ok (flushing, upgrade)) :
    ∃ next,
      (h.records key).next? = some next ∧
        upgrade.Stamped next := by
  rcases startFlushing_cases hOk with
    ⟨latest, timeout, hSent, hTime, _, rfl⟩
  simp only [latestSent, bind_eq_ok, pure_eq_ok,
    nextSequence_eq_ok] at hSent
  rcases hSent with ⟨_, _, next, hNext, rfl⟩
  have hValid := Params.validate_of_deadline hTime
  exact ⟨next, hNext, ⟨timeout, rfl, hValid⟩, rfl⟩

end Host

end Interchain

------------------------------------------------------------
-- Changes
------------------------------------------------------------

namespace Interchain

namespace Records

/-
  The changes that come without a packet being sent.  Nothing
  is asked here of the counterparty: what it claims may be
  anything.
-/
inductive Changes (r : Records) : Records → Prop
  | resolve
      (s : Sequence) :
      Changes r { r with inFlight := r.inFlight \ {s} }
  | propose
      (u : Upgrade)
      (last : Sequence)
      (hState : r.channel.state = .open)
      (hLast : r.channel.upgradeSequence ≤ last) :
      Changes r
        { r with
          channel :=
            { r.channel with upgradeSequence := last.next }
          upgrade? := some u }
  | flush
      (u : Upgrade)
      (next : Sequence)
      (hState : r.channel.state = .open)
      (hNext : r.next? = some next)
      (hStamped : u.Stamped next) :
      Changes r
        { r with
          channel := { r.channel with state := .flushing }
          upgrade? := some u }
  | learn
      (counterparty : Upgrade)
      (hState : r.channel.state = .flushing) :
      Changes r { r with counterparty? := some counterparty }
  | drain
      (hState : r.channel.state = .flushing)
      (hEmpty : r.inFlight = ∅) :
      Changes r
        { r with
          channel := { r.channel with state := .flushComplete } }
  | reopen
      (u : Upgrade)
      (hUpgrade : r.upgrade? = some u) :
      Changes r (r.opened u)
  | restore
      (sequence : Sequence)
      (receipt : ErrorReceipt)
      (hUpgrade : r.upgrade?.isSome)
      (hAttempt : r.channel.upgradeSequence ≤ sequence)
      (hReceipt : receipt.sequence ≤ sequence) :
      Changes r (r.restored sequence receipt)

/- Any number of changes. -/
def Evolves : Records → Records → Prop :=
  Relation.ReflTransGen Changes

variable {r r' : Records}

theorem evolves_of_eq (hSame : r' = r) : r.Evolves r' := by
  rw [hSame]
  exact .refl

theorem evolves_of_changes (hChanges : r.Changes r') :
    r.Evolves r' :=
  .single hChanges

/- What a change keeps is kept by any number of them. -/
theorem Evolves.keeps
    {P : Records → Prop}
    (hEvolves : r.Evolves r')
    (hKept : ∀ m n, m.Changes n → P m → P n)
    (hRest : P r) :
    P r' := by
  induction hEvolves with
  | refl => exact hRest
  | tail _ hChange ih => exact hKept _ _ hChange ih

end Records

end Interchain

------------------------------------------------------------
-- Answers to a Proposal
------------------------------------------------------------

namespace Interchain

namespace Host

open Records

variable {h : Host}

/- The proposal that an answer builds on is stored, or it is
   made where none is stored. -/
theorem evolves_of_answered
    {m : TryMessage}
    {staged : Option UpgradeStep}
    {c : ChannelEnd}
    {u : Upgrade}
    (hStaged : h.stageAnswer m = .ok staged)
    (hAnswered : h.answered m.key staged = .ok (c, u)) :
    (h.records m.key).Evolves
      { h.records m.key with
        channel := c
        upgrade? := some u } := by
  rcases stageAnswer_eq_ok hStaged with
    ⟨rfl, _⟩ | ⟨found, step, rfl, _, hChannel, hPropose⟩
  · simp [answered] at hAnswered
    apply evolves_of_eq
    rw [← records_channel hAnswered.1]
    ext1 <;> simp [records, hAnswered.2]
  · simp only [answered, Except.ok.injEq,
      Prod.mk.injEq] at hAnswered
    rcases caughtUp_eq found m.counterpartySequence with
      ⟨last, hLast, hCaught, _⟩
    rcases propose_eq_ok hPropose with ⟨hState, _, _, rfl⟩
    rw [hCaught] at hAnswered hState
    rw [← hAnswered.1, ← hAnswered.2]
    rw [← records_channel hChannel] at hState hLast ⊢
    exact evolves_of_changes (.propose _ last hState hLast)

/- A proposal that is answered: the answer is stored if it was
   staged, and flushing starts. -/
theorem evolves_of_processTry
    {m : TryMessage}
    {staged : Option UpgradeStep}
    {report : EventReport UpgradeStep}
    {p : Plan Event}
    (hStaged : h.stageAnswer m = .ok staged)
    (hOk : h.processTry m staged = .ok report)
    (hPlan : answerPlan report.result h = .ok p) :
    (h.records m.key).Evolves
      ((h.applyAll p.writes).records m.key) := by
  rcases processTry_eq_ok hOk with
    ⟨c, u, flushing, upgrade, hAnswered, hState, _, _, _, hFlush,
      hResult⟩
  have hRecords := (records_stepPlan hPlan).2
  rw [hResult, (startFlushing_eq_ok hFlush).1] at hRecords
  rcases stamped_of_startFlushing hFlush with
    ⟨next, hNext, hStamped⟩
  rw [hRecords]
  apply Relation.ReflTransGen.tail
    (evolves_of_answered hStaged hAnswered)
  exact .flush upgrade next hState hNext hStamped

end Host

end Interchain

------------------------------------------------------------
-- Acknowledgements and Confirmations
------------------------------------------------------------

namespace Interchain

namespace Host

open Records

variable {h : Host}

/- An acknowledged end flushes from then on, and one that
   flushed before keeps its upgrade. -/
theorem evolves_of_flushIfOpen
    {key : ChannelKey}
    {c flushing : ChannelEnd}
    {stored upgrade : Upgrade}
    {version : ChannelVersion}
    (hChannel : h.channels[key]? = some c)
    (hStored : h.upgrades[key]? = some stored)
    (hState : c.state = .open ∨ c.state = .flushing)
    (hFlush :
      h.flushIfOpen key c (stored.settled c version) =
        .ok (flushing, upgrade)) :
    (h.records key).Evolves
      { h.records key with
        channel := flushing
        upgrade? := some upgrade } := by
  rw [flushIfOpen_eq_ok hState hFlush]
  rw [← records_channel hChannel] at hState hFlush ⊢
  rcases hState with hOpen | hFlushing
  · rw [flushIfOpen, if_pos hOpen] at hFlush
    rcases stamped_of_startFlushing hFlush with
      ⟨next, hNext, hStamped⟩
    apply evolves_of_changes
    exact .flush upgrade next hOpen hNext hStamped
  · simp [flushIfOpen, Upgrade.settled, hFlushing] at hFlush
    apply evolves_of_eq
    rw [← hFlush.2, ← hStored, ← hFlushing]
    rfl

/- An answer that is acknowledged: flushing starts, and may be
   done. -/
theorem evolves_of_processAck
    {m : AckMessage}
    {report : EventReport AckStep}
    {p : Plan Event}
    (hOk : h.processAck m = .ok report)
    (hPlan : ackPlan report.result h = .ok p) :
    (h.records m.key).Evolves
      ((h.applyAll p.writes).records m.key) := by
  rcases processAck_eq_ok hOk with
    ⟨c, stored, flushing, upgrade, hChannel, hState, _, hStored,
      _, _, hFlush, hResult⟩
  have hEvolves :=
    evolves_of_flushIfOpen hChannel hStored hState hFlush
  have hRecords := (records_ackPlan hPlan).2
  rw [hResult] at hRecords
  rw [flushIfOpen_eq_ok hState hFlush] at hEvolves hRecords
  rcases hRecords with ⟨_, hRecords⟩ | ⟨hEmpty, hRecords⟩
  · rw [hRecords]
    exact hEvolves.tail (.learn m.counterpartyUpgrade rfl)
  · rw [hRecords]
    exact hEvolves.tail (.drain rfl hEmpty)

/- A confirmation: flushing may be done. -/
theorem evolves_of_processConfirm
    {m : ConfirmMessage}
    {report : EventReport ConfirmStep}
    {p : Plan (Event × Bool)}
    (hOk : h.processConfirm m = .ok report)
    (hPlan : confirmPlan report.result h = .ok p) :
    (h.records m.key).Evolves
      ((h.applyAll p.writes).records m.key) := by
  rcases records_of_processConfirm hOk hPlan with
    ⟨c, u, hChannel, hState, _, hRecords⟩
  rw [← records_channel hChannel] at hState
  apply evolves_of_changes
  rcases hRecords with hRecords | ⟨hEmpty, hRecords⟩
  · rw [hRecords]
    exact .learn m.counterpartyUpgrade hState
  · rw [hRecords, ← records_channel hChannel]
    exact .drain hState hEmpty

end Host

end Interchain

------------------------------------------------------------
-- Attempts That Conclude
------------------------------------------------------------

namespace Interchain

namespace Host

open Records

variable {h : Host}

/- Opening is one change. -/
theorem changes_of_openPlan
    {key : ChannelKey}
    {p : Plan Event}
    (hPlan : openPlan key h = .ok p) :
    (h.records key).Changes
      ((h.applyAll p.writes).records key) := by
  rcases records_openPlan hPlan with
    ⟨_, u, hUpgrade, hRecords⟩
  rw [hRecords]
  exact .reopen u hUpgrade

/- An attempt that is given up does not go back, and its
   receipt is not past the attempt that is left. -/
theorem changes_of_abortPlan
    {key : ChannelKey}
    {reason : AbortReason}
    {p : Plan (EventReport ErrorReceipt)}
    (hPlan : abortPlan key reason h = .ok p) :
    (h.records key).Changes
      ((h.applyAll p.writes).records key) := by
  rcases records_abortPlan hPlan with
    ⟨_, hUpgrade, error, _, hRecords⟩
  rw [hRecords]
  exact .restore _ _ hUpgrade (le_max_left _ _)
    (le_max_right _ _)

theorem changes_of_processCancel
    {m : CancelMessage}
    {report : EventReport CancelStep}
    {p : Plan Event}
    (hOk : h.processCancel m = .ok report)
    (hPlan : cancelPlan report.result h = .ok p) :
    (h.records m.key).Changes
      ((h.applyAll p.writes).records m.key) := by
  rcases processCancel_eq_ok_iff.mp ⟨report, hOk⟩ with
    ⟨_, u, _, hUpgrade, _⟩
  have hRecords := (records_cancelPlan hPlan).2
  rw [result_processCancel hOk] at hRecords
  rw [hRecords]
  exact .restore _ _ (by simp [records, hUpgrade])
    (le_max_left _ _) (le_max_right _ _)

theorem changes_of_processTimeout
    {m : TimeoutMessage}
    {report : EventReport TimeoutStep}
    {p : Plan Event}
    (hOk : h.processTimeout m = .ok report)
    (hPlan : timeoutPlan report.result h = .ok p) :
    (h.records m.key).Changes
      ((h.applyAll p.writes).records m.key) := by
  rcases processTimeout_eq_ok hOk with
    ⟨_, u, _, _, hUpgrade, hKey⟩
  rcases records_timeoutPlan hPlan with
    ⟨_, error, hSequence, hRecords⟩
  rw [hKey] at hSequence hRecords
  rw [hRecords]
  exact .restore _ _ (by simp [records, hUpgrade])
    (le_of_eq hSequence.symm) (le_refl _)

end Host

end Interchain

------------------------------------------------------------
-- Messages
------------------------------------------------------------

namespace Interchain

namespace Host

open Records

variable {h : Host} {m : UpgradeMessage}

/- Each way to take a step is made of changes. -/
theorem Takes.evolves
    {events : List Event}
    {after : Host}
    (hTakes : h.Takes m events after) :
    (h.records m.key).Evolves (after.records m.key) := by
  cases hTakes with
  | @init m report p hOk hPlan =>
      rcases records_of_processInit hOk hPlan with
        ⟨c, hChannel, hState, hRecords⟩
      rw [UpgradeMessage.key, hRecords]
      rw [← records_channel hChannel] at hState ⊢
      exact evolves_of_changes
        (.propose _ _ hState (le_refl _))
  | attempt hStaged hOk hPlan =>
      exact evolves_of_processTry hStaged hOk hPlan
  | ack hOk hPlan => exact evolves_of_processAck hOk hPlan
  | confirm hOk hPlan =>
      exact evolves_of_processConfirm hOk hPlan
  | confirmOpen hOk hPlan hOpen =>
      exact (evolves_of_processConfirm hOk hPlan).tail
        (changes_of_openPlan hOpen)
  | reopen hOk hPlan =>
      exact evolves_of_changes (changes_of_openPlan hPlan)
  | cancel hOk hPlan =>
      exact evolves_of_changes
        (changes_of_processCancel hOk hPlan)
  | timeout hOk hPlan =>
      exact evolves_of_changes
        (changes_of_processTimeout hOk hPlan)

/- A step that fails for the attempt has stored a proposal at
   most. -/
theorem Ends.evolves
    {error : UpgradeError}
    {events : List Event}
    {before : Host}
    (hEnds : h.Ends m error events before) :
    (h.records m.key).Evolves (before.records m.key) := by
  cases hEnds with
  | attempt hStaged hEnded => exact .refl
  | @staged m error step p hStaged hEnded hPlan =>
      have hRecords := (records_stepPlan hPlan).2
      rw [(key_of_stageAnswer hStaged).1] at hRecords
      rw [UpgradeMessage.key, hRecords]
      exact evolves_of_answered hStaged rfl
  | ack hEnded => exact .refl
  | confirm hEnded => exact .refl

/- However a message is answered, the records of its channel
   go through changes. -/
theorem evolves_dispatch
    (h : Host)
    (m : UpgradeMessage) :
    (h.records m.key).Evolves
      ((h.dispatch m).2.records m.key) := by
  have hAnswers := h.answers_dispatch m
  rcases hDispatch : h.dispatch m with ⟨result, after⟩
  rw [hDispatch] at hAnswers
  cases hAnswers with
  | rejected cause => exact .refl
  | taken log hTakes => exact hTakes.evolves
  | givenUp hEnds hPlan =>
      exact hEnds.evolves.tail (changes_of_abortPlan hPlan)

end Host

end Interchain

------------------------------------------------------------
-- Packets and Looks
------------------------------------------------------------

namespace Interchain

namespace Host

open Records

variable {h : Host} {key : ChannelKey}

/- A refresh lets the records evolve. -/
theorem Looks.evolves
    {after : Host}
    (hLooks : h.Looks key after) :
    (h.records key).Evolves (after.records key) := by
  cases hLooks with
  | still => exact .refl
  | drained hChannel hState hEmpty =>
      rw [(h.records_completePlan key _).2]
      rw [← records_channel hChannel] at hState ⊢
      exact evolves_of_changes (.drain hState hEmpty)
  | expired hChannel hState hSequence hPlan =>
      exact evolves_of_changes (changes_of_abortPlan hPlan)

/- The packet that a happening sends on a channel, if it is
   accepted. -/
def sent?
    (hash : Hash)
    (h : Host)
    (key : ChannelKey) :
    Happening → Option Packet
  | .act (.send p) =>
      match ((Session.start h).send hash p).1 with
      | .ok _ => if p.source = key then some p else none
      | .error _ => none
  | _ => none

/- Whatever a chain does, other than sending, the records of
   the channel that it is about go through changes. -/
theorem evolves_perform
    (hash : Hash)
    {a : Action}
    (hAbout : a.channel? = some key)
    (hSent : h.sent? hash key (.act a) = none) :
    (h.records key).Evolves
      ((h.perform hash a).records key) := by
  cases a with
  | dispatch m =>
      cases hAbout
      exact h.evolves_dispatch m
  | send p =>
      cases hAbout
      rcases send_cases (s := .start h) hash p rfl with
        ⟨_, hOk, _⟩ | ⟨_, _, hSame⟩
      · simp [sent?, hOk] at hSent
      · rw [perform, hSame]
        exact .refl
  | resolve packet =>
      cases hAbout
      rcases looks_resolvePacket (s := .start h) packet rfl with
        ⟨resolved, hResolved, hLooks⟩
      have hResolves :
          (h.records packet.source).Evolves
            (resolved.records packet.source) := by
        rw [hResolved, records_apply_noCommitment]
        exact evolves_of_changes (.resolve packet.sequence)
      exact hResolves.trans hLooks.evolves
  | refresh other =>
      cases hAbout
      exact (looks_refresh (s := .start h) key rfl).evolves
  | abort other reason =>
      cases hAbout
      exact (Session.carryOut_host (s := .start h)
        (P := fun after =>
          (h.records key).Evolves (after.records key)) rfl
        .refl fun _ hMade =>
          evolves_of_changes (changes_of_abortPlan hMade)).1
  | advance => simp [Action.channel?] at hAbout

/- Whatever happens, a packet is sent on a channel, or its
   records go through changes. -/
theorem evolves_undergo
    (hash : Hash)
    {x : Happening}
    (hSent : h.sent? hash key x = none) :
    (h.records key).Evolves
      ((h.undergo hash x).records key) := by
  by_cases hAbout : x.channel? = some key
  · cases x with
    | act action => exact evolves_perform hash hAbout hSent
    | learn client height state => exact .refl
  · exact evolves_of_eq (records_undergo_of_ne hash hAbout)

/- A packet that fits its channel is accepted. -/
theorem sent?_of_checkSend
    (hash : Hash)
    {p : Packet}
    (hOk : h.checkSend p = .ok ()) :
    h.sent? hash p.source (.act (.send p)) = some p := by
  have hSend :
      ∃ report, ((Session.start h).send hash p).1 = .ok report := by
    rcases send_cases (s := .start h) hash p rfl with
      ⟨report, hSent, _⟩ | ⟨_, hError, _⟩
    · exact ⟨report, hSent⟩
    · simp [Session.send, Session.start, processSend, hOk,
        Session.writeAll_of_refused_eq_none] at hError
  rcases hSend with ⟨report, hSent⟩
  simp [sent?, hSent]

/- A packet that is sent is counted, and nothing else of its
   channel changes. -/
theorem sends_undergo
    {hash : Hash}
    {x : Happening}
    {p : Packet}
    (hSent : h.sent? hash key x = some p) :
    (h.records key).Sends p.sequence
      ((h.undergo hash x).records key) := by
  unfold sent? at hSent
  split at hSent
  case h_1 q =>
    split at hSent
    case h_1 report hOk =>
      split at hSent
      case isTrue hKey =>
        cases hSent
        subst hKey
        rcases send_cases (s := .start h) hash p rfl with
          ⟨_, _, hSends⟩ | ⟨_, hError, _⟩
        · exact hSends
        · simp [hOk] at hError
      case isFalse => simp at hSent
    case h_2 => simp at hSent
  case h_2 => simp at hSent

end Host

end Interchain
