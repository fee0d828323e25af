import Interchain.Proofs.Course.Run
import Interchain.Proofs.Handshake.Evidence
import Interchain.Proofs.Handshake.Looking
import Interchain.Proofs.Handshake.Opening
import Interchain.Proofs.Handshake.Progress

/-
  What becomes of a proposal.

  A stored proposal does not name the attempt that it was made
  for.  A chronicle of a chain keeps that attempt beside the
  chain, from when the proposal is stored.  A happening keeps a
  proposal, begins a new one, opens the channel with it, or
  gives it up and leaves a receipt.

  Main declarations:
    * `Host.begun?`
    * `Chronicle`
    * `Host.Fate`

  Main statements:
    * `Host.fate_undergo`
    * `Chronicle.IsCurrent.course`
-/

------------------------------------------------------------
-- Beginning an Attempt
------------------------------------------------------------

namespace Interchain

instance
    (result : Except DispatchError (EventReport UpgradeOutcome)) :
    Decidable (Succeeds result) :=
  match result with
  | .error _ =>
      .isFalse fun ⟨_, hOk, _⟩ => nomatch hOk
  | .ok report =>
      decidable_of_iff (report.result = .success)
        ⟨fun hSuccess => ⟨report, rfl, hSuccess⟩,
          fun ⟨_, hOk, hSuccess⟩ =>
            Except.ok.inj hOk ▸ hSuccess⟩

namespace Host

/- A message stores a new proposal: one that it makes, or one
   that answers the counterparty's where none is stored. -/
def Begins (h : Host) : UpgradeMessage → Prop
  | .init m => Succeeds (h.dispatch (.init m)).1
  | .attempt m =>
      h.upgrades[m.key]? = none ∧
        Succeeds (h.dispatch (.attempt m)).1
  | _ => False

instance (h : Host) (m : UpgradeMessage) :
    Decidable (h.Begins m) := by
  cases m <;> unfold Begins <;> infer_instance

/- The channel on which a happening begins an attempt. -/
def begun? (h : Host) : Happening → Option ChannelKey
  | .act (.dispatch m) => if h.Begins m then some m.key else none
  | _ => none

end Host

end Interchain

------------------------------------------------------------
-- Chronicles
------------------------------------------------------------

namespace Interchain

/- A chain, with the attempt that the stored proposal of each
   channel was made for. -/
structure Chronicle where
  host : Host
  attempt : ChannelKey → Sequence

namespace Chronicle

/- Where an attempt begins, it is the one that the end is at
   once the proposal is stored. -/
def undergo
    (hash : Hash)
    (c : Chronicle)
    (x : Happening) :
    Chronicle where
  host := c.host.undergo hash x
  attempt := fun key =>
    if c.host.begun? x = some key then
      ((c.host.undergo hash x).records key).attempt
    else
      c.attempt key

/- What a chronicle comes to, one happening after another. -/
def course
    (hash : Hash)
    (c : Chronicle)
    (happenings : List Happening) :
    Chronicle :=
  happenings.foldl (undergo hash) c

/- Every stored proposal is for the attempt that the end of its
   channel is at. -/
def IsCurrent (c : Chronicle) : Prop :=
  ∀ key,
    (c.host.records key).upgrade?.isSome →
      c.attempt key = (c.host.records key).attempt

variable {hash : Hash} {c : Chronicle} {x : Happening}
variable {key : ChannelKey}

/- The chain of a chronicle takes the same course alone. -/
theorem host_course (happenings : List Happening) :
    (c.course hash happenings).host =
      c.host.course hash happenings := by
  induction happenings generalizing c with
  | nil => rfl
  | cons x rest ih => exact ih

/- A proposal or an answer sets the attempt that is kept track
   of. -/
theorem attempt_of_begun
    (hBegun : c.host.begun? x = some key) :
    (c.undergo hash x).attempt key =
      ((c.undergo hash x).host.records key).attempt :=
  if_pos hBegun

theorem attempt_of_not_begun
    (hBegun : c.host.begun? x ≠ some key) :
    (c.undergo hash x).attempt key = c.attempt key :=
  if_neg hBegun

end Chronicle

end Interchain

------------------------------------------------------------
-- Receipts That Cover an Attempt
------------------------------------------------------------

namespace Interchain

namespace Host

/-
  A receipt tells a counterparty that is in an attempt of the
  end of that attempt.  When a proposal of the counterparty is
  given up because it was proven to lie behind, the receipt is
  for the attempt before the current one, which is not before
  that of the counterparty.
-/
def Covers
    (h : Host)
    (x : Happening)
    (key : ChannelKey)
    (n : Sequence)
    (receipt : ErrorReceipt) : Prop :=
  n ≤ receipt.sequence ∨
    ∃ m : TryMessage,
      x = .act (.dispatch (.attempt m)) ∧
        m.key = key ∧
        h.HasEvidence (.attempt m) ∧
        m.counterpartySequence < n ∧
        m.counterpartySequence ≤ receipt.sequence ∧
        receipt.sequence = n.previous

variable {h before : Host} {events : List Event}
variable {error : UpgradeError}

/- A proposal that lies behind is covered for the attempt just
   before the one that ends. -/
theorem covers_of_behind
    {m : TryMessage}
    {n : Sequence}
    (hEvidence : h.HasEvidence (.attempt m))
    (hBehind : m.counterpartySequence < n)
    (hSequence : error.sequence = n.previous) :
    h.Covers (.act (.dispatch (.attempt m))) m.key n
      error.receipt := by
  have hLe : m.counterpartySequence ≤ error.sequence := by
    rw [hSequence]
    exact Sequence.le_previous_of_lt hBehind
  exact Or.inr
    ⟨m, rfl, rfl, hEvidence, hBehind, hLe, hSequence⟩

/- The error that ends a step covers the attempt of the stored
   proposal. -/
theorem Ends.covers_stored
    {m : UpgradeMessage}
    (hEnds : h.Ends m error events before)
    (hStored : (h.records m.key).upgrade?.isSome) :
    h.Covers (.act (.dispatch m)) m.key
      (h.records m.key).attempt error.receipt := by
  have hEvidence := hEnds.hasEvidence
  cases hEnds with
  | @attempt m error hStaged hEnded =>
      rcases sequence_of_processTry hEnded with
        ⟨c, u, hAnswered, hSequence⟩
      simp [answered] at hAnswered
      rw [Records.attempt, UpgradeMessage.key,
        records_channel hAnswered.1]
      rcases hSequence with ⟨hBehind, hPrevious⟩ | hLe
      · exact covers_of_behind hEvidence hBehind hPrevious
      · exact Or.inl hLe
  | @staged m error step p hStaged hEnded hPlan =>
      rcases stageAnswer_eq_ok hStaged with
        ⟨hNone, _⟩ | ⟨_, _, _, hNone, _⟩
      · simp at hNone
      · simp [records, UpgradeMessage.key, hNone] at hStored
  | @ack m error hEnded =>
      rcases processAck_eq_ended hEnded with
        ⟨c, hChannel, _, hLe⟩
      rw [Records.attempt, UpgradeMessage.key,
        records_channel hChannel]
      exact Or.inl hLe
  | @confirm m error hEnded =>
      rcases processConfirm_eq_ended hEnded with
        ⟨c, hChannel, _, hLe⟩
      rw [Records.attempt, UpgradeMessage.key,
        records_channel hChannel]
      exact Or.inl hLe

/- It also covers the attempt of a proposal that was staged. -/
theorem Ends.covers_staged
    {m : TryMessage}
    {step : UpgradeStep}
    (hEnds : h.Ends (.attempt m) error events before)
    (hStaged : h.stageAnswer m = .ok (some step)) :
    h.Covers (.act (.dispatch (.attempt m))) m.key
      step.channel.upgradeSequence error.receipt := by
  have hEvidence := hEnds.hasEvidence
  cases hEnds with
  | attempt hOther hEnded => simp [hStaged] at hOther
  | staged hOther hEnded hPlan =>
      rw [hStaged, Except.ok.injEq,
        Option.some.injEq] at hOther
      subst hOther
      rcases sequence_of_processTry hEnded with
        ⟨c, u, hAnswered, hSequence⟩
      simp only [answered, Except.ok.injEq,
        Prod.mk.injEq] at hAnswered
      rw [← hAnswered.1] at hSequence
      rcases hSequence with ⟨hBehind, hPrevious⟩ | hLe
      · exact covers_of_behind hEvidence hBehind hPrevious
      · exact Or.inl hLe

end Host

end Interchain

------------------------------------------------------------
-- Fates
------------------------------------------------------------

namespace Interchain

namespace Host

/- What a happening makes of the proposal of a channel. -/
inductive Fate
    (h : Host)
    (x : Happening)
    (key : ChannelKey)
    (after : Host) : Prop
  | kept
      (hUpgrade :
        (after.records key).upgrade?.isSome =
          (h.records key).upgrade?.isSome)
      (hAttempt :
        (after.records key).attempt =
          (h.records key).attempt)
  | begun
      (hBegun : h.begun? x = some key)
  | opened
      {m : UpgradeMessage}
      (hMessage : x = .act (.dispatch m))
      (hOpens : Opens (h.dispatch m).1)
      (hNone : (after.records key).upgrade? = none)
  | givenUp
      {receipt : ErrorReceipt}
      (hNone : (after.records key).upgrade? = none)
      (hReceipt : (after.records key).receipt? = some receipt)
      (hCovers :
        (h.records key).upgrade?.isSome →
          h.Covers x key (h.records key).attempt receipt)

variable {h after : Host} {key : ChannelKey}
variable {x : Happening}

/- Records that stay as they are keep their attempt. -/
theorem fate_of_records_eq
    (hSame : after.records key = h.records key) :
    h.Fate x key after := by
  apply Fate.kept <;> rw [hSame]

/- An end that holds a proposal still, at the attempt that it
   was at, has kept it. -/
theorem fate_of_kept
    {c : ChannelEnd}
    (hChannel : h.channels[key]? = some c)
    (hHeld : (h.records key).upgrade?.isSome)
    (hHolds : (after.records key).upgrade?.isSome)
    (hAttempt :
      (after.records key).attempt = c.upgradeSequence) :
    h.Fate x key after := by
  apply Fate.kept
  · rw [hHolds, hHeld]
  · rw [hAttempt, Records.attempt, records_channel hChannel]

/- Records that are restored leave a receipt. -/
theorem fate_of_restored
    {r : Records}
    {sequence : Sequence}
    {receipt : ErrorReceipt}
    (hRecords :
      after.records key = r.restored sequence receipt)
    (hCovers :
      (h.records key).upgrade?.isSome →
        h.Covers x key (h.records key).attempt receipt) :
    h.Fate x key after :=
  .givenUp (by rw [hRecords]; rfl) (by rw [hRecords]; rfl)
    hCovers

/- An acknowledged end is at the attempt that it was at. -/
theorem fate_of_ackPlan
    {m : AckMessage}
    {report : EventReport AckStep}
    {p : Plan Event}
    (hOk : h.processAck m = .ok report)
    (hPlan : ackPlan report.result h = .ok p) :
    h.Fate (.act (.dispatch (.ack m))) m.key
      (h.applyAll p.writes) := by
  rcases records_of_processAck hOk hPlan with
    ⟨c, stored, upgrade, hChannel, hStored, hRecords⟩
  have hHeld : (h.records m.key).upgrade?.isSome := by
    simp [records, hStored]
  rcases hRecords with hRecords | ⟨_, hRecords⟩
  · exact fate_of_kept hChannel hHeld
      (by rw [hRecords]; rfl) (by rw [hRecords])
  · exact fate_of_kept hChannel hHeld
      (by rw [hRecords]; rfl) (by rw [hRecords])

/- So is a confirmed one. -/
theorem fate_of_confirmPlan
    {m : ConfirmMessage}
    {report : EventReport ConfirmStep}
    {p : Plan (Event × Bool)}
    (hOk : h.processConfirm m = .ok report)
    (hPlan : confirmPlan report.result h = .ok p) :
    h.Fate (.act (.dispatch (.confirm m))) m.key
      (h.applyAll p.writes) := by
  rcases records_of_processConfirm hOk hPlan with
    ⟨c, u, hChannel, _, hUpgrade, hRecords⟩
  have hHeld : (h.records m.key).upgrade?.isSome := by
    simp [records, hUpgrade]
  rcases hRecords with hRecords | ⟨_, hRecords⟩
  · apply Fate.kept <;> rw [hRecords]
  · exact fate_of_kept hChannel hHeld
      (by rw [hRecords]; exact hHeld) (by rw [hRecords])

/- A step that is taken keeps the proposal, begins one, opens
   the channel, or leaves a receipt. -/
theorem Takes.fate
    {m : UpgradeMessage}
    {events : List Event}
    (hTakes : h.Takes m events after)
    (hResult :
      ∃ log, (h.dispatch m).1 = .ok ⟨.success, log, events⟩) :
    h.Fate (.act (.dispatch m)) m.key after := by
  rcases hResult with ⟨log, hResult⟩
  have hSucceeds : Succeeds (h.dispatch m).1 :=
    ⟨_, hResult, rfl⟩
  cases hTakes with
  | init hOk hPlan =>
      apply Fate.begun
      exact if_pos hSucceeds
  | @attempt m staged report p hStaged hOk hPlan =>
      rcases stageAnswer_eq_ok hStaged with
        ⟨rfl, hStored⟩ | ⟨_, _, _, hNone, _⟩
      · rcases records_of_processTry hOk hPlan with
          ⟨c, u, upgrade, hAnswered, hRecords⟩
        simp [answered] at hAnswered
        have hHeld : (h.records m.key).upgrade?.isSome := by
          simp [records, hAnswered.2]
        rw [UpgradeMessage.key]
        exact fate_of_kept hAnswered.1 hHeld
          (by rw [hRecords]; rfl) (by rw [hRecords])
      · apply Fate.begun
        exact if_pos ⟨hNone, hSucceeds⟩
  | ack hOk hPlan => exact fate_of_ackPlan hOk hPlan
  | confirm hOk hPlan => exact fate_of_confirmPlan hOk hPlan
  | confirmOpen hOk hPlan hOpen =>
      rcases outcome_openPlan hOpen with ⟨attributes, hEvent⟩
      rcases records_openPlan hOpen with ⟨_, u, _, hRecords⟩
      apply Fate.opened rfl ⟨_, attributes, hResult, ?_⟩
      · exact congrArg Records.upgrade? hRecords
      · simp [hEvent]
  | reopen hOk hPlan =>
      rcases outcome_openPlan hPlan with ⟨attributes, hEvent⟩
      rcases records_openPlan hPlan with ⟨_, u, _, hRecords⟩
      apply Fate.opened rfl ⟨_, attributes, hResult, ?_⟩
      · exact congrArg Records.upgrade? hRecords
      · simp [hEvent]
  | @cancel m report p hOk hPlan =>
      rcases processCancel_eq_ok_iff.mp ⟨report, hOk⟩ with
        ⟨c, _, hChannel, _, hLe, _⟩
      have hRecords := (records_cancelPlan hPlan).2
      rw [result_processCancel hOk] at hRecords
      apply fate_of_restored hRecords
      intro _
      rw [Records.attempt, records_channel hChannel]
      exact Or.inl hLe
  | @timeout m report p hOk hPlan =>
      rcases processTimeout_eq_ok hOk with
        ⟨_, _, _, _, _, hKey⟩
      rcases records_timeoutPlan hPlan with
        ⟨_, error, hSequence, hRecords⟩
      rw [hKey] at hSequence hRecords
      exact fate_of_restored hRecords fun _ =>
        Or.inl (le_of_eq hSequence.symm)

/- An attempt that is given up leaves a receipt that covers
   it. -/
theorem Ends.fate
    {m : UpgradeMessage}
    {error : UpgradeError}
    {events : List Event}
    {before : Host}
    {p : Plan (EventReport ErrorReceipt)}
    (hEnds : h.Ends m error events before)
    (hPlan : abortPlan m.key (.step error) before = .ok p) :
    h.Fate (.act (.dispatch m)) m.key
      (before.applyAll p.writes) := by
  rcases records_abortPlan hPlan with ⟨_, _, _, rfl, hRecords⟩
  exact fate_of_restored hRecords hEnds.covers_stored

/- What a message does to the attempt of its channel. -/
theorem fate_dispatch
    (h : Host)
    (m : UpgradeMessage) :
    h.Fate (.act (.dispatch m)) m.key (h.dispatch m).2 := by
  have hAnswers := h.answers_dispatch m
  rcases hDispatch : h.dispatch m with ⟨result, after⟩
  rw [hDispatch] at hAnswers
  cases hAnswers with
  | rejected cause => exact fate_of_records_eq rfl
  | taken log hTakes =>
      exact hTakes.fate ⟨log, by rw [hDispatch]⟩
  | givenUp hEnds hPlan => exact hEnds.fate hPlan

end Host

end Interchain

------------------------------------------------------------
-- Anything That Happens
------------------------------------------------------------

namespace Interchain

namespace Host

variable {h after : Host} {key : ChannelKey}
variable {x : Happening}

/- A look gives up an attempt with a receipt for it. -/
theorem Looks.fate
    {before : Host}
    (hLooks : before.Looks key after)
    (hUpgrade :
      (before.records key).upgrade? = (h.records key).upgrade?)
    (hChannel :
      (before.records key).channel = (h.records key).channel) :
    h.Fate x key after := by
  cases hLooks with
  | still =>
      apply Fate.kept
      · rw [hUpgrade]
      · rw [Records.attempt, hChannel]
  | @drained c hFound hState hEmpty =>
      have hRecords := (before.records_completePlan key c).2
      apply Fate.kept
      · rw [hRecords, ← hUpgrade]
      · rw [hRecords, Records.attempt, Records.attempt,
          ← hChannel, records_channel hFound]
  | @expired c error p hFound hState hSequence hPlan =>
      rcases records_abortPlan hPlan with
        ⟨_, _, _, rfl, hRecords⟩
      apply fate_of_restored hRecords
      intro _
      rw [Records.attempt, ← hChannel, records_channel hFound]
      exact Or.inl (le_of_eq hSequence.symm)

/- An ordinary action decides on the proposal of the channel
   that it is about. -/
theorem fate_perform
    (hash : Hash)
    {a : Action}
    (hAbout : a.channel? = some key)
    (hOrdinary : a.IsOrdinary) :
    h.Fate (.act a) key (h.perform hash a) := by
  cases a with
  | dispatch m =>
      cases hAbout
      exact h.fate_dispatch m
  | send p =>
      cases hAbout
      rcases send_cases (s := .start h) hash p rfl with
        ⟨_, _, hSends⟩ | ⟨_, _, hSame⟩
      · apply Fate.kept <;> rw [perform, hSends.after] <;> rfl
      · exact fate_of_records_eq
          (congrArg (fun after => after.records p.source) hSame)
  | resolve packet =>
      cases hAbout
      rcases looks_resolvePacket (s := .start h) packet rfl with
        ⟨resolved, hResolved, hLooks⟩
      have hResolved : resolved = h.apply (.noCommitment packet) :=
        hResolved
      apply hLooks.fate <;>
        rw [hResolved, records_apply_noCommitment]
  | refresh other =>
      cases hAbout
      exact (looks_refresh (s := .start h) key rfl).fate rfl rfl
  | abort other reason => exact hOrdinary.elim
  | advance => simp [Action.channel?] at hAbout

/- Whatever happens, bar giving up from outside, decides on the
   proposal of each channel. -/
theorem fate_undergo
    (hash : Hash)
    (h : Host)
    {x : Happening}
    (hOrdinary : x.IsOrdinary)
    (key : ChannelKey) :
    h.Fate x key (h.undergo hash x) := by
  by_cases hAbout : x.channel? = some key
  · cases x with
    | act action => exact fate_perform hash hAbout hOrdinary
    | learn client height state =>
        simp [Happening.channel?] at hAbout
  · exact fate_of_records_eq (records_undergo_of_ne hash hAbout)

/- An attempt begins with a message for its channel. -/
theorem exists_of_begun
    (hBegun : h.begun? x = some key) :
    ∃ m,
      x = .act (.dispatch m) ∧ m.key = key ∧ h.Begins m := by
  unfold begun? at hBegun
  split at hBegun
  case h_1 m =>
    split at hBegun
    case isTrue hBegins =>
      exact ⟨m, rfl, Option.some.inj hBegun, hBegins⟩
    case isFalse => simp at hBegun
  case h_2 => simp at hBegun

/- An attempt begins with a proposal, or where none is
   stored. -/
theorem upgrade_of_begun
    (hBegun : h.begun? x = some key) :
    (∃ m, x = .act (.dispatch (.init m))) ∨
      (h.records key).upgrade? = none := by
  rcases exists_of_begun hBegun with ⟨m, rfl, rfl, hBegins⟩
  cases m with
  | init m => exact Or.inl ⟨m, rfl⟩
  | attempt m => exact Or.inr hBegins.1
  | _ => exact hBegins.elim

end Host

end Interchain

------------------------------------------------------------
-- Current Proposals
------------------------------------------------------------

namespace Interchain

namespace Chronicle

variable {c : Chronicle}

/- Whatever happens, bar giving up from outside, a stored
   proposal is for the attempt that the end is at. -/
theorem IsCurrent.undergo
    (hash : Hash)
    {x : Happening}
    (hCurrent : c.IsCurrent)
    (hOrdinary : x.IsOrdinary) :
    (c.undergo hash x).IsCurrent := by
  intro key hStored
  by_cases hBegun : c.host.begun? x = some key
  · exact attempt_of_begun hBegun
  rw [attempt_of_not_begun hBegun]
  cases c.host.fate_undergo hash hOrdinary key with
  | kept hUpgrade hAttempt =>
      exact (hCurrent key (hUpgrade ▸ hStored)).trans
        hAttempt.symm
  | begun hOther => exact (hBegun hOther).elim
  | opened hMessage hOpens hNone =>
      rw [Chronicle.undergo, hNone] at hStored
      simp at hStored
  | givenUp hNone hReceipt hCovers =>
      rw [Chronicle.undergo, hNone] at hStored
      simp at hStored

/- Proposals stay current in the course of what happens. -/
theorem IsCurrent.course
    (hash : Hash)
    (happenings : List Happening)
    (hCurrent : c.IsCurrent)
    (hOrdinary : ∀ x ∈ happenings, x.IsOrdinary) :
    (c.course hash happenings).IsCurrent := by
  induction happenings generalizing c with
  | nil => exact hCurrent
  | cons x rest ih =>
      have hFirst := hOrdinary x List.mem_cons_self
      apply ih (hCurrent.undergo hash hFirst)
      intro y hy
      exact hOrdinary y (List.mem_cons_of_mem x hy)

end Chronicle

end Interchain
