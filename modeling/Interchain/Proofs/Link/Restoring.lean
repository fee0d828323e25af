import Interchain.Proofs.Link.Draining
import Interchain.Proofs.Link.Reopening

/-
  Restoring the end that opens last.

  Once one end has completed an attempt, the other one, done
  flushing, should complete it too.  It is restored by a
  message in one case only: on a receipt that the open end has
  held since.  Such a receipt is of a further attempt that was
  given up, and the end that is done flushing takes it for its
  own attempt.

  Main declarations:
    * `Records.ReceiptFits`
    * `Records.IsBeyond`
    * `Records.RestoredOn`

  Main statements:
    * `Link.Run.receipt_since`
    * `Link.Run.restores_on_receipt`
    * `Link.Run.restored_exactly_on_receipt_since`
-/

------------------------------------------------------------
-- Receipts
------------------------------------------------------------

namespace Interchain

namespace Records

variable {o : Outlook} {r r' : Records} {n : Sequence}

/- A receipt is not of a later attempt, and with a proposal it
   is of an earlier one. -/
def ReceiptFits (r : Records) : Prop :=
  ∀ receipt, r.receipt? = some receipt →
    receipt.sequence ≤ r.attempt ∧
      (r.upgrade?.isSome → receipt.sequence < r.attempt)

/- An attempt is over: a proposal is of a later one, and a
   receipt is not of an earlier one. -/
structure IsBeyond (n : Sequence) (r : Records) : Prop where
  attempt : n ≤ r.attempt
  upgrade : r.upgrade?.isSome → n < r.attempt
  receipt :
    ∀ receipt, r.receipt? = some receipt →
      n ≤ receipt.sequence

/- A receipt fits still as an attempt proceeds. -/
theorem Proceeds.receiptFits
    (hStep : Proceeds o r r')
    (hLimit : r'.attempt.number ≠ Word.greatest)
    (hFits : r.ReceiptFits) :
    r'.ReceiptFits := by
  intro receipt hReceipt
  cases hStep with
  | propose u last hState hLast hValid hChange =>
      have hLt : receipt.sequence < last.next :=
        lt_of_le_of_lt
          (le_trans (hFits receipt hReceipt).1 hLast)
          (Sequence.lt_next hLimit)
      exact ⟨le_of_lt hLt, fun _ => hLt⟩
  | flush own settled answer seen hState hOwn hProven hAnswer
      hSeen hMirrors hFields hCompatible =>
      have hHeld := hFits receipt hReceipt
      exact ⟨hHeld.1, fun _ => hHeld.2 (by rw [hOwn]; rfl)⟩
  | resolve s => exact hFits receipt hReceipt
  | learn counterparty hState => exact hFits receipt hReceipt
  | drain hState hEmpty => exact hFits receipt hReceipt

/- It fits where the end is restored to its attempt or a later
   one. -/
theorem receiptFits_restored
    {sequence : Sequence}
    {receipt : ErrorReceipt}
    (hLe : receipt.sequence ≤ sequence) :
    (r.restored sequence receipt).ReceiptFits := by
  intro held hHeld
  have hSame : receipt = held := Option.some.inj hHeld
  subst hSame
  exact ⟨hLe, fun hUpgrade => by simp [restored] at hUpgrade⟩

/- It fits as an attempt concludes. -/
theorem Concludes.receiptFits
    (hStep : Concludes o r r') :
    r'.ReceiptFits := by
  cases hStep with
  | reopen u seen hState hUpgrade hProven hSeen =>
      intro receipt hReceipt
      simp [opened] at hReceipt
  | abort error hUpgrade hState hSequence =>
      exact receiptFits_restored (le_max_right _ _)
  | cancel receipt seen hUpgrade hSequence hProven hSeen =>
      exact receiptFits_restored (le_max_right _ _)
  | overrule receipt hUpgrade hSequence hState =>
      exact receiptFits_restored (le_max_right _ _)

/- So it fits after any move. -/
theorem Moves.receiptFits
    (hMoves : Moves o r r')
    (hLimit : r'.attempt.number ≠ Word.greatest)
    (hFits : r.ReceiptFits) :
    r'.ReceiptFits :=
  hMoves.keeps hLimit (fun _ _ => hFits)
    (fun hStep hStepLimit hHeld =>
      hStep.receiptFits hStepLimit hHeld)
    fun hStep _ => hStep.receiptFits

end Records

end Interchain

------------------------------------------------------------
-- Attempts That Are Over
------------------------------------------------------------

namespace Interchain

namespace Records

variable {o : Outlook} {r r' : Records} {n : Sequence}

/- An attempt that is completed is over. -/
theorem Completes.isBeyond
    {seen : Records}
    {u : Upgrade}
    (hCompletes : Completes n r r')
    (hReopens : Reopens o r r' u seen) :
    r'.IsBeyond n where
  attempt := le_of_eq hCompletes.attempt_eq.symm
  upgrade := by
    intro hUpgrade
    rw [hReopens.dropped] at hUpgrade
    simp at hUpgrade
  receipt := by
    intro receipt hReceipt
    rw [hReopens.cleared] at hReceipt
    simp at hReceipt

/- It remains over as a later one proceeds. -/
theorem Proceeds.isBeyond
    (hStep : Proceeds o r r')
    (hLimit : r'.attempt.number ≠ Word.greatest)
    (hBeyond : r.IsBeyond n) :
    r'.IsBeyond n := by
  rcases hBeyond with ⟨hAttempt, hUpgrade, hReceipt⟩
  cases hStep with
  | propose u last hState hLast hValid hChange =>
      have hLt : n < last.next :=
        lt_of_le_of_lt (le_trans hAttempt hLast)
          (Sequence.lt_next hLimit)
      exact ⟨le_of_lt hLt, fun _ => hLt, hReceipt⟩
  | flush own settled answer seen hState hOwn hProven hAnswer
      hSeen hMirrors hFields hCompatible =>
      exact ⟨hAttempt, fun _ => hUpgrade (by rw [hOwn]; rfl),
        hReceipt⟩
  | resolve s => exact ⟨hAttempt, hUpgrade, hReceipt⟩
  | learn counterparty hState =>
      exact ⟨hAttempt, hUpgrade, hReceipt⟩
  | drain hState hEmpty => exact ⟨hAttempt, hUpgrade, hReceipt⟩

/- It is over when the end is restored at it or beyond. -/
theorem isBeyond_restored
    {sequence : Sequence}
    {receipt : ErrorReceipt}
    (hAttempt : n ≤ sequence)
    (hReceipt : n ≤ receipt.sequence) :
    (r.restored sequence receipt).IsBeyond n where
  attempt := hAttempt
  upgrade := fun hUpgrade => by simp [restored] at hUpgrade
  receipt := by
    intro held hHeld
    have hSame : receipt = held := Option.some.inj hHeld
    subst hSame
    exact hReceipt

/- A receipt of a later attempt is at least of the attempt
   before that. -/
theorem Concludes.isBeyond
    (hStep : Concludes o r r')
    (hBeyond : r.IsBeyond n) :
    r'.IsBeyond n := by
  rcases hBeyond with ⟨hAttempt, hLater, hReceipt⟩
  cases hStep with
  | reopen u seen hState hUpgrade hProven hSeen =>
      exact ⟨hAttempt, fun h => by simp [opened] at h,
        fun _ h => by simp [opened] at h⟩
  | abort error hUpgrade hState hSequence =>
      have hPrevious :=
        Sequence.le_previous_of_lt (hLater hUpgrade)
      exact isBeyond_restored
        (le_trans hAttempt (le_max_left _ _))
        (le_trans hPrevious hSequence)
  | cancel receipt seen hUpgrade hSequence hProven hSeen =>
      exact isBeyond_restored
        (le_trans hAttempt (le_max_left _ _))
        (le_trans hAttempt hSequence)
  | overrule receipt hUpgrade hSequence hState =>
      exact isBeyond_restored
        (le_trans hAttempt (le_max_left _ _))
        (le_trans hAttempt hSequence)

/- So it remains over with any move. -/
theorem Moves.isBeyond
    (hMoves : Moves o r r')
    (hLimit : r'.attempt.number ≠ Word.greatest)
    (hBeyond : r.IsBeyond n) :
    r'.IsBeyond n :=
  hMoves.keeps hLimit
    (fun _ _ =>
      ⟨hBeyond.attempt, hBeyond.upgrade, hBeyond.receipt⟩)
    (fun hStep hStepLimit hHeld =>
      hStep.isBeyond hStepLimit hHeld)
    fun hStep hHeld => hStep.isBeyond hHeld

end Records

end Interchain

------------------------------------------------------------
-- Leaving the End of Flushing
------------------------------------------------------------

namespace Interchain

namespace Records

variable {o : Outlook} {r r' : Records}

/- An end is restored on a receipt, with the fields that it
   had. -/
structure RestoredOn
    (receipt : ErrorReceipt)
    (before after : Records) : Prop where
  channel :
    after.channel = before.channel.restored receipt.sequence
  dropped : after.upgrade? = none
  kept : after.receipt? = some receipt

theorem restoredOn_restored (receipt : ErrorReceipt) :
    RestoredOn receipt r
      (r.restored receipt.sequence receipt) where
  channel := rfl
  dropped := rfl
  kept := rfl

/- An end that is done flushing waits to be opened. -/
theorem Proceeds.waits
    (hStep : Proceeds o r r')
    (hState : r.channel.state = .flushComplete) :
    r'.channel = r.channel ∧ r'.upgrade? = r.upgrade? := by
  cases hStep with
  | resolve s => exact ⟨rfl, rfl⟩
  | learn counterparty hFlushing => exact ⟨rfl, rfl⟩
  | propose u last hOpen hLast hValid hChange =>
      simp [hState] at hOpen
  | flush own settled answer seen hOpen hOwn hProven hAnswer
      hSeen hMirrors hFields hCompatible =>
      simp [hState] at hOpen
  | drain hFlushing hEmpty => simp [hState] at hFlushing

/- Its attempt ends by completion or on a proven receipt. -/
theorem Concludes.completes_or_restores
    (hStep : Concludes o r r')
    (hState : r.channel.state = .flushComplete) :
    Completes r.attempt r r' ∨
      ∃ receipt seen,
        r.attempt ≤ receipt.sequence ∧ o.proven seen ∧
          seen.receipt? = some receipt ∧
          RestoredOn receipt r r' := by
  cases hStep with
  | reopen u seen hDone hUpgrade hProven hSeen =>
      exact Or.inl (completes_opened hState hUpgrade)
  | abort error hUpgrade hOpen hSequence =>
      simp [hState] at hOpen
  | cancel receipt seen hUpgrade hSequence hProven hSeen =>
      rw [max_eq_right hSequence]
      exact Or.inr ⟨receipt, seen, hSequence, hProven, hSeen,
        restoredOn_restored receipt⟩
  | overrule receipt hUpgrade hSequence hNot =>
      exact (hNot hState).elim

/- An end that is done waits, completes its attempt, or is
   restored on a proven receipt. -/
theorem Moves.waits_completes_or_restores
    (hMoves : Moves o r r')
    (hState : r.channel.state = .flushComplete) :
    (r'.channel = r.channel ∧ r'.upgrade? = r.upgrade?) ∨
      Completes r.attempt r r' ∨
      ∃ receipt seen,
        r.attempt ≤ receipt.sequence ∧ o.proven seen ∧
          seen.receipt? = some receipt ∧
          RestoredOn receipt r r' := by
  cases hMoves with
  | rest => exact Or.inl ⟨rfl, rfl⟩
  | send s hOpen hNext => simp [hState] at hOpen
  | proceed hStep => exact Or.inl (hStep.waits hState)
  | proceedTwice hFirst hSecond =>
      rcases hFirst.waits hState with ⟨hChannel, hUpgrade⟩
      rcases hSecond.waits (by rw [hChannel, hState]) with
        ⟨hChannel', hUpgrade'⟩
      exact Or.inl
        ⟨hChannel'.trans hChannel, hUpgrade'.trans hUpgrade⟩
  | conclude hStep =>
      exact Or.inr (hStep.completes_or_restores hState)
  | proceedConclude hFirst hStep =>
      rcases hFirst.waits hState with ⟨hChannel, _⟩
      have hMiddle := hState
      rw [← hChannel] at hMiddle
      rcases hStep.completes_or_restores hMiddle with
        hCompletes | ⟨receipt, seen, hLe, hProven, hSeen,
          hRestored⟩
      · exact Or.inr
          (Or.inl (hFirst.completes hMiddle hCompletes))
      · rw [attempt, hChannel] at hLe
        have hRestoredChannel := hRestored.channel
        rw [hChannel] at hRestoredChannel
        exact Or.inr (Or.inr ⟨receipt, seen, hLe, hProven, hSeen,
          hRestoredChannel, hRestored.dropped, hRestored.kept⟩)

end Records

end Interchain

------------------------------------------------------------
-- Receipts since a Completion
------------------------------------------------------------

namespace Interchain

namespace Link

variable {hash : Hash} {link : Link hash}
variable {allowed : Action → Prop}
variable {trace newer older : List Chains} {p q : Chains}
variable {side : Side} {n : Sequence}

/- Throughout a run, receipts fit. -/
theorem Run.receiptFits
    (hRun : link.Run allowed trace)
    (hOrdinary : ∀ a, allowed a → a.IsOrdinary)
    (hFree : CollisionFree hash allowed trace)
    (hLimit : link.BelowLimit trace)
    (hStart : (link.records side link.start).receipt? = none) :
    ∀ c ∈ trace, (link.records side c).ReceiptFits := by
  have hFits : (link.records side link.start).ReceiptFits := by
    intro receipt hReceipt
    rw [hStart] at hReceipt
    simp at hReceipt
  rcases hRun.exists_eq_append_start with ⟨newer, rfl⟩
  have hSince :=
    hRun.forall_since hOrdinary hFree hLimit hFits
      fun hc hMoves hHeld =>
        hMoves.receiptFits
          (hLimit _ (List.mem_append_left _ hc) side) hHeld
  intro c hc
  rcases List.mem_append.mp hc with hNewer | hFirst
  · exact hSince c hNewer
  · rw [List.mem_singleton.mp hFirst]
    exact hFits

/- After a completion, receipts are not of earlier attempts. -/
theorem Run.isBeyond_since
    (hRun : link.Run allowed (newer ++ q :: p :: older))
    (hOrdinary : ∀ a, allowed a → a.IsOrdinary)
    (hFree :
      CollisionFree hash allowed (newer ++ q :: p :: older))
    (hLimit : link.BelowLimit (newer ++ q :: p :: older))
    (hCompletes :
      Records.Completes n (link.records side p)
        (link.records side q)) :
    (link.records side q).receipt? = none ∧
      ∀ c ∈ newer, (link.records side c).IsBeyond n := by
  rcases
      hRun.of_append.reopens_last hOrdinary hFree.of_append
        hLimit.of_append hCompletes with
    ⟨u, seen, hReopens⟩
  refine ⟨hReopens.cleared, ?_⟩
  exact hRun.forall_since hOrdinary hFree hLimit
    (hCompletes.isBeyond hReopens) fun hc hMoves hHeld =>
      hMoves.isBeyond
        (hLimit _ (List.mem_append_left _ hc) side) hHeld

/- Receipts held before a completion are of earlier
   attempts. -/
theorem Run.receipt_lt_of_completes
    (hRun : link.Run allowed (q :: p :: older))
    (hOrdinary : ∀ a, allowed a → a.IsOrdinary)
    (hFree : CollisionFree hash allowed (q :: p :: older))
    (hLimit : link.BelowLimit (q :: p :: older))
    (hStart : (link.records side link.start).receipt? = none)
    (hCompletes :
      Records.Completes n (link.records side p)
        (link.records side q))
    {c : Chains}
    (hc : c ∈ p :: older)
    {receipt : ErrorReceipt}
    (hReceipt :
      (link.records side c).receipt? = some receipt) :
    receipt.sequence < n := by
  have hPast := hRun.of_cons (by simp)
  have hInvariant :=
    hPast.invariant hOrdinary hFree.of_cons hLimit.of_cons
  have hPrecedes :=
    (hInvariant.extends_last side).after _ (mem_history side hc)
  have hFits :=
    hPast.receiptFits hOrdinary hFree.of_cons hLimit.of_cons
      hStart c hc receipt hReceipt
  have hAttempt := hCompletes.1.1
  by_contra hNot
  have hLe : n ≤ receipt.sequence := le_of_not_gt hNot
  have hSame :
      (link.records side c).attempt =
        (link.records side p).attempt := by
    apply le_antisymm hPrecedes.attempt
    rw [hAttempt]
    exact le_trans hLe hFits.1
  have hNoUpgrade :
      ¬ (link.records side c).upgrade?.isSome := by
    intro hUpgrade
    have hLt := hFits.2 hUpgrade
    rw [hSame, hAttempt] at hLt
    exact hNot hLt
  -- without a proposal an end is past the phases of flushing,
  -- and cannot come before one that still flushes
  have hLate : ¬ (link.records side c).phase ≤ 2 := by
    rwa [(hInvariant.sound side _
      (mem_history side hc)).phase_le_two_iff]
  have hEarly : (link.records side p).phase ≤ 2 := by
    rw [(hInvariant.sound side _
      List.mem_cons_self).phase_le_two_iff]
    rcases hCompletes with ⟨_, u, hUpgrade, _⟩
    rw [hUpgrade]
    rfl
  exact hLate (le_trans (hPrecedes.same hSame).phase hEarly)

/- A receipt that is not of an attempt before the one completed
   was left after the completion. -/
theorem Run.receipt_since
    (hRun : link.Run allowed (newer ++ q :: p :: older))
    (hOrdinary : ∀ a, allowed a → a.IsOrdinary)
    (hFree :
      CollisionFree hash allowed (newer ++ q :: p :: older))
    (hLimit : link.BelowLimit (newer ++ q :: p :: older))
    (hStart : (link.records side link.start).receipt? = none)
    (hCompletes :
      Records.Completes n (link.records side p)
        (link.records side q))
    {receipt : ErrorReceipt}
    (hLe : n ≤ receipt.sequence)
    {seen : Records}
    (hSeen :
      seen ∈ link.history (newer ++ q :: p :: older) side)
    (hReceipt : seen.receipt? = some receipt) :
    ∃ c ∈ newer,
      (link.records side c).receipt? = some receipt := by
  rcases List.mem_map.mp hSeen with ⟨c, hc, rfl⟩
  rcases List.mem_append.mp hc with hNewer | hOlder
  · exact ⟨c, hNewer, hReceipt⟩
  rcases List.mem_cons.mp hOlder with rfl | hBefore
  · have hCleared :=
      (hRun.isBeyond_since hOrdinary hFree hLimit
        hCompletes).1
    rw [hCleared] at hReceipt
    simp at hReceipt
  · have hLt :=
      hRun.of_append.receipt_lt_of_completes hOrdinary
        hFree.of_append hLimit.of_append hStart hCompletes hBefore hReceipt
    exact absurd hLe (not_le_of_gt hLt)

end Link

end Interchain

------------------------------------------------------------
-- Restoring
------------------------------------------------------------

namespace Interchain

namespace Link

variable {hash : Hash} (link : Link hash)

/- The message that shows an end a receipt of the other one. -/
def cancelMessage
    (side : Side)
    (seen : Chains)
    (receipt : ErrorReceipt)
    (signer : Signer) :
    CancelMessage where
  key := link.key side
  receipt := receipt
  receiptProof := some ((seen.host side.other).commitmentProof hash)
  proofHeight := (seen.host side.other).height
  signer := signer

variable {link} {allowed : Action → Prop}
variable {now p q : Chains} {past newer older : List Chains}
variable {side : Side} {n : Sequence}

/- An end cancels its attempt on a receipt that the other one
   held, and that is not of an earlier attempt. -/
theorem Run.restores_on_receipt
    (hRun : link.Run allowed (now :: past))
    (hInvariant : link.Invariant (now :: past))
    (hState : (link.records side now).channel.state ≠ .open)
    {seen : Chains}
    (hSeen : seen ∈ now :: past)
    {receipt : ErrorReceipt}
    (hReceipt :
      (link.records side.other seen).receipt? = some receipt)
    (hLe : (link.records side now).attempt ≤ receipt.sequence)
    (signer : Signer) :
    ∃ client,
      Succeeds
          ((link.told side now client seen).dispatch
            (.cancel
              (link.cancelMessage side seen receipt signer))).1 ∧
        ((link.told side now client seen).dispatch
            (.cancel
              (link.cancelMessage side seen receipt
                signer))).2.records (link.key side) =
          (link.records side now).restored receipt.sequence
            receipt := by
  rcases
      hInvariant.exists_openConnection
        (hRun.hasSameLinks now List.mem_cons_self side)
        List.mem_cons_self hState with
    ⟨id, connection, hConnection, hHears⟩
  rcases Host.openConnection_eq_ok.mp hConnection with
    ⟨_, hFound, hOpen⟩
  have hSound :=
    hInvariant.sound side (link.records side now)
      List.mem_cons_self
  rcases Option.isSome_iff_exists.mp (hSound.upgrade hState) with
    ⟨u, hUpgrade⟩
  have hOwnEnd :
      (now.host side).channels[link.key side]? =
        some (link.records side now).channel := by
    apply channels_eq
    rcases hSound.state with h | h | h <;> rw [h] <;> simp
  have hVerified :=
    (hRun.told_remembers hSeen hHears).verifyReceipt_of_receipt
      (hRun.storePrefix_eq List.mem_cons_self hSeen hFound hOpen)
      (link.isSlashFree side.other) hSound.peer hReceipt
  have hCancel :
      ∃ report,
        (link.told side now connection.client seen).processCancel
          (link.cancelMessage side seen receipt signer) =
          .ok report :=
    Host.processCancel_eq_ok_iff.mpr
      ⟨_, u, hOwnEnd, hUpgrade, hLe,
        Or.inr (Host.verifyCancel_eq_ok_iff.mpr
          ⟨id, connection, _, hConnection, rfl, hVerified⟩)⟩
  rcases hCancel with ⟨report, hOk⟩
  rcases Host.dispatch_cancel_succeeds hOk with
    ⟨hSucceeds, hRecords⟩
  exact ⟨connection.client, hSucceeds, hRecords⟩

/- A run can go on with that. -/
theorem Standing.cancel
    {own peer : Records}
    (hStands : link.Standing now past side own peer)
    (hFree :
      CollisionFree hash Action.IsOrdinary (now :: past))
    (hState : own.channel.state ≠ .open)
    {receipt : ErrorReceipt}
    (hReceipt : peer.receipt? = some receipt)
    (hLe : own.attempt ≤ receipt.sequence)
    (hLimit : receipt.sequence.number ≠ Word.greatest)
    (signer : Signer) :
    ∃ next before,
      link.Standing next (before :: now :: past) side
          (own.restored receipt.sequence receipt) peer ∧
        link.Standing before (now :: past) side own peer := by
  rw [← hStands.own] at hState hLe
  rw [← hStands.peer] at hReceipt
  rcases
      hStands.run.restores_on_receipt
        (hStands.run.invariant (fun _ h => h) hFree
          hStands.limit)
        hState
        List.mem_cons_self hReceipt hLe signer with
    ⟨client, _, hRecords⟩
  rw [hStands.own] at hRecords
  exact hStands.tell_dispatch client _ hRecords hLimit

/-
  Once one end completed an attempt, the other end, done
  flushing for it, waits or completes it too unless the first
  end has held an error receipt since.  On any such receipt
  the other end is restored to the fields that it had.
-/
theorem Run.restored_exactly_on_receipt_since
    (hRun : link.Run allowed (now :: past))
    (hOrdinary : ∀ a, allowed a → a.IsOrdinary)
    (hFree : CollisionFree hash allowed (now :: past))
    (hLimit : link.BelowLimit (now :: past))
    (hStart :
      (link.records side.other link.start).receipt? = none)
    (hTrace : now :: past = newer ++ q :: p :: older)
    (hCompletes :
      Records.Completes n (link.records side.other p)
        (link.records side.other q))
    (hState :
      (link.records side now).channel.state = .flushComplete)
    (hAttempt : (link.records side now).attempt = n) :
    (∀ next, link.Run allowed (next :: now :: past) →
        ((link.records side next).channel =
              (link.records side now).channel ∧
            (link.records side next).upgrade? =
              (link.records side now).upgrade?) ∨
          Records.Completes n (link.records side now)
            (link.records side next) ∨
          ∃ receipt,
            (∃ c ∈ newer,
              (link.records side.other c).receipt? =
                some receipt) ∧
              Records.RestoredOn receipt
                (link.records side now)
                (link.records side next)) ∧
      ∀ c ∈ newer, ∀ receipt,
        (link.records side.other c).receipt? = some receipt →
        ∀ signer, ∃ client,
          Succeeds
              ((link.told side now client c).dispatch
                (.cancel
                  (link.cancelMessage side c receipt
                    signer))).1 ∧
            Records.RestoredOn receipt (link.records side now)
              (((link.told side now client c).dispatch
                (.cancel
                  (link.cancelMessage side c receipt
                    signer))).2.records (link.key side)) := by
  constructor
  · intro next hNext
    have hMoves :=
      hNext.moves_last hOrdinary hFree hLimit side
    rcases hMoves.waits_completes_or_restores hState with
      hWaits | hDone | ⟨receipt, seen, hLe, hSeen, hReceipt,
        hRestored⟩
    · exact Or.inl hWaits
    · rw [hAttempt] at hDone
      exact Or.inr (Or.inl hDone)
    · rw [hAttempt] at hLe
      rw [hTrace] at hRun hFree hLimit
      change seen ∈ link.history (now :: past) side.other
        at hSeen
      rw [hTrace] at hSeen
      exact Or.inr (Or.inr ⟨receipt,
        hRun.receipt_since hOrdinary hFree hLimit hStart
          hCompletes hLe hSeen hReceipt,
        hRestored⟩)
  · intro c hc receipt hReceipt signer
    have hSince :
        (link.records side.other c).IsBeyond n := by
      rw [hTrace] at hRun hFree hLimit
      exact
        (hRun.isBeyond_since hOrdinary hFree hLimit
          hCompletes).2 c hc
    have hLe :
        (link.records side now).attempt ≤ receipt.sequence := by
      rw [hAttempt]
      exact hSince.receipt receipt hReceipt
    rcases
        hRun.restores_on_receipt
          (hRun.invariant hOrdinary hFree hLimit)
          (by rw [hState]; simp)
          (hTrace ▸ List.mem_append_left _ hc) hReceipt hLe
          signer with
      ⟨client, hSucceeds, hRecords⟩
    refine ⟨client, hSucceeds, ?_⟩
    rw [hRecords]
    exact Records.restoredOn_restored receipt

end Link

namespace Fixture

/- What B leaves when its authority withdraws the further
   attempt. -/
def withdrawal : ErrorReceipt :=
  ⟨Sequence.zero.next.next, "withdrawn"⟩

theorem isAuthority_link (hash : Hash) :
    ((link hash).start.host .right).params.isAuthority
      signer = true := by
  change
    { Params.standard with
      authority := some signer }.isAuthority signer = true
  decide

/- B has completed an attempt, then begun another, and then
   withdrawn it, while A is done flushing for the first. -/
theorem further_attempt_withdrawn (hash : Hash) :
    ∃ now between opened before past,
      (link hash).Standing now
          (between :: opened :: before :: past) .left
          ((offer hash).stage .left .flushComplete
            Sequence.zero.next
            (some ((offer hash).flushing .left)))
          ((link hash).records .right now) ∧
        ((link hash).records .right now).receipt? =
          some withdrawal ∧
        Records.Completes Sequence.zero.next
          ((link hash).records .right before)
          ((link hash).records .right opened) := by
  rcases further_attempt hash with
    ⟨between, opened, before, past, hBetween, hCompletes⟩
  have hLe : Sequence.zero.next.next ≤ withdrawal.sequence :=
    le_refl _
  rcases
      hBetween.flip.withdraw (isAuthority_link hash) rfl rfl hLe
        (by decide) with
    ⟨now, hNow⟩
  have hLast := hNow.flip
  refine ⟨now, between, opened, before, past, ?_, ?_,
    hCompletes⟩
  · rw [show (link hash).records .right now = _ from hLast.peer]
    exact hLast
  · rw [show (link hash).records .right now = _ from hLast.peer]
    rfl

/- On the sample chains, A can be restored after B opened. -/
theorem sample_restored_on_receipt :
    ∃ now past,
      (link id).Run Action.IsOrdinary (now :: past) ∧
        (link id).BelowLimit (now :: past) ∧
        (link id).Turned (now :: past) .right
          Sequence.zero.next ∧
        ((link id).records .left now).channel.state =
          .flushComplete ∧
        ((link id).records .left now).attempt =
          Sequence.zero.next ∧
        ∃ client,
          Records.RestoredOn withdrawal
            ((link id).records .left now)
            ((((link id).told .left now client now).dispatch
              (.cancel
                ((link id).cancelMessage .left now withdrawal
                  signer))).2.records (key .left)) := by
  rcases further_attempt_withdrawn id with
    ⟨now, between, opened, before, past, hNow, hReceipt,
      hCompletes⟩
  rcases Link.Offer.at_stage hNow with ⟨hState, hAttempt⟩
  have hTrace :
      now :: between :: opened :: before :: past =
        [now, between] ++ opened :: before :: past := rfl
  have hCompletesOther :
      Records.Completes Sequence.zero.next
        ((link id).records (Side.other .left) before)
        ((link id).records (Side.other .left) opened) :=
    hCompletes
  rcases
      hNow.run.restored_exactly_on_receipt_since
        (fun _ h => h)
        (Link.collisionFree_of_injective Function.injective_id)
        hNow.limit
        (congrArg Records.receipt? (records_link id _))
        hTrace hCompletesOther hState hAttempt with
    ⟨_, hRestores⟩
  rcases
      hRestores now List.mem_cons_self withdrawal hReceipt signer with
    ⟨client, _, hRestored⟩
  exact ⟨now, _, hNow.run, hNow.limit,
    ⟨_, _, ⟨[now, between], opened, before, past, rfl, rfl, rfl⟩,
      hCompletes⟩,
    hState, hAttempt, client, hRestored⟩

/- A run of the sample chains, from ends without any receipt or
   upgrade, that ends with A open on its old fields after B has
   opened with the new ones in the same attempt. -/
theorem sample_split_brain :
    (∀ side,
        ((link id).records side (link id).start).receipt? =
            none ∧
          ((link id).records side
            (link id).start).counterparty? = none) ∧
      ∃ next now past,
        (link id).Run Action.IsOrdinary (next :: now :: past) ∧
          (link id).BelowLimit (next :: now :: past) ∧
          (link id).Turned (now :: past) .right
            Sequence.zero.next ∧
          ((link id).records .left now).channel.state =
            .flushComplete ∧
          ((link id).records .left now).attempt =
            Sequence.zero.next ∧
          ((link id).records .left next).channel.state =
            .open ∧
          ((link id).records .left next).channel.fields =
            ((link id).records .left
              (link id).start).channel.fields ∧
          ¬ Records.Completes Sequence.zero.next
            ((link id).records .left now)
            ((link id).records .left next) := by
  refine ⟨?_, ?_⟩
  · intro side
    exact ⟨congrArg Records.receipt? (records_link id side),
      congrArg Records.counterparty? (records_link id side)⟩
  rcases further_attempt_withdrawn id with
    ⟨now, between, opened, before, past, hNow, hReceipt,
      hCompletes⟩
  have hLe : Sequence.zero.next ≤ withdrawal.sequence := by
    decide
  rcases
      hNow.cancel
        (Link.collisionFree_of_injective Function.injective_id)
        (by decide) hReceipt hLe (by decide) signer with
    ⟨next, told, hNext, hTold⟩
  rcases Link.Offer.at_stage hTold with ⟨hState, hAttempt⟩
  have hTurned :
      (link id).Turned
        (told :: now :: between :: opened :: before :: past)
        .right Sequence.zero.next :=
    ⟨_, _, ⟨[told, now, between], opened, before, past, rfl, rfl,
      rfl⟩, hCompletes⟩
  refine ⟨next, told, _, hNext.run, hNext.limit, hTurned,
    hState, hAttempt, ?_, ?_, ?_⟩
  · rw [hNext.own]
    rfl
  · rw [hNext.own, (offer id).stage_start .left]
    rfl
  · intro hCompletesToo
    have hBoth := hCompletesToo.attempt_eq
    rw [hNext.own] at hBoth
    have hEq : withdrawal.sequence = Sequence.zero.next := hBoth
    exact absurd hEq (by decide)

end Fixture

end Interchain
