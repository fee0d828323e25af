import Interchain.Proofs.Handshake.Acceptance
import Interchain.Proofs.Handshake.Answer

/-
  Giving up a proposal that was not answered in time.

  The proposing end is left with the channel as it was, at the
  same attempt, and with a receipt for that attempt.

  Main statements:
    * `Host.givesUp_of_succeeds`
    * `Host.dispatch_timeout_succeeds`
-/

------------------------------------------------------------
-- Giving Up
------------------------------------------------------------

namespace Interchain

namespace Host

variable {h : Host} {m : TimeoutMessage}

/- An end that gave up was open with a proposal, and keeps a
   receipt for the attempt. -/
theorem givesUp_of_succeeds
    (hSucceeds : Succeeds (h.dispatch (.timeout m)).1) :
    (h.records m.key).channel.state = .open ∧
      (h.records m.key).upgrade?.isSome ∧
      ∃ receipt : ErrorReceipt,
        receipt.sequence =
            (h.records m.key).channel.upgradeSequence ∧
          (h.dispatch (.timeout m)).2.records m.key =
            (h.records m.key).restored receipt.sequence
              receipt := by
  have hAnswers := h.answers_dispatch (.timeout m)
  rcases hSucceeds with ⟨report, hReport, hResult⟩
  rw [hReport] at hAnswers
  generalize (h.dispatch (.timeout m)).2 = after at hAnswers ⊢
  cases hAnswers with
  | taken log hTakes =>
      cases hTakes with
      | timeout hOk hPlan =>
          rcases processTimeout_eq_ok hOk with
            ⟨c, u, hChannel, hState, hUpgrade, hKey⟩
          have hRecords := (records_timeoutPlan hPlan).2
          rw [hKey] at hRecords
          rcases hRecords with ⟨error, hSequence, hRecords⟩
          refine
            ⟨by rw [records_channel hChannel]; exact hState,
              Option.isSome_iff_exists.mpr ⟨u, hUpgrade⟩,
              error.receipt, hSequence, hRecords⟩
  | givenUp hEnds => cases hEnds

/- A proposal that may be given up is. -/
theorem dispatch_timeout_succeeds
    {report : EventReport TimeoutStep}
    (hValid : m.validate = .ok ())
    (hOk : h.processTimeout m = .ok report) :
    Succeeds (h.dispatch (.timeout m)).1 := by
  rcases exists_timeoutPlan hOk with ⟨p, hPlan⟩
  exact
    (dispatch_of_conclude (m := .timeout m) hValid
      (Session.take_of_ok hOk timeoutPlan) hPlan rfl).1

end Host

end Interchain
