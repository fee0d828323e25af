import Interchain.Proofs.Course.Changes
import Interchain.Proofs.Course.Channels
import Interchain.Proofs.Course.Receipts

/-
  How the attempts of a channel are counted.

  An end counts its attempts up when it proposes, and it may
  skip some when it is restored with a receipt for a later one.
  It never goes back, and so it is never behind the receipt
  that it holds.

  Main declarations:
    * `Records.Dominates`
    * `Host.Dominates`

  Main statements:
    * `Host.attempt_course_le`
    * `Host.dominates_course`
-/

------------------------------------------------------------
-- Counting up
------------------------------------------------------------

namespace Interchain

namespace Records

variable {r r' : Records}

/- The end is not behind the receipt that it holds. -/
def Dominates (r : Records) : Prop :=
  ∀ receipt,
    r.receipt? = some receipt → receipt.sequence ≤ r.attempt

/- A later attempt dominates the same receipt. -/
theorem Dominates.mono
    (hDominates : r.Dominates)
    (hReceipt : r'.receipt? = r.receipt?)
    (hAttempt : r.attempt ≤ r'.attempt) :
    r'.Dominates := by
  intro receipt hHeld
  rw [hReceipt] at hHeld
  exact (hDominates receipt hHeld).trans hAttempt

/- A change does not count attempts down. -/
theorem Changes.attempt_le (hChanges : r.Changes r') :
    r.attempt ≤ r'.attempt := by
  cases hChanges with
  | resolve s => exact le_refl _
  | propose u last hState hLast =>
      exact hLast.trans last.le_next
  | flush u next hState hNext hStamped => exact le_refl _
  | learn counterparty hState => exact le_refl _
  | drain hState hEmpty => exact le_refl _
  | reopen u hUpgrade => exact le_refl _
  | restore sequence receipt hUpgrade hAttempt hReceipt =>
      exact hAttempt

/- Only an end that is restored holds another receipt, and it
   is restored at that receipt or past it. -/
theorem Changes.dominates
    (hChanges : r.Changes r')
    (hDominates : r.Dominates) :
    r'.Dominates := by
  have hAttempt := hChanges.attempt_le
  cases hChanges with
  | reopen u hUpgrade =>
      intro receipt hHeld
      simp [Records.opened] at hHeld
  | restore sequence receipt hUpgrade hLast hReceipt =>
      intro held hHeld
      simp only [Records.restored, Option.some.injEq] at hHeld
      rw [← hHeld]
      exact hReceipt
  | _ => exact hDominates.mono rfl hAttempt

theorem Evolves.attempt_le (hEvolves : r.Evolves r') :
    r.attempt ≤ r'.attempt :=
  hEvolves.keeps (P := fun m => r.attempt ≤ m.attempt)
    (fun _ _ hChanges hLe => hLe.trans hChanges.attempt_le)
    (le_refl _)

/- Receipts stay below the attempt, change by change. -/
theorem Evolves.dominates
    (hEvolves : r.Evolves r')
    (hDominates : r.Dominates) :
    r'.Dominates :=
  hEvolves.keeps (fun _ _ hChanges => hChanges.dominates)
    hDominates

/- Sending has no part in the attempts. -/
theorem Sends.attempt_eq
    {s : Sequence}
    (hSends : r.Sends s r') :
    r'.attempt = r.attempt := by
  rw [hSends.after]

theorem Sends.dominates
    {s : Sequence}
    (hSends : r.Sends s r')
    (hDominates : r.Dominates) :
    r'.Dominates := by
  apply hDominates.mono
  · rw [hSends.after]
  · exact hSends.attempt_eq.ge

end Records

end Interchain

------------------------------------------------------------
-- Courses
------------------------------------------------------------

namespace Interchain

namespace Host

variable {h : Host} {key : ChannelKey}

/- Every receipt belongs to a channel whose end is not behind
   it. -/
def Dominates (h : Host) : Prop :=
  ∀ (key : ChannelKey) (receipt : ErrorReceipt),
    h.receipts[key]? = some receipt →
      ∃ c,
        h.channels[key]? = some c ∧
          receipt.sequence ≤ c.upgradeSequence

/- Each channel of the chain has its receipt below its attempt. -/
theorem Dominates.records
    (hDominates : h.Dominates)
    (key : ChannelKey) :
    (h.records key).Dominates := by
  intro receipt hHeld
  rcases hDominates key receipt hHeld with ⟨c, hChannel, hLe⟩
  rw [Records.attempt, records_channel hChannel]
  exact hLe

/- A chain without receipts has none above an attempt. -/
theorem dominates_of_receipts_eq_none
    (hNone : ∀ key : ChannelKey, h.receipts[key]? = none) :
    h.Dominates := by
  intro key receipt hHeld
  simp [hNone key] at hHeld

/- Nothing that happens counts attempts down. -/
theorem attempt_undergo_le
    (hash : Hash)
    (h : Host)
    (x : Happening)
    (key : ChannelKey) :
    (h.records key).attempt ≤
      ((h.undergo hash x).records key).attempt := by
  cases hSent : h.sent? hash key x with
  | none => exact (evolves_undergo hash hSent).attempt_le
  | some p => exact (sends_undergo hSent).attempt_eq.ge

/- Whatever happens, the attempt of an end never goes back. -/
theorem attempt_course_le
    (hash : Hash)
    (h : Host)
    (happenings : List Happening)
    (key : ChannelKey) :
    (h.records key).attempt ≤
      ((h.course hash happenings).records key).attempt := by
  induction happenings generalizing h with
  | nil => exact le_refl _
  | cons x rest ih =>
      exact (h.attempt_undergo_le hash x key).trans (ih _)

/- Whatever happens, receipts stay below the attempts. -/
theorem Dominates.undergo
    (hash : Hash)
    (x : Happening)
    (hDominates : h.Dominates) :
    (h.undergo hash x).Dominates := by
  intro key receipt hHeld
  by_cases hMem : key ∈ h.channels
  · have hAfter :
        ((h.undergo hash x).records key).Dominates := by
      cases hSent : h.sent? hash key x with
      | none =>
          exact (evolves_undergo hash hSent).dominates
            (hDominates.records key)
      | some p =>
          exact (sends_undergo hSent).dominates
            (hDominates.records key)
    have hStill := (h.mem_channels_undergo hash x key).mpr hMem
    have hChannel := Std.ExtTreeMap.getElem?_eq_some_getElem hStill
    refine ⟨_, hChannel, ?_⟩
    rw [← records_channel hChannel]
    exact hAfter receipt hHeld
  · -- Without a channel the receipt was there before.
    rw [receipts_undergo_of_not_mem hash hMem] at hHeld
    rcases hDominates key receipt hHeld with ⟨c, hChannel, _⟩
    rw [Std.ExtTreeMap.getElem?_eq_none hMem] at hChannel
    simp at hChannel

/- So they are below in the end. -/
theorem Dominates.course
    (hash : Hash)
    (happenings : List Happening)
    (hDominates : h.Dominates) :
    (h.course hash happenings).Dominates := by
  induction happenings generalizing h with
  | nil => exact hDominates
  | cons x rest ih =>
      rw [course_cons]
      exact ih (hDominates.undergo hash x)

/-
  In any course of a chain, from receipts that are each for an
  attempt that the end of its channel has reached: a channel
  that exists at some time exists ever after, at the attempt
  that it was at or a later one, and each receipt is for an
  attempt that the end of its channel has reached.
-/
theorem dominates_course
    (hash : Hash)
    (h : Host)
    (before rest : List Happening)
    (hStart : h.Dominates) :
    (∀ (key : ChannelKey) (c : ChannelEnd),
        (h.course hash before).channels[key]? = some c →
          ∃ later : ChannelEnd,
            (h.course hash (before ++ rest)).channels[key]? =
                some later ∧
              c.upgradeSequence ≤ later.upgradeSequence) ∧
      (h.course hash (before ++ rest)).Dominates := by
  refine ⟨?_, hStart.course hash (before ++ rest)⟩
  intro key c hChannel
  have hMem : key ∈ (h.course hash before).channels := by
    rw [Std.ExtTreeMap.mem_iff_isSome_getElem?, hChannel]
    rfl
  have hStill :
      key ∈ (h.course hash (before ++ rest)).channels := by
    rw [course_append, mem_channels_course]
    exact hMem
  have hLater := Std.ExtTreeMap.getElem?_eq_some_getElem hStill
  refine ⟨_, hLater, ?_⟩
  rw [← records_channel hLater, ← records_channel hChannel,
    course_append]
  exact (h.course hash before).attempt_course_le hash rest key

end Host

end Interchain

------------------------------------------------------------
-- Sample Chain
------------------------------------------------------------

namespace Interchain

namespace Fixture

/- B proposes, and the proposal is withdrawn: the receipt is
   for the attempt that the end is at. -/
theorem sample_dominates_course :
    (host id .right).Dominates ∧
      (∃ c later,
        ((host id .right).course id
            [.act (.dispatch (.init initMessage))]).channels[
              key .right]? = some c ∧
          ((host id .right).course id
            ([.act (.dispatch (.init initMessage))] ++
              [.act (.dispatch
                (.cancel cancelMessage))])).channels[
                  key .right]? = some later ∧
          c.upgradeSequence ≤ later.upgradeSequence) ∧
      ((host id .right).course id
        ([.act (.dispatch (.init initMessage))] ++
          [.act (.dispatch (.cancel cancelMessage))])).Dominates ∧
      ((host id .right).course id
        ([.act (.dispatch (.init initMessage))] ++
          [.act (.dispatch (.cancel cancelMessage))])).receipts[
            key .right]? = some ⟨Sequence.zero.next, ""⟩ := by
  have hStart : (host id .right).Dominates :=
    Host.dominates_of_receipts_eq_none (receipts_host id .right)
  rcases
      Host.dominates_course id (host id .right)
        [.act (.dispatch (.init initMessage))]
        [.act (.dispatch (.cancel cancelMessage))] hStart with
    ⟨hLater, hDominates⟩
  have hState :
      ((chronicle.course id
        [.act (.dispatch (.init initMessage))]).host.records
          (key .right)).channel.state ≠ .uninitialized := by
    rw [proposes_once.records]
    simp [Link.Offer.stage, Link.endAt]
  have hChannel := Host.channels_eq_of_state_ne hState
  rcases hLater (key .right) _ hChannel with
    ⟨later, hFound, hLe⟩
  exact ⟨hStart, ⟨_, later, hChannel, hFound, hLe⟩, hDominates,
    congrArg Records.receipt? withdraws⟩

end Fixture

end Interchain
