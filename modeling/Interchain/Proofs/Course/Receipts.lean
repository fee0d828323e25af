import Interchain.Proofs.Course.Attempts
import Interchain.Proofs.Handshake.GivingUp
import Interchain.Proofs.Link.Offer

/-
  Receipts for the attempts of a chain.

  An attempt that ends, and does not open the channel, leaves a
  receipt that the counterparty can cancel it with, unless a
  new proposal takes its place.  A proposal of the counterparty
  that lies behind is the exception: the receipt is for the
  attempt before the one that ends.

  Main declarations:
    * `Chronicle.Ends`

  Main statements:
    * `Chronicle.ended_is_covered`
    * `Fixture.sample_uncovered`
-/

------------------------------------------------------------
-- Ends of an Attempt
------------------------------------------------------------

namespace Interchain

namespace Chronicle

/-
  A happening ends an attempt on a channel: the proposal stored
  for it is gone or replaced, or one that was staged to answer
  the counterparty is given up at once.
-/
inductive Ends
    (hash : Hash)
    (c : Chronicle)
    (key : ChannelKey) :
    Happening → Sequence → Prop
  | stored
      {x : Happening}
      (hStored : (c.host.records key).upgrade?.isSome)
      (hGone :
        ((c.undergo hash x).host.records key).upgrade?.isSome →
          (c.undergo hash x).attempt key ≠ c.attempt key) :
      Ends hash c key x (c.attempt key)
  | staged
      {m : TryMessage}
      {step : UpgradeStep}
      {report : EventReport UpgradeOutcome}
      {receipt : ErrorReceipt}
      (hKey : m.key = key)
      (hStaged : c.host.stageAnswer m = .ok (some step))
      (hAborted :
        (c.host.dispatch (.attempt m)).1 = .ok report ∧
          report.result = .aborted receipt) :
      Ends hash c key (.act (.dispatch (.attempt m)))
        step.channel.upgradeSequence

variable {hash : Hash} {c : Chronicle}
variable {key : ChannelKey} {x : Happening} {n : Sequence}

/- A staged proposal that is given up leaves a receipt for the
   attempt that it was staged for. -/
theorem covered_of_staged
    {m : TryMessage}
    {step : UpgradeStep}
    {report : EventReport UpgradeOutcome}
    {receipt : ErrorReceipt}
    (hStaged : c.host.stageAnswer m = .ok (some step))
    (hResult : (c.host.dispatch (.attempt m)).1 = .ok report)
    (hAborted : report.result = .aborted receipt) :
    ∃ left,
      (c.host.dispatch (.attempt m)).2.receipts[m.key]? =
          some left ∧
        c.host.Covers (.act (.dispatch (.attempt m))) m.key
          step.channel.upgradeSequence left := by
  have hAnswers := c.host.answers_dispatch (.attempt m)
  rcases hDispatch : c.host.dispatch (.attempt m) with
    ⟨result, after⟩
  rw [hDispatch] at hAnswers hResult
  subst hResult
  cases hAnswers with
  | taken log hTakes => simp at hAborted
  | givenUp hEnds hPlan =>
      rcases Host.records_abortPlan hPlan with
        ⟨_, _, _, rfl, hRecords⟩
      exact ⟨_, congrArg Records.receipt? hRecords,
        hEnds.covers_staged hStaged⟩

/- An attempt that a happening ends, other than by a proposal
   or by opening the channel, is covered by a receipt. -/
theorem IsCurrent.covered
    (hCurrent : c.IsCurrent)
    (hOrdinary : x.IsOrdinary)
    (hNoProposal : ∀ m, x ≠ .act (.dispatch (.init m)))
    (hEnds : c.Ends hash key x n)
    (hNotOpened :
      ∀ m, x = .act (.dispatch m) →
        ¬ Opens (c.host.dispatch m).1) :
    ∃ receipt,
      (c.undergo hash x).host.receipts[key]? = some receipt ∧
        c.host.Covers x key n receipt := by
  cases hEnds with
  | staged hKey hStaged hAborted =>
      subst hKey
      exact covered_of_staged hStaged hAborted.1 hAborted.2
  | stored hStored hGone =>
      have hBegun : c.host.begun? x ≠ some key := by
        intro hBegun
        rcases Host.upgrade_of_begun hBegun with
          ⟨m, hMessage⟩ | hNone
        · exact hNoProposal m hMessage
        · simp [hNone] at hStored
      cases c.host.fate_undergo hash hOrdinary key with
      | kept hUpgrade hAttempt =>
          exact (hGone (hUpgrade.trans hStored)
            (attempt_of_not_begun hBegun)).elim
      | begun hOther => exact (hBegun hOther).elim
      | opened hMessage hOpens hNone =>
          exact (hNotOpened _ hMessage hOpens).elim
      | givenUp hNone hReceipt hCovers =>
          rw [hCurrent key hStored]
          exact ⟨_, hReceipt, hCovers hStored⟩

/-
  In the course of ordinary happenings, from proposals that are
  each for the attempt of its end: whenever an attempt ends,
  other than by a proposal or by opening the channel, a receipt
  is stored.  It is for that attempt or a later one; only where
  the counterparty's proposal was proven to lie behind, it is
  for the attempt just before, and still not for one before
  that of the counterparty.
-/
theorem ended_is_covered
    (hash : Hash)
    (start : Chronicle)
    (happenings : List Happening)
    (key : ChannelKey)
    (x : Happening)
    (n : Sequence)
    (hCurrent : start.IsCurrent)
    (hOrdinary : ∀ y ∈ happenings, y.IsOrdinary)
    (hLast : x.IsOrdinary)
    (hNoProposal : ∀ m, x ≠ .act (.dispatch (.init m)))
    (hEnds : (start.course hash happenings).Ends hash key x n)
    (hNotOpened :
      ∀ m, x = .act (.dispatch m) →
        ¬ Opens
          ((start.course hash happenings).host.dispatch m).1) :
    ∃ receipt,
      ((start.course hash happenings).undergo
          hash x).host.receipts[key]? = some receipt ∧
        (n ≤ receipt.sequence ∨
          ∃ m : TryMessage,
            x = .act (.dispatch (.attempt m)) ∧
              m.key = key ∧
              (start.course hash happenings).host.HasEvidence
                (.attempt m) ∧
              m.counterpartySequence < n ∧
              m.counterpartySequence ≤ receipt.sequence ∧
              receipt.sequence = n.previous) :=
  (hCurrent.course hash happenings hOrdinary).covered hLast
    hNoProposal hEnds hNotOpened

end Chronicle

end Interchain

------------------------------------------------------------
-- Stale Proposals
------------------------------------------------------------

namespace Interchain

namespace Host

variable {h : Host}

/- A proposal of the counterparty that lies behind the stored
   one ends it, with a receipt for the attempt before. -/
theorem dispatch_attempt_gives_up
    {m : TryMessage}
    {c : ChannelEnd}
    {u : Upgrade}
    (hValid : m.validate = .ok ())
    (hChannel : h.channels[m.key]? = some c)
    (hUpgrade : h.upgrades[m.key]? = some u)
    (hVerified : h.verifyProposal m c u = .ok ())
    (hBehind : m.counterpartySequence < c.upgradeSequence) :
    ∃ receipt : ErrorReceipt,
      receipt.sequence = c.upgradeSequence.previous ∧
        (h.dispatch (.attempt m)).2.records m.key =
          (h.records m.key).restored c.upgradeSequence
            receipt := by
  have hEnds :=
    ends_of_behind hChannel hUpgrade hVerified hBehind
  have hRecords := (dispatch_of_ends (m := .attempt m) hValid hEnds).2
  have hMax :
      max c.upgradeSequence c.upgradeSequence.previous =
        c.upgradeSequence :=
    max_eq_left (Sequence.previous_le _)
  refine
    ⟨(staleError c.upgradeSequence
        m.counterpartySequence).receipt,
      rfl, hRecords.trans ?_⟩
  change (h.records m.key).givenUp _ = _
  rw [Records.givenUp, records_channel hChannel]
  simp only [staleError, hMax]

end Host

end Interchain

------------------------------------------------------------
-- Sample Chains
------------------------------------------------------------

namespace Interchain

namespace Fixture

/- B at the start, where no proposal is stored. -/
def chronicle : Chronicle := ⟨host id .right, fun _ => .zero⟩

/- No proposal is stored at the start. -/
theorem upgrades_host
    (hash : Hash)
    (side : Side)
    (k : ChannelKey) :
    (host hash side).upgrades[k]? = none := by
  cases side <;>
    simp [host, Host.apply, chainA, chainB, connected,
      Host.connect, standardChain, chain, Host.create]

theorem receipts_host
    (hash : Hash)
    (side : Side)
    (k : ChannelKey) :
    (host hash side).receipts[k]? = none := by
  cases side <;>
    simp [host, Host.apply, chainA, chainB, connected,
      Host.connect, standardChain, chain, Host.create]

theorem chronicle_isCurrent : chronicle.IsCurrent := by
  intro k hStored
  have hNone := upgrades_host id .right k
  simp [chronicle, Host.records, hNone] at hStored

/- B proposes what it offers. -/
def initMessage : InitMessage :=
  ⟨key .right, upgradeFields (upgradeHop .right), none, signer⟩

/- B is open and holds its proposal, made for an attempt. -/
structure Proposes (c : Chronicle) (n : Sequence) : Prop where
  setting : c.host.HasSameSetting (host id .right)
  records :
    c.host.records (key .right) =
      (offer id).stage .right .open n
        (some ((offer id).proposal .right))
  attempt : c.attempt (key .right) = n

/- As long as B is open, it can propose what it offers. -/
theorem proposes
    {h : Host}
    {n : Sequence}
    (hSetting : h.HasSameSetting (host id .right))
    (hChannel :
      h.channels[key .right]? =
        some ((link id).endAt .right .open n)) :
    Succeeds (h.dispatch (.init initMessage)).1 ∧
      (h.dispatch (.init initMessage)).2.records (key .right) =
        { h.records (key .right) with
          channel := (link id).endAt .right .open n.next
          upgrade? := some ((offer id).proposal .right) } := by
  have hSupported :
      h.checkSupport initMessage.fields = .ok () := by
    rw [hSetting.links.1.checkSupport_eq]
    exact checkSupport_host id .right ⟨"ics20-2"⟩
  exact
    Host.dispatch_init_succeeds (m := initMessage) (by decide)
      hChannel
      (Host.propose_ok
        (c := (link id).endAt .right .open n) (key .right) rfl
        (validate_upgradeFields .right) (upgradeFields_ne .right)
        hSupported none)

/- It can do so also in place of a proposal. -/
theorem proposes_undergo
    {c : Chronicle}
    {n : Sequence}
    {u? : Option Upgrade}
    (hSetting : c.host.HasSameSetting (host id .right))
    (hRecords :
      c.host.records (key .right) =
        (offer id).stage .right .open n u?) :
    Proposes
      (c.undergo id (.act (.dispatch (.init initMessage))))
      n.next := by
  have hState :
      (c.host.records (key .right)).channel.state = .open := by
    rw [hRecords]
    rfl
  have hChannel :
      c.host.channels[key .right]? =
        some ((link id).endAt .right .open n) := by
    rw [Host.channels_eq_of_state_ne (by rw [hState]; simp),
      hRecords]
    rfl
  have hDone := proposes hSetting hChannel
  have hAfter :
      (c.host.dispatch (.init initMessage)).2.records
          (key .right) =
        (offer id).stage .right .open n.next
          (some ((offer id).proposal .right)) := by
    rw [hDone.2, hRecords]
    rfl
  have hBegun :
      c.host.begun? (.act (.dispatch (.init initMessage))) =
        some (key .right) :=
    if_pos hDone.1
  refine ⟨?_, hAfter, ?_⟩
  · exact hSetting.trans
      (c.host.hasSameSetting_dispatch (.init initMessage))
  · rw [Chronicle.attempt_of_begun hBegun]
    exact congrArg Records.attempt hAfter

/- B after its first proposal. -/
theorem proposes_once :
    Proposes
      (chronicle.course id
        [.act (.dispatch (.init initMessage))])
      Sequence.zero.next :=
  proposes_undergo (c := chronicle) (Host.HasSameSetting.refl _)
    ((offer id).stage_start .right)

/- The authority of B withdraws a proposal, with a receipt. -/
def cancelWith (receipt : ErrorReceipt) : CancelMessage :=
  ⟨key .right, receipt, none, proofHeight, signer⟩

/- It withdraws the first proposal. -/
def cancelMessage : CancelMessage :=
  ⟨key .right, ⟨Sequence.zero.next, ""⟩, none, proofHeight,
    signer⟩

/- What is withdrawn leaves the receipt that was given, if it
   is for the attempt or a later one. -/
theorem withdrawn
    {c : Chronicle}
    {n : Sequence}
    (receipt : ErrorReceipt)
    (hProposes : Proposes c n)
    (hSequence : n ≤ receipt.sequence) :
    (c.host.dispatch (.cancel (cancelWith receipt))).2.records
        (key .right) =
      ((offer id).stage .right .open n
          (some ((offer id).proposal .right))).restored
        receipt.sequence receipt := by
  have hState :
      (c.host.records (key .right)).channel.state = .open := by
    rw [hProposes.records]
    rfl
  have hChannel :=
    Host.channels_eq_of_state_ne (by rw [hState]; simp)
  have hUpgrade := congrArg Records.upgrade? hProposes.records
  have hAttempt := congrArg Records.attempt hProposes.records
  have hAuthority :
      c.host.params.isAuthority signer = true := by
    rw [hProposes.setting.params]
    rfl
  have hCancel :=
    Host.processCancel_eq_ok_iff
      (m := cancelWith receipt)|>.mpr
        ⟨_, _, hChannel, hUpgrade,
          (le_of_eq hAttempt).trans hSequence,
          Or.inl ⟨hAuthority, by rw [hState]; simp⟩⟩
  rcases hCancel with ⟨report, hOk⟩
  refine (Host.dispatch_cancel_succeeds hOk).2.trans ?_
  exact congrArg
    (fun r : Records => r.restored receipt.sequence receipt)
    hProposes.records

/- The first proposal is withdrawn with the given receipt. -/
theorem withdraws :
    ((chronicle.course id
        [.act (.dispatch (.init initMessage))]).undergo id
          (.act (.dispatch (.cancel cancelMessage)))).host.records
            (key .right) =
      ((offer id).stage .right .open Sequence.zero.next
          (some ((offer id).proposal .right))).restored
        Sequence.zero.next ⟨Sequence.zero.next, ""⟩ :=
  withdrawn ⟨Sequence.zero.next, ""⟩ proposes_once (le_refl _)

/- B proposes, and withdraws the proposal: the receipt is for
   the attempt. -/
theorem sample_ended_is_covered :
    chronicle.IsCurrent ∧
      (chronicle.course id
          [.act (.dispatch (.init initMessage))]).Ends id
        (key .right) (.act (.dispatch (.cancel cancelMessage)))
        Sequence.zero.next ∧
      ∃ receipt,
        ((chronicle.course id
            [.act (.dispatch (.init initMessage))]).undergo id
              (.act (.dispatch
                (.cancel cancelMessage)))).host.receipts[
                  key .right]? = some receipt ∧
          Sequence.zero.next ≤ receipt.sequence := by
  have hOnce := proposes_once
  have hEnds :
      (chronicle.course id
          [.act (.dispatch (.init initMessage))]).Ends id
        (key .right) (.act (.dispatch (.cancel cancelMessage)))
        Sequence.zero.next := by
    rw [← hOnce.attempt]
    apply Chronicle.Ends.stored
    · rw [hOnce.records]
      rfl
    · rw [withdraws]
      simp [Records.restored]
  have hReceipt := congrArg Records.receipt? withdraws
  refine ⟨chronicle_isCurrent, hEnds, ?_⟩
  rcases
      Chronicle.ended_is_covered id chronicle
        [.act (.dispatch (.init initMessage))] (key .right)
        (.act (.dispatch (.cancel cancelMessage)))
        Sequence.zero.next chronicle_isCurrent (by
          intro y hy
          rw [List.mem_singleton.mp hy]
          trivial)
        trivial (by simp) hEnds (by
          rintro m ⟨⟩
          exact Host.not_opens_of_receipt hReceipt) with
    ⟨receipt, hStored, hLe | ⟨m, hMessage, _⟩⟩
  · exact ⟨receipt, hStored, hLe⟩
  · simp at hMessage

/- A proposal in place of another moves B to the next attempt,
   and leaves no receipt for the one before. -/
theorem replaces_without_receipt :
    (chronicle.course id
        [.act (.dispatch (.init initMessage))]).Ends id
          (key .right) (.act (.dispatch (.init initMessage)))
          Sequence.zero.next ∧
      ((chronicle.course id
        [.act (.dispatch (.init initMessage))]).undergo id
          (.act (.dispatch (.init initMessage)))).host.receipts[
            key .right]? = none := by
  have hOnce := proposes_once
  have hTwice := proposes_undergo hOnce.setting hOnce.records
  constructor
  · rw [← hOnce.attempt]
    apply Chronicle.Ends.stored
    · rw [hOnce.records]
      rfl
    · rw [hTwice.attempt, hOnce.attempt]
      decide
  · have hReceipt := congrArg Records.receipt? hTwice.records
    have hStart :=
      congrArg Records.receipt? (records_link id .right)
    exact hReceipt.trans hStart

/- B holds its second proposal, and A its first. -/
abbrev ProposesTwice (now : Chains) (past : List Chains) : Prop :=
  (link id).Standing now past .right
    ((offer id).stage .right .open Sequence.zero.next.next
      (some ((offer id).proposal .right)))
    ((offer id).stage .left .open Sequence.zero.next
      (some ((offer id).proposal .left)))

variable {now : Chains} {past : List Chains}

/- A proposes once, and B twice. -/
theorem proposes_twice : ∃ now past, ProposesTwice now past := by
  have hStart := (offer id).standing_start .left (by
    intro side
    change Sequence.zero.number ≠ Word.greatest
    decide)
  rcases Link.Offer.proposed hStart (by decide) with ⟨c₁, hA⟩
  have hB :
      (link id).Standing c₁ [(link id).start] .right
        ((offer id).stage .right .open .zero none)
        ((offer id).stage .left .open Sequence.zero.next
          (some ((offer id).proposal .left))) :=
    hA.flip
  rcases Link.Offer.proposed hB (by decide) with ⟨c₂, hOnce⟩
  rcases
      hOnce.propose rfl ((offer id).isValid .right)
        ((offer id).isChange .right)
        ((offer id).isSupported .right) (by decide) with
    ⟨c₃, hTwice⟩
  exact ⟨c₃, _, hTwice⟩

/- What happens on B up to where it is told of A. -/
theorem ProposesTwice.told
    (hTwice : ProposesTwice now past) :
    ∃ happenings : List Happening,
      (∀ y ∈ happenings, y.IsOrdinary) ∧
        (chronicle.course id happenings).host =
          (offer id).informed .right now := by
  -- Being told of A is one more happening on B.
  rcases
      (hTwice.tell ((offer id).connection .right).client
        List.mem_cons_self).run.exists_course _
        List.mem_cons_self .right with
    ⟨happenings, hAllowed, hCourse⟩
  rw [Chains.host_replace_self] at hCourse
  refine ⟨happenings, ?_, ?_⟩
  · intro y hy
    cases y with
    | act action => exact hAllowed action hy
    | learn client height state => trivial
  · rw [Chronicle.host_course]
    exact hCourse.symm

/- Once told, B can verify the proposal of A. -/
theorem ProposesTwice.verifyProposal_ok
    (hTwice : ProposesTwice now past) :
    ((offer id).informed .right now).verifyProposal
        ((offer id).tryMessage .right now Sequence.zero.next)
        ((link id).endAt .right .open Sequence.zero.next.next)
        ((offer id).proposal .right) =
      .ok () := by
  have hCompatible := (offer id).isCompatible .right
  rw [← hTwice.links.checkCompatible_eq] at hCompatible
  exact
    Host.verifyProposal_ok rfl hCompatible
      (Link.Offer.verifies hTwice (by simp) .open
        Sequence.zero.next.next)

/- It lies behind the one that B holds, which B gives up. -/
theorem ProposesTwice.gives_up
    (hTwice : ProposesTwice now past) :
    ∃ receipt : ErrorReceipt,
      receipt.sequence = Sequence.zero.next ∧
        (((offer id).informed .right now).dispatch
            (.attempt
              ((offer id).tryMessage .right now
                Sequence.zero.next))).2.records (key .right) =
          ((offer id).stage .right .open
            Sequence.zero.next.next
            (some ((offer id).proposal .right))).restored
              Sequence.zero.next.next receipt := by
  have hUpgrade :
      (now.host .right).upgrades[key .right]? =
        some ((offer id).proposal .right) :=
    congrArg Records.upgrade? hTwice.own
  have hBehind :
      Sequence.zero.next < Sequence.zero.next.next := by
    decide
  rcases
      Host.dispatch_attempt_gives_up
        (h := (offer id).informed .right now)
        (m := (offer id).tryMessage .right now
          Sequence.zero.next)
        Link.Offer.validate_tryMessage
        (hTwice.channel (by simp [Link.Offer.stage, Link.endAt]))
        hUpgrade hTwice.verifyProposal_ok hBehind with
    ⟨receipt, hSequence, hRecords⟩
  refine ⟨receipt, hSequence, ?_⟩
  rw [← hTwice.own]
  exact hRecords

/- B has proposed twice when it is told of the first proposal
   of A. -/
theorem hears_stale :
    ∃ (happenings : List Happening) (m : TryMessage)
        (receipt : ErrorReceipt),
      (∀ y ∈ happenings, y.IsOrdinary) ∧
        m.key = key .right ∧
        (chronicle.course id happenings).host.records
            (key .right) =
          (offer id).stage .right .open
            Sequence.zero.next.next
            (some ((offer id).proposal .right)) ∧
        receipt.sequence = Sequence.zero.next ∧
        ((chronicle.course id happenings).host.dispatch
            (.attempt m)).2.records (key .right) =
          ((offer id).stage .right .open
            Sequence.zero.next.next
            (some ((offer id).proposal .right))).restored
              Sequence.zero.next.next receipt := by
  rcases proposes_twice with ⟨now, past, hTwice⟩
  rcases hTwice.told with ⟨happenings, hOrdinary, hTold⟩
  rcases hTwice.gives_up with ⟨receipt, hSequence, hGivenUp⟩
  refine ⟨happenings,
    (offer id).tryMessage .right now Sequence.zero.next, receipt,
    hOrdinary, rfl, ?_, hSequence, ?_⟩
  · rw [hTold]
    exact hTwice.own
  · rw [hTold]
    exact hGivenUp

/-
  Two attempts of B that end without a covering receipt: the
  second, when it is told of an earlier attempt of A, leaves a
  receipt for the attempt before; and the first, when B
  proposes again, leaves none.
-/
theorem sample_uncovered :
    chronicle.IsCurrent ∧
      (∃ (happenings : List Happening) (m : TryMessage),
        (∀ y ∈ happenings, y.IsOrdinary) ∧
          (chronicle.course id happenings).Ends id (key .right)
            (.act (.dispatch (.attempt m)))
            Sequence.zero.next.next ∧
          ¬ Opens
            ((chronicle.course id happenings).host.dispatch
              (.attempt m)).1 ∧
          ∀ receipt,
            ((chronicle.course id happenings).undergo id
                (.act (.dispatch (.attempt m)))).host.receipts[
                  key .right]? = some receipt →
              receipt.sequence < Sequence.zero.next.next) ∧
      (chronicle.course id
          [.act (.dispatch (.init initMessage))]).Ends id
        (key .right) (.act (.dispatch (.init initMessage)))
        Sequence.zero.next ∧
      ¬ Opens
        ((chronicle.course id
          [.act (.dispatch (.init initMessage))]).host.dispatch
            (.init initMessage)).1 ∧
      ((chronicle.course id
          [.act (.dispatch (.init initMessage))]).undergo id
        (.act (.dispatch (.init initMessage)))).host.receipts[
          key .right]? = none := by
  rcases replaces_without_receipt with ⟨hEnds, hNone⟩
  have hAgain :=
    proposes_undergo proposes_once.setting proposes_once.records
  refine ⟨chronicle_isCurrent, ?_, hEnds, ?_, hNone⟩
  · rcases hears_stale with
      ⟨happenings, m, receipt, hOrdinary, hKey, hOwn, hSequence,
        hRecords⟩
    have hCurrent :=
      chronicle_isCurrent.course id happenings hOrdinary
    have hStored :
        ((chronicle.course id happenings).host.records
          (key .right)).upgrade?.isSome := by
      rw [hOwn]
      rfl
    have hAttempt :
        (chronicle.course id happenings).attempt (key .right) =
          Sequence.zero.next.next := by
      rw [hCurrent _ hStored, hOwn]
      rfl
    have hReceipt := congrArg Records.receipt? hRecords
    refine ⟨happenings, m, hOrdinary, ?_, ?_, ?_⟩
    · rw [← hAttempt]
      apply Chronicle.Ends.stored hStored
      have hGone := congrArg Records.upgrade? hRecords
      intro hLeft
      rw [Chronicle.undergo, Host.undergo, Host.perform, hGone]
        at hLeft
      simp [Records.restored] at hLeft
    · rw [← hKey] at hReceipt
      exact Host.not_opens_of_receipt hReceipt
    · intro left hLeft
      have hSame : some receipt = some left :=
        hReceipt.symm.trans hLeft
      rw [← Option.some.inj hSame, hSequence]
      decide
  · have hUpgrade := congrArg Records.upgrade? hAgain.records
    exact Host.not_opens_of_upgrade hUpgrade

end Fixture

end Interchain
