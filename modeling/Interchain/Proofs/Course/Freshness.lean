import Interchain.Proofs.Course.Sequences

/-
  Each attempt of an end gets a sequence of its own.

  Receipts are matched to attempts by their sequences alone.
  An attempt that begins while the end can still count up is
  past every attempt that began before it, and past every
  receipt that the end has left.  At the greatest sequence an
  end stays where it is, so there it repeats an attempt, and
  may do so beside a receipt for it.

  Main declarations:
    * `Host.IsFresh`

  Main statements:
    * `Host.begun_is_fresh`
    * `Fixture.sample_repeats_greatest`
-/

------------------------------------------------------------
-- Beginning an Attempt
------------------------------------------------------------

namespace Interchain

namespace Host

variable {h after : Host} {key : ChannelKey}

/- A step that begins an attempt counts up from the attempt
   that the end is at, or from a later one. -/
theorem Takes.attempt_of_begins
    {m : UpgradeMessage}
    {events : List Event}
    (hTakes : h.Takes m events after)
    (hBegins : h.Begins m) :
    ∃ last,
      (h.records m.key).attempt ≤ last ∧
        (after.records m.key).attempt = last.next := by
  cases hTakes with
  | init hOk hPlan =>
      rcases records_of_processInit hOk hPlan with
        ⟨c, hChannel, _, hRecords⟩
      refine ⟨c.upgradeSequence, ?_, ?_⟩
      · exact (congrArg ChannelEnd.upgradeSequence
          (records_channel hChannel)).le
      · exact congrArg Records.attempt hRecords
  | attempt hStaged hOk hPlan =>
      rcases stageAnswer_eq_ok hStaged with
        ⟨_, hStored⟩ | ⟨found, step, rfl, _, hChannel, hPropose⟩
      · simp [hBegins.1] at hStored
      rcases caughtUp_eq found _ with ⟨last, hLast, hCaught, _⟩
      rcases propose_eq_ok hPropose with ⟨_, _, _, rfl⟩
      rcases records_of_processTry hOk hPlan with
        ⟨c, u, _, hAnswered, hRecords⟩
      simp only [answered, Except.ok.injEq,
        Prod.mk.injEq] at hAnswered
      rw [← hAnswered.1, hCaught] at hRecords
      refine ⟨last, ?_, ?_⟩
      · exact (congrArg ChannelEnd.upgradeSequence
          (records_channel hChannel)).le.trans hLast
      · exact congrArg Records.attempt hRecords
  | _ => exact hBegins.elim

/- What begins an attempt succeeds. -/
theorem Begins.succeeds
    {m : UpgradeMessage}
    (hBegins : h.Begins m) :
    Succeeds (h.dispatch m).1 := by
  cases m with
  | init m => exact hBegins
  | attempt m => exact hBegins.2
  | _ => exact hBegins.elim

/- What is begun is for the attempt that follows the one of the
   end, or a later one. -/
theorem attempt_of_begun
    (hash : Hash)
    {x : Happening}
    (hBegun : h.begun? x = some key) :
    ∃ last,
      (h.records key).attempt ≤ last ∧
        ((h.undergo hash x).records key).attempt =
          last.next := by
  rcases exists_of_begun hBegun with ⟨m, rfl, rfl, hBegins⟩
  have hAnswers := h.answers_dispatch m
  rcases hBegins.succeeds with ⟨report, hOk, hSuccess⟩
  rw [hOk] at hAnswers
  rw [undergo, perform]
  generalize (h.dispatch m).2 = after at hAnswers
  cases hAnswers with
  | taken log hTakes => exact hTakes.attempt_of_begins hBegins
  | givenUp hEnds hPlan => simp at hSuccess

/- An end that can count up does so when it begins an
   attempt. -/
theorem lt_attempt_of_begun
    (hash : Hash)
    {x : Happening}
    (hBegun : h.begun? x = some key)
    (hLimit :
      (h.records key).attempt.number ≠ Word.greatest) :
    (h.records key).attempt <
      ((h.undergo hash x).records key).attempt := by
  rcases attempt_of_begun hash hBegun with ⟨last, hLast, hNext⟩
  rw [hNext]
  rcases hLast.lt_or_eq with hLess | hSame
  · exact hLess.trans_le last.le_next
  · rw [← hSame]
    exact Sequence.lt_next_of_ne_greatest hLimit

end Host

end Interchain

------------------------------------------------------------
-- Fresh Attempts
------------------------------------------------------------

namespace Interchain

namespace Host

/- A sequence is past every attempt that an end began in a
   course, and past every receipt that it held. -/
structure IsFresh
    (hash : Hash)
    (h : Host)
    (happenings : List Happening)
    (key : ChannelKey)
    (n : Sequence) : Prop where
  attempts :
    ∀ past x,
      past ++ [x] <+: happenings →
        (h.course hash past).begun? x = some key →
          ((h.course hash (past ++ [x])).records key).attempt < n
  receipts :
    ∀ (past : List Happening) (receipt : ErrorReceipt),
      past <+: happenings →
        (h.course hash past).receipts[key]? = some receipt →
          receipt.sequence < n

variable {h : Host} {key : ChannelKey}

/- Attempts have only been counted up since. -/
theorem attempt_le_of_past
    (hash : Hash)
    (h : Host)
    (key : ChannelKey)
    {past happenings : List Happening}
    (hPast : past <+: happenings) :
    ((h.course hash past).records key).attempt ≤
      ((h.course hash happenings).records key).attempt := by
  rcases hPast with ⟨rest, rfl⟩
  rw [course_append]
  exact (h.course hash past).attempt_course_le hash rest key

/- What is past the attempt that an end has come to is
   fresh. -/
theorem Dominates.isFresh
    {hash : Hash}
    {happenings : List Happening}
    {n : Sequence}
    (hStart : h.Dominates)
    (hLess :
      ((h.course hash happenings).records key).attempt < n) :
    h.IsFresh hash happenings key n where
  attempts := fun past x hPast _ =>
    (attempt_le_of_past hash h key hPast).trans_lt hLess
  receipts := by
    intro past receipt hPast hHeld
    have hReached :=
      (hStart.course hash past).records key receipt hHeld
    exact (hReached.trans
      (attempt_le_of_past hash h key hPast)).trans_lt hLess

/-
  In any course of a chain, from receipts that are each for an
  attempt that the end of its channel has reached, for example
  from none: an attempt that begins before the greatest
  sequence is reached has a fresh sequence.  From there on the
  sequence of the end stays the same.
-/
theorem begun_is_fresh
    (hash : Hash)
    (start : Host)
    (happenings : List Happening)
    (key : ChannelKey)
    (x : Happening)
    (hStart : start.Dominates)
    (hBegun :
      (start.course hash happenings).begun? x = some key) :
    (((start.course hash happenings).records
          key).attempt.number ≠ Word.greatest →
        start.IsFresh hash happenings key
          ((start.course hash
            (happenings ++ [x])).records key).attempt) ∧
      (((start.course hash happenings).records
          key).attempt.number = Word.greatest →
        ((start.course hash
            (happenings ++ [x])).records key).attempt =
          ((start.course hash happenings).records key).attempt) :=
    by
  rw [course_concat]
  constructor
  · intro hLimit
    exact hStart.isFresh (lt_attempt_of_begun hash hBegun hLimit)
  · intro hGreatest
    exact le_antisymm
      (Sequence.le_of_number_eq_greatest hGreatest)
      (attempt_undergo_le hash _ x key)

end Host

end Interchain

------------------------------------------------------------
-- Sample Chain
------------------------------------------------------------

namespace Interchain

namespace Fixture

/- B proposes, and the proposal is withdrawn with a receipt. -/
def withdrawing (receipt : ErrorReceipt) : List Happening :=
  [.act (.dispatch (.init initMessage)),
    .act (.dispatch (.cancel (cancelWith receipt)))]

/- B after a proposal was withdrawn: it goes on from the
   receipt, and can propose again. -/
structure Withdrawn (receipt : ErrorReceipt) (h : Host) :
    Prop where
  held : h.receipts[key .right]? = some receipt
  attempt :
    (h.records (key .right)).attempt = receipt.sequence
  begun :
    h.begun? (.act (.dispatch (.init initMessage))) =
      some (key .right)
  next :
    ((h.undergo id
        (.act (.dispatch (.init initMessage)))).records
      (key .right)).attempt = receipt.sequence.next

/- B proposed, and its authority withdrew that. -/
theorem withdrawn_course
    (receipt : ErrorReceipt)
    (hSequence : Sequence.zero.next ≤ receipt.sequence) :
    Withdrawn receipt
      ((host id .right).course id (withdrawing receipt)) := by
  have hRecords := withdrawn receipt proposes_once hSequence
  have hSetting :=
    proposes_once.setting.trans
      (Host.hasSameSetting_dispatch _
        (.cancel (cancelWith receipt)))
  generalize hAfter :
    ((chronicle.course id
      [.act (.dispatch (.init initMessage))]).host.dispatch
        (.cancel (cancelWith receipt))).2 = after at *
  have hCourse :
      (host id .right).course id (withdrawing receipt) =
        after :=
    hAfter
  rw [hCourse]
  have hState :
      (after.records (key .right)).channel.state ≠
        .uninitialized := by
    rw [hRecords]
    simp [Records.restored, ChannelEnd.restored]
  have hChannel :
      after.channels[key .right]? =
        some ((link id).endAt .right .open receipt.sequence) := by
    rw [Host.channels_eq_of_state_ne hState, hRecords]
    rfl
  have hDone := proposes hSetting hChannel
  exact
    { held := congrArg Records.receipt? hRecords
      attempt := congrArg Records.attempt hRecords
      begun := if_pos hDone.1
      next := congrArg Records.attempt hDone.2 }

/- B begins its second attempt past the first one, and past the
   receipt for it. -/
theorem sample_begun_is_fresh :
    (host id .right).Dominates ∧
      ((host id .right).course id
          (withdrawing ⟨Sequence.zero.next, ""⟩)).begun?
            (.act (.dispatch (.init initMessage))) =
        some (key .right) ∧
      (host id .right).IsFresh id
        (withdrawing ⟨Sequence.zero.next, ""⟩) (key .right)
        Sequence.zero.next.next := by
  have hWithdrawn :=
    withdrawn_course ⟨Sequence.zero.next, ""⟩ (le_refl _)
  have hStart : (host id .right).Dominates :=
    Host.dominates_of_receipts_eq_none (receipts_host id .right)
  have hFresh :=
    (Host.begun_is_fresh id (host id .right)
      (withdrawing ⟨Sequence.zero.next, ""⟩) (key .right)
      (.act (.dispatch (.init initMessage))) hStart
      hWithdrawn.begun).1 (by
        rw [hWithdrawn.attempt]
        decide)
  rw [Host.course_concat, hWithdrawn.next] at hFresh
  exact ⟨hStart, hWithdrawn.begun, hFresh⟩

/-
  From an end at the start, with no receipt anywhere: once a
  proposal is withdrawn with a receipt for the greatest
  sequence, the next attempt begins at that sequence again, so
  it is not past the receipt.
-/
theorem sample_repeats_greatest :
    ((host id .right).records (key .right)).attempt = .zero ∧
      (∀ k : ChannelKey, (host id .right).receipts[k]? = none) ∧
      ((host id .right).course id
          (withdrawing ⟨⟨Word.greatest⟩, ""⟩)).begun?
            (.act (.dispatch (.init initMessage))) =
        some (key .right) ∧
      ¬ (host id .right).IsFresh id
        (withdrawing ⟨⟨Word.greatest⟩, ""⟩) (key .right)
        (((host id .right).course id
          (withdrawing ⟨⟨Word.greatest⟩, ""⟩ ++
            [.act (.dispatch (.init initMessage))])).records
              (key .right)).attempt := by
  have hWithdrawn :=
    withdrawn_course ⟨⟨Word.greatest⟩, ""⟩ (by decide)
  have hStart :=
    congrArg Records.attempt (records_link id .right)
  refine ⟨hStart, receipts_host id .right, hWithdrawn.begun, ?_⟩
  rw [Host.course_concat, hWithdrawn.next]
  intro hFresh
  exact absurd
    (hFresh.receipts _ _ List.prefix_rfl hWithdrawn.held)
    (by decide)

end Fixture

end Interchain
