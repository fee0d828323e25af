import Interchain.Proofs.Course.Channels
import Interchain.Proofs.Course.Receipts

/-
  Channels that are not open.

  An end that was never opened, or that is closed, takes no
  part in an upgrade: no step is taken on it, none fails for its
  attempt, no packet is sent, and a look finds nothing to do.
  But an upgrade that is still stored can be cancelled or given
  up in whatever state the end is, and that opens the channel.

  Main declarations:
    * `ChannelState.IsIdle`
    * `Host.Restores`

  Main statements:
    * `Host.idle_unless_restored`
    * `Host.idle_course`
-/

------------------------------------------------------------
-- Idle Ends
------------------------------------------------------------

namespace Interchain

/- The states of an end before it opens, and once it closed. -/
def ChannelState.IsIdle : ChannelState → Prop
  | .uninitialized | .init | .tryOpen | .closed => True
  | .open | .flushing | .flushComplete => False

namespace Host

/-
  The actions that restore an end without regard to its state,
  and the attempt that they leave it at.  A receipt cancels the
  stored upgrade, unless it is of an earlier attempt, on the
  word of the authority or with a proof; or the upgrade is given
  up from outside.
-/
inductive Restores
    (h : Host)
    (key : ChannelKey)
    (c : ChannelEnd) : Action → Sequence → Prop
  | cancelled
      {m : CancelMessage}
      {u : Upgrade}
      (hKey : m.key = key)
      (hUpgrade : h.upgrades[key]? = some u)
      (hSequence : c.upgradeSequence ≤ m.receipt.sequence)
      (hShown :
        h.params.isAuthority m.signer = true ∨
          h.verifyCancel m c = .ok ()) :
      Restores h key c (.dispatch (.cancel m))
        m.receipt.sequence
  | givenUp
      {reason : AbortReason}
      {u : Upgrade}
      (hUpgrade : h.upgrades[key]? = some u) :
      Restores h key c (.abort key reason)
        (max c.upgradeSequence (reason.error c).sequence)

end Host

end Interchain

------------------------------------------------------------
-- Restoring
------------------------------------------------------------

namespace Interchain

namespace Host

variable {h : Host} {key : ChannelKey} {c : ChannelEnd}
variable {a : Action} {sequence : Sequence}

/- A cancellation of an idle end needs no more. -/
theorem processCancel_idle_iff
    {m : CancelMessage}
    (hChannel : h.channels[m.key]? = some c)
    (hIdle : c.state.IsIdle) :
    (∃ report, h.processCancel m = .ok report) ↔
      h.Restores m.key c (.dispatch (.cancel m))
        m.receipt.sequence := by
  have hNotDone : c.state ≠ .flushComplete := by
    intro hDone
    rw [hDone] at hIdle
    exact hIdle
  rw [processCancel_eq_ok_iff]
  constructor
  · rintro ⟨found, u, hFound, hUpgrade, hSequence, hShown⟩
    rw [hChannel, Option.some.injEq] at hFound
    subst hFound
    exact .cancelled rfl hUpgrade hSequence
      (hShown.imp_left And.left)
  · rintro (⟨_, hUpgrade, hSequence, hShown⟩ | _)
    exact ⟨c, _, hChannel, hUpgrade, hSequence,
      hShown.imp_left fun hAuthority => ⟨hAuthority, hNotDone⟩⟩

/- Such an action opens the channel, with the fields that the
   end has. -/
theorem Restores.channel
    (hash : Hash)
    (hRestores : h.Restores key c a sequence)
    (hChannel : h.channels[key]? = some c)
    (hIdle : c.state.IsIdle) :
    (h.perform hash a).channels[key]? =
      some (c.restored sequence) := by
  have hRestored :
      ((h.perform hash a).records key).channel =
        c.restored sequence := by
    cases hRestores with
    | @cancelled m u hKey hUpgrade hSequence hShown =>
        subst hKey
        rcases
            (processCancel_idle_iff hChannel hIdle).mpr
              (.cancelled rfl hUpgrade hSequence hShown) with
          ⟨report, hOk⟩
        rw [perform, (dispatch_cancel_succeeds hOk).2,
          Records.restored, records_channel hChannel]
    | @givenUp reason u hUpgrade =>
        rcases exists_abortPlan reason hChannel hUpgrade with
          ⟨p, hPlan⟩
        rcases
            Session.carryOut_of_ok id (s := .start h) rfl hPlan
          with ⟨next, hCarried, hHost, _⟩
        rcases records_abortPlan hPlan with
          ⟨_, _, error, rfl, hRecords⟩
        rw [perform, hCarried]
        simp only [hHost]
        change ((h.applyAll p.writes).records key).channel = _
        rw [hRecords, Records.restored,
          records_channel hChannel]
  rw [← hRestored]
  exact channels_undergo hash (.act a) hChannel

end Host

end Interchain

------------------------------------------------------------
-- Staying Idle
------------------------------------------------------------

namespace Interchain

namespace Host

variable {h after : Host} {key : ChannelKey} {c : ChannelEnd}

/- No step but a cancellation is taken on an idle end. -/
theorem Takes.restores
    {m : UpgradeMessage}
    {events : List Event}
    (hTakes : h.Takes m events after)
    (hChannel : h.channels[m.key]? = some c)
    (hIdle : c.state.IsIdle) :
    ∃ sequence, h.Restores m.key c (.dispatch m) sequence := by
  rcases hTakes.stored with ⟨found, hFound, hStage⟩
  rw [hChannel, Option.some.injEq] at hFound
  subst hFound
  cases hTakes with
  | cancel hOk hPlan =>
      exact ⟨_, (processCancel_idle_iff hChannel hIdle).mp
        ⟨_, hOk⟩⟩
  | ack =>
      rcases hStage with hState | hState <;>
        simp [hState, ChannelState.IsIdle] at hIdle
  | _ =>
      have hState : c.state = _ := hStage
      simp [hState, ChannelState.IsIdle] at hIdle

/- No step fails for the attempt of such an end. -/
theorem Ends.not_isIdle
    {m : UpgradeMessage}
    {error : UpgradeError}
    {events : List Event}
    {before : Host}
    (hEnds : h.Ends m error events before)
    (hChannel : h.channels[m.key]? = some c) :
    ¬ c.state.IsIdle := by
  rcases hEnds.stored with ⟨found, hFound, hState⟩
  rw [hChannel, Option.some.injEq] at hFound
  subst hFound
  rcases hState with hState | hState <;>
    simp [hState, ChannelState.IsIdle]

/- An idle end ignores every message that does not restore it. -/
theorem dispatch_idle
    (m : UpgradeMessage)
    (hChannel : h.channels[m.key]? = some c)
    (hIdle : c.state.IsIdle)
    (hOther :
      ∀ sequence, ¬ h.Restores m.key c (.dispatch m) sequence) :
    (h.dispatch m).2 = h := by
  have hAnswers := h.answers_dispatch m
  rcases hDispatch : h.dispatch m with ⟨result, after⟩
  rw [hDispatch] at hAnswers
  cases hAnswers with
  | rejected cause => rfl
  | taken log hTakes =>
      rcases hTakes.restores hChannel hIdle with
        ⟨sequence, hRestores⟩
      exact (hOther sequence hRestores).elim
  | givenUp hEnds hPlan =>
      exact (hEnds.not_isIdle hChannel hIdle).elim

/- No other action changes an idle end. -/
theorem perform_idle
    (hash : Hash)
    {a : Action}
    (hChannel : h.channels[key]? = some c)
    (hIdle : c.state.IsIdle)
    (hOther : ∀ sequence, ¬ h.Restores key c a sequence) :
    (h.perform hash a).channels[key]? = some c := by
  have hNot :
      ∀ found, h.channels[key]? = some found →
        found.state ≠ .flushing := by
    intro found hFound hState
    rw [hChannel, Option.some.injEq] at hFound
    simp [hFound, hState, ChannelState.IsIdle] at hIdle
  by_cases hAbout : a.channel? = some key
  · cases a with
    | dispatch m =>
        cases hAbout
        rw [perform, dispatch_idle m hChannel hIdle hOther]
        exact hChannel
    | send p =>
        cases hAbout
        rcases send_cases (s := .start h) hash p rfl with
          ⟨_, _, hSends⟩ | ⟨_, _, hSame⟩
        · have hState : c.state = .open := by
            rw [← records_channel hChannel]
            exact hSends.state
          simp [hState, ChannelState.IsIdle] at hIdle
        · rw [perform, hSame]
          exact hChannel
    | resolve packet =>
        cases hAbout
        rcases looks_resolvePacket (s := .start h) packet rfl
          with ⟨resolved, hResolved, hLooks⟩
        subst hResolved
        rw [perform, hLooks.eq_of_not_flushing hNot]
        exact hChannel
    | refresh other =>
        cases hAbout
        have hLooks := looks_refresh (s := .start h) key rfl
        rw [perform, hLooks.eq_of_not_flushing hNot]
        exact hChannel
    | abort other reason =>
        cases hAbout
        refine (Session.carryOut_host (s := .start h)
          (P := fun after => after.channels[key]? = some c) rfl
          hChannel ?_).1
        intro p hMade
        rcases Option.isSome_iff_exists.mp
            (records_abortPlan hMade).2.1 with
          ⟨u, hUpgrade⟩
        exact (hOther _ (.givenUp hUpgrade)).elim
    | advance => simp [Action.channel?] at hAbout
  · have hSame := records_perform_of_ne hash hAbout (h := h)
    have hStill := channels_undergo hash (.act a) hChannel
    rw [undergo, hSame, records_channel hChannel] at hStill
    exact hStill

/-
  Whatever a chain holds for an end that is idle, and whatever
  is done: either the action restores the end, which opens the
  channel at the attempt of the receipt or of the error; or the
  end stays as it is.
-/
theorem idle_unless_restored
    (hash : Hash)
    (h : Host)
    (key : ChannelKey)
    (c : ChannelEnd)
    (a : Action)
    (hChannel : h.channels[key]? = some c)
    (hIdle : c.state.IsIdle) :
    (∃ sequence,
        h.Restores key c a sequence ∧
          (h.perform hash a).channels[key]? =
            some (c.restored sequence)) ∨
      (∀ sequence, ¬ h.Restores key c a sequence) ∧
        (h.perform hash a).channels[key]? = some c := by
  by_cases hRestores :
      ∃ sequence, h.Restores key c a sequence
  · rcases hRestores with ⟨sequence, hRestores⟩
    exact Or.inl ⟨sequence, hRestores,
      hRestores.channel hash hChannel hIdle⟩
  · have hOther :
        ∀ sequence, ¬ h.Restores key c a sequence :=
      fun sequence hHere => hRestores ⟨sequence, hHere⟩
    exact Or.inr ⟨hOther,
      perform_idle hash hChannel hIdle hOther⟩

/- So in a course, an end stays idle until it is restored. -/
theorem idle_course
    (hash : Hash)
    (happenings : List Happening)
    (hChannel : h.channels[key]? = some c)
    (hIdle : c.state.IsIdle) :
    (h.course hash happenings).channels[key]? = some c ∨
      ∃ before a rest sequence,
        happenings = before ++ .act a :: rest ∧
          (h.course hash before).channels[key]? = some c ∧
          (h.course hash before).Restores key c a sequence := by
  induction happenings generalizing h with
  | nil => exact Or.inl hChannel
  | cons x rest ih =>
      by_cases hRestores :
          ∃ a sequence,
            x = .act a ∧ h.Restores key c a sequence
      · rcases hRestores with ⟨a, sequence, rfl, hRestores⟩
        exact Or.inr ⟨[], a, rest, sequence, rfl, hChannel,
          hRestores⟩
      · have hNext : (h.undergo hash x).channels[key]? = some c := by
          cases x with
          | learn client height state => exact hChannel
          | act a =>
              apply perform_idle hash hChannel hIdle
              exact fun sequence hHere =>
                hRestores ⟨a, sequence, rfl, hHere⟩
        rcases ih hNext with hRest | hRest
        · exact Or.inl hRest
        · rcases hRest with
            ⟨before, a, rest, sequence, rfl, hBefore, hThere⟩
          exact Or.inr ⟨x :: before, a, rest, sequence, rfl,
            hBefore, hThere⟩

end Host

end Interchain

------------------------------------------------------------
-- Sample Chain
------------------------------------------------------------

namespace Interchain

namespace Fixture

/- B after its end was closed, with a proposal that is still
   stored. -/
def closedHost : Host :=
  ((host id .right).apply
      (.channel (key .right)
        (channelEndB .closed Sequence.zero.next))).apply
    (.upgrade (key .right) ((offer id).proposal .right))

theorem channels_closedHost :
    closedHost.channels[key .right]? =
      some (channelEndB .closed Sequence.zero.next) := by
  simp [closedHost, Host.apply]

/- A proposal leaves the closed end as it is. -/
theorem sample_idle_unless_restored :
    closedHost.channels[key .right]? =
        some (channelEndB .closed Sequence.zero.next) ∧
      (channelEndB .closed Sequence.zero.next).state.IsIdle ∧
      (closedHost.perform id
          (.dispatch (.init initMessage))).channels[key .right]? =
        some (channelEndB .closed Sequence.zero.next) := by
  refine ⟨channels_closedHost, trivial, ?_⟩
  rcases
      Host.idle_unless_restored id closedHost (key .right) _
        (.dispatch (.init initMessage)) channels_closedHost
        trivial with
    ⟨_, hRestores, _⟩ | ⟨_, hSame⟩
  · cases hRestores
  · exact hSame

/- The authority of B cancels the proposal, and the closed end
   is open. -/
theorem sample_closed_end_opens :
    closedHost.channels[key .right]? =
        some (channelEndB .closed Sequence.zero.next) ∧
      (closedHost.perform id
          (.dispatch (.cancel cancelMessage))).channels[
            key .right]? =
        some (channelEndB .open Sequence.zero.next) := by
  have hUpgrade :
      closedHost.upgrades[key .right]? =
        some ((offer id).proposal .right) := by
    simp [closedHost, Host.apply]
  have hRestores :
      closedHost.Restores (key .right)
        (channelEndB .closed Sequence.zero.next)
        (.dispatch (.cancel cancelMessage))
        Sequence.zero.next :=
    .cancelled rfl hUpgrade (le_refl _) (Or.inl rfl)
  exact ⟨channels_closedHost,
    hRestores.channel id channels_closedHost trivial⟩

end Fixture

end Interchain
