import Interchain.Proofs.Course.Channels
import Interchain.Proofs.Course.Receipts

/-
  Ways out of a channel that is done flushing.

  Once an end is done flushing, its counterparty may open at
  any time.  So the end stays as it is, with the proposal that
  it flushed for, until it opens with that proposal, or until
  a receipt of the counterparty is proven to it.  The authority
  of the chain has no other way.

  Main declarations:
    * `Host.Leaves`

  Main statements:
    * `Host.remains_or_leaves`
-/

------------------------------------------------------------
-- Leaving
------------------------------------------------------------

namespace Interchain

namespace Host

/-
  The ways in which an end that is done flushing is left by an
  action: it opens with the fields of the stored upgrade, at
  the same attempt, or it keeps its fields and goes on from a
  receipt that its counterparty was proven to hold.
-/
inductive Leaves
    (h : Host)
    (key : ChannelKey)
    (c : ChannelEnd)
    (after : Host) : Action → Prop
  | reopened
      {m : OpenMessage}
      {u : Upgrade}
      (hKey : m.key = key)
      (hSucceeds : Succeeds (h.dispatch (.reopen m)).1)
      (hUpgrade : h.upgrades[key]? = some u)
      (hChannel :
        after.channels[key]? =
          some
            { state := .open
              order := u.fields.order
              peer := c.peer
              hops := u.fields.hops
              version := u.fields.version
              upgradeSequence := c.upgradeSequence })
      (hGone : after.upgrades[key]? = none) :
      Leaves h key c after (.dispatch (.reopen m))
  | cancelled
      {m : CancelMessage}
      {id : ConnectionId}
      {connection : ConnectionEnd}
      {proof : CommitmentProof}
      (hKey : m.key = key)
      (hSucceeds : Succeeds (h.dispatch (.cancel m)).1)
      (hSequence : c.upgradeSequence ≤ m.receipt.sequence)
      (hRuns : h.RunsOver key c id connection)
      (hProof : m.receiptProof = some proof)
      (hVerified :
        h.verifyReceipt c connection m.receipt proof
          m.proofHeight = .ok ())
      (hChannel :
        after.channels[key]? =
          some
            { c with
              state := .open
              upgradeSequence := m.receipt.sequence })
      (hGone : after.upgrades[key]? = none) :
      Leaves h key c after (.dispatch (.cancel m))

/- The end of a channel and its proposal are as they were. -/
def Remains (h : Host) (key : ChannelKey) (after : Host) : Prop :=
  after.channels[key]? = h.channels[key]? ∧
    after.upgrades[key]? = h.upgrades[key]?

end Host

end Interchain

------------------------------------------------------------
-- Messages
------------------------------------------------------------

namespace Interchain

namespace Host

variable {h after : Host} {key : ChannelKey} {c : ChannelEnd}

/- Opening is one way out of being done. -/
theorem leaves_of_openPlan
    {m : OpenMessage}
    {p : Plan Event}
    (hChannel : h.channels[m.key]? = some c)
    (hSucceeds : Succeeds (h.dispatch (.reopen m)).1)
    (hPlan : openPlan m.key h = .ok p) :
    h.Leaves m.key c (h.applyAll p.writes)
      (.dispatch (.reopen m)) := by
  rcases records_openPlan hPlan with
    ⟨_, u, hUpgrade, hRecords⟩
  have hOpened :
      (h.applyAll p.writes).channels[m.key]? =
        some ((h.records m.key).opened u).channel := by
    rw [channels_eq_of_state_ne] <;> rw [hRecords]
    simp [Records.opened]
  rw [Records.opened, records_channel hChannel] at hOpened
  exact .reopened rfl hSucceeds hUpgrade hOpened
    (congrArg Records.upgrade? hRecords)

/- Cancelling an end that is done flushing takes a proof, also
   for the authority. -/
theorem leaves_of_processCancel
    {m : CancelMessage}
    {report : EventReport CancelStep}
    {p : Plan Event}
    (hChannel : h.channels[m.key]? = some c)
    (hDone : c.state = .flushComplete)
    (hSucceeds : Succeeds (h.dispatch (.cancel m)).1)
    (hOk : h.processCancel m = .ok report)
    (hPlan : cancelPlan report.result h = .ok p) :
    h.Leaves m.key c (h.applyAll p.writes)
      (.dispatch (.cancel m)) := by
  rcases processCancel_eq_ok_iff.mp ⟨report, hOk⟩ with
    ⟨found, _, hFound, _, hSequence, hChecked⟩
  rw [hChannel, Option.some.injEq] at hFound
  subst hFound
  have hVerified :=
    hChecked.resolve_left fun hAuthority => hAuthority.2 hDone
  rcases verifyCancel_eq_ok_iff.mp hVerified with
    ⟨id, connection, proof, hConnection, hProof, hReceipt⟩
  have hRecords := (records_cancelPlan hPlan).2
  rw [result_processCancel hOk, records_channel hChannel,
    max_eq_right hSequence] at hRecords
  have hRestored :
      (h.applyAll p.writes).channels[m.key]? =
        some
          ((h.records m.key).restored m.receipt.sequence
            m.receipt).channel := by
    rw [channels_eq_of_state_ne] <;> rw [hRecords]
    simp [Records.restored, ChannelEnd.restored]
  rw [Records.restored, records_channel hChannel] at hRestored
  exact .cancelled rfl hSucceeds hSequence
    (runsOver_of_openConnection hChannel hConnection) hProof
    hReceipt hRestored (congrArg Records.upgrade? hRecords)

/- No other step is taken on an end that is done flushing. -/
theorem Takes.leaves
    {m : UpgradeMessage}
    {events : List Event}
    (hTakes : h.Takes m events after)
    (hSucceeds : Succeeds (h.dispatch m).1)
    (hChannel : h.channels[m.key]? = some c)
    (hDone : c.state = .flushComplete) :
    h.Leaves m.key c after (.dispatch m) := by
  rcases hTakes.stored with ⟨found, hFound, hStage⟩
  rw [hChannel, Option.some.injEq] at hFound
  rw [← hFound, hDone] at hStage
  cases hTakes with
  | reopen hOk hPlan =>
      exact leaves_of_openPlan hChannel hSucceeds hPlan
  | cancel hOk hPlan =>
      exact leaves_of_processCancel hChannel hDone hSucceeds hOk
        hPlan
  | _ => simp [UpgradeMessage.IsFor] at hStage

/- No step fails for the attempt of such an end either. -/
theorem Ends.state_ne
    {m : UpgradeMessage}
    {error : UpgradeError}
    {events : List Event}
    {before : Host}
    (hEnds : h.Ends m error events before)
    (hChannel : h.channels[m.key]? = some c) :
    c.state ≠ .flushComplete := by
  rcases hEnds.stored with ⟨found, hFound, hState⟩
  rw [hChannel, Option.some.injEq] at hFound
  rw [hFound]
  rcases hState with hState | hState <;> simp [hState]

/- A message leaves an end that is done where it is, or takes
   one of the ways out. -/
theorem dispatch_remains_or_leaves
    (h : Host)
    (m : UpgradeMessage)
    (hChannel : h.channels[m.key]? = some c)
    (hDone : c.state = .flushComplete) :
    h.Remains m.key (h.dispatch m).2 ∨
      h.Leaves m.key c (h.dispatch m).2 (.dispatch m) := by
  have hAnswers := h.answers_dispatch m
  rcases hDispatch : h.dispatch m with ⟨result, after⟩
  rw [hDispatch] at hAnswers
  cases hAnswers with
  | rejected cause => exact Or.inl ⟨rfl, rfl⟩
  | taken log hTakes =>
      have hSucceeds : Succeeds (h.dispatch m).1 := by
        rw [hDispatch]
        exact ⟨_, rfl, rfl⟩
      exact Or.inr (hTakes.leaves hSucceeds hChannel hDone)
  | givenUp hEnds hPlan =>
      exact (hEnds.state_ne hChannel hDone).elim

end Host

end Interchain

------------------------------------------------------------
-- Any Action
------------------------------------------------------------

namespace Interchain

namespace Host

variable {h after : Host} {key : ChannelKey} {c : ChannelEnd}

/-
  On any chain that holds an end which is done flushing, and
  for any action but giving the attempt up from outside: the
  end and its proposal stay as they are, or the action is a
  message that opens the channel with the fields of the
  proposal at the same attempt, or one that cancels the attempt
  on a receipt, for it or a later one, that the counterparty
  was proven to hold.
-/
theorem remains_or_leaves
    (hash : Hash)
    (h : Host)
    (key : ChannelKey)
    (c : ChannelEnd)
    (a : Action)
    (hChannel : h.channels[key]? = some c)
    (hDone : c.state = .flushComplete)
    (hOrdinary : a.IsOrdinary) :
    h.Remains key (h.perform hash a) ∨
      h.Leaves key c (h.perform hash a) a := by
  have hNot :
      ∀ found, h.channels[key]? = some found →
        found.state ≠ .flushing := by
    simp [hChannel, hDone]
  by_cases hAbout : a.channel? = some key
  · cases a with
    | dispatch m =>
        cases hAbout
        exact h.dispatch_remains_or_leaves m hChannel hDone
    | send p =>
        cases hAbout
        rcases send_cases (s := .start h) hash p rfl with
          ⟨_, _, hSends⟩ | ⟨_, _, hSame⟩
        · have hState := hSends.state
          simp [Session.start, records_channel hChannel,
            hDone] at hState
        · rw [perform, hSame]
          exact Or.inl ⟨rfl, rfl⟩
    | resolve packet =>
        cases hAbout
        rcases looks_resolvePacket (s := .start h) packet rfl
          with ⟨resolved, hResolved, hLooks⟩
        subst hResolved
        rw [perform, hLooks.eq_of_not_flushing hNot]
        exact Or.inl ⟨rfl, rfl⟩
    | refresh other =>
        cases hAbout
        have hLooks := looks_refresh (s := .start h) key rfl
        rw [perform, hLooks.eq_of_not_flushing hNot]
        exact Or.inl ⟨rfl, rfl⟩
    | abort other reason => exact hOrdinary.elim
    | advance => simp [Action.channel?] at hAbout
  · have hSame := records_perform_of_ne hash hAbout (h := h)
    left
    refine ⟨?_, congrArg Records.upgrade? hSame⟩
    rw [channels_eq_of_state_ne, hSame,
      records_channel hChannel, hChannel]
    rw [hSame, records_channel hChannel, hDone]
    simp

end Host

end Interchain

------------------------------------------------------------
-- Sample Chain
------------------------------------------------------------

namespace Interchain

namespace Fixture

/- B, done flushing for its first proposal. -/
def drainedHost : Host :=
  ((host id .right).apply
      (.channel (key .right)
        (channelEndB .flushComplete Sequence.zero.next))).apply
    (.upgrade (key .right) ((offer id).flushing .right))

/- The authority of B can no longer withdraw the proposal. -/
theorem sample_remains_for_authority :
    drainedHost.params.isAuthority signer = true ∧
      drainedHost.channels[key .right]? =
        some (channelEndB .flushComplete Sequence.zero.next) ∧
      (channelEndB .flushComplete Sequence.zero.next).state =
        .flushComplete ∧
      (Action.dispatch (.cancel cancelMessage)).IsOrdinary ∧
      drainedHost.Remains (key .right)
        (drainedHost.perform id
          (.dispatch (.cancel cancelMessage))) := by
  have hChannel :
      drainedHost.channels[key .right]? =
        some (channelEndB .flushComplete Sequence.zero.next) := by
    simp [drainedHost, Host.apply]
  refine ⟨rfl, hChannel, rfl, trivial, ?_⟩
  rcases
      Host.remains_or_leaves id drainedHost (key .right) _
        (.dispatch (.cancel cancelMessage)) hChannel rfl
        trivial with
    hRemains | hLeaves
  · exact hRemains
  · cases hLeaves with
    | cancelled hKey hSucceeds hSequence hRuns hProof =>
        simp [cancelMessage] at hProof

end Fixture

end Interchain
