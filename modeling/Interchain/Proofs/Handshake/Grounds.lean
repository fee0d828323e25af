import Interchain.Proofs.Handshake.Evidence

/-
  Records that a message finds.

  A message that is taken, or that gives an attempt up, has
  found the connections that it needs on the chain.  If its step
  starts to flush, it has found a next sequence to send and a
  deadline as well.

  Main declarations:
    * `Host.HasHop`
    * `Host.IsGrounded`
    * `Host.IsReady`

  Main statements:
    * `Host.Takes.isGrounded`
    * `Host.Ends.isGrounded`
    * `Host.Takes.isReady`
-/

------------------------------------------------------------
-- Records That a Message Needs
------------------------------------------------------------

namespace Interchain

namespace Host

/- The end of a channel runs over an open connection. -/
def RunsOpen (h : Host) (key : ChannelKey) : Prop :=
  ∃ c id connection, h.RunsOver key c id connection

/- The chain has the connection that fields name first. -/
def HasHop (h : Host) (fields : UpgradeFields) : Prop :=
  ∃ id connection,
    fields.hop? = some id ∧
      h.connections[id]? = some connection

/-
  The connections that a message needs before it can be taken
  or give an attempt up: that of the channel, unless the message
  proposes or comes from the authority, and those of the
  proposals that it makes, answers with or opens with.
-/
def IsGrounded (h : Host) : UpgradeMessage → Prop
  | .init m => h.HasHop m.fields
  | .attempt m =>
      h.RunsOpen m.key ∧
        (h.upgrades[m.key]? = none → h.HasHop m.fields) ∧
        ∀ u, h.upgrades[m.key]? = some u → h.HasHop u.fields
  | .ack m => h.RunsOpen m.key
  | .confirm m => h.RunsOpen m.key
  | .reopen m =>
      h.RunsOpen m.key ∧
        (m.counterpartyState = .open →
          ∃ u,
            h.upgrades[m.key]? = some u ∧ h.HasHop u.fields)
  | .cancel m =>
      h.params.isAuthority m.signer = true ∨ h.RunsOpen m.key
  | .timeout m => h.RunsOpen m.key

/- The chain has a next sequence to send for a channel, and its
   parameters give a deadline. -/
def CanFlush (h : Host) (key : ChannelKey) : Prop :=
  (∃ next, h.nextSequences[key]? = some next) ∧
    ∃ deadline,
      h.params.deadline h.height h.timestamp = .ok deadline

/- What a message needs besides to be taken: to flush, if its
   step starts to, and the connection of the proposal that it
   acknowledges. -/
def IsReady (h : Host) : UpgradeMessage → Prop
  | .attempt m => h.CanFlush m.key
  | .ack m =>
      (∃ u, h.upgrades[m.key]? = some u ∧ h.HasHop u.fields) ∧
        ∀ c, h.channels[m.key]? = some c → c.state = .open →
          h.CanFlush m.key
  | _ => True

end Host

end Interchain

------------------------------------------------------------
-- Records That Were There
------------------------------------------------------------

namespace Interchain

/- Settling on a version keeps the order and the connection. -/
theorem Upgrade.fields_settled
    (u : Upgrade)
    (c : ChannelEnd)
    (version : ChannelVersion) :
    (u.settled c version).fields.order = u.fields.order ∧
      (u.settled c version).fields.hop? = u.fields.hop? := by
  unfold settled
  split <;> exact ⟨rfl, rfl⟩

namespace Host

variable {h : Host} {m : UpgradeMessage}

/- A proof is only taken over an open connection. -/
theorem ProvesAttempt.runsOpen
    {key : ChannelKey}
    {state : ChannelState}
    {n : Sequence}
    {u : Upgrade}
    {channelProof upgradeProof : CommitmentProof}
    {height : Height}
    (hProves :
      h.ProvesAttempt key state n u channelProof upgradeProof
        height) :
    h.RunsOpen key := by
  rcases hProves with ⟨c, id, connection, _, hRuns, _⟩
  exact ⟨c, id, connection, hRuns⟩

/- Upgrades are only compatible if the connection of the own
   one is there. -/
theorem hasHop_of_checkCompatible
    {own theirs : UpgradeFields}
    (hOk : h.checkCompatible own theirs = .ok ()) :
    h.HasHop own := by
  rcases checkCompatible_eq_ok hOk with
    ⟨_, _, id, connection, hHop, hFound, _⟩
  exact ⟨id, connection, hHop, hFound⟩

/- A proposal is only made for a connection that is there. -/
theorem hasHop_of_propose
    {key : ChannelKey}
    {c : ChannelEnd}
    {fields : UpgradeFields}
    {timeout : Option UpgradeTimeout}
    {step : UpgradeStep}
    (hOk : h.propose key c fields timeout = .ok step) :
    h.HasHop fields := by
  simp [propose, checkProposal] at hOk
  rcases hOk with ⟨_, _, ⟨_, hSupport⟩, _⟩
  unfold checkSupport at hSupport
  split at hSupport
  case h_1 => simp at hSupport
  case h_2 id hHop =>
    cases hFound : h.connections[id]? with
    | none => simp [connectionEnd, hFound] at hSupport
    | some connection => exact ⟨id, connection, hHop, hFound⟩

/- The proposal that an answer builds on names a connection of
   the chain, once the answer is not refused. -/
theorem hasHop_of_processTry
    {m : TryMessage}
    {staged : Option UpgradeStep}
    (hNot : ¬ IsRefused (h.processTry m staged)) :
    ∃ c u,
      h.answered m.key staged = .ok (c, u) ∧
        h.HasHop u.fields := by
  unfold processTry at hNot
  rcases not_isRefused_refuse_bind.mp hNot with
    ⟨⟨c, u⟩, hAnswered, hNot⟩
  rcases not_isRefused_refuse_bind.mp hNot with
    ⟨_, hVerified, _⟩
  simp [verifyProposal] at hVerified
  rcases hVerified with ⟨_, _, _, _, hCompatible, _⟩
  exact ⟨c, u, hAnswered, hasHop_of_checkCompatible hCompatible⟩

/- An answer has its grounds. -/
theorem isGrounded_of_processTry
    {m : TryMessage}
    {staged : Option UpgradeStep}
    (hStaged : h.stageAnswer m = .ok staged)
    (hNot : ¬ IsRefused (h.processTry m staged)) :
    h.IsGrounded (.attempt m) := by
  rcases hasHop_of_processTry hNot with
    ⟨c, u, hAnswered, hHop⟩
  refine ⟨(provesAttempt_of_processTry hStaged hNot).runsOpen,
    ?_, ?_⟩
  · intro hNone
    rcases stageAnswer_eq_ok hStaged with
      ⟨_, hSome⟩ | ⟨_, _, _, _, _, hPropose⟩
    · simp [hNone] at hSome
    · exact hasHop_of_propose hPropose
  · intro stored hUpgrade
    rcases stageAnswer_eq_ok hStaged with
      ⟨rfl, _⟩ | ⟨_, _, _, hNone, _⟩
    · simp [answered] at hAnswered
      rw [hUpgrade, Option.some.injEq] at hAnswered
      rw [hAnswered.2]
      exact hHop
    · simp [hNone] at hUpgrade

theorem isGrounded_of_processOpen
    {m : OpenMessage}
    {report : EventReport Unit}
    (hOk : h.processOpen m = .ok report) :
    h.IsGrounded (.reopen m) := by
  have hEvidence := provesReopening_of_processOpen hOk
  rcases hEvidence with ⟨c, id, connection, hRuns, hShown⟩
  refine ⟨⟨c, id, connection, hRuns⟩, ?_⟩
  intro hOpen
  rcases hShown with
    ⟨_, hState, _⟩ | ⟨u, other, found, _, _, hUpgrade, hHop,
      hFound, _⟩
  · rw [hOpen] at hState
    simp at hState
  · exact ⟨u, hUpgrade, other, found, hHop, hFound⟩

theorem isGrounded_of_processCancel
    {m : CancelMessage}
    {report : EventReport CancelStep}
    (hOk : h.processCancel m = .ok report) :
    h.IsGrounded (.cancel m) := by
  rcases provesCancelling_of_processCancel hOk with
    ⟨c, _, hAuthority | ⟨id, connection, _, hRuns, _⟩⟩
  · exact Or.inl hAuthority.1
  · exact Or.inr ⟨c, id, connection, hRuns⟩

/- A message whose step is taken found the connections that it
   needs. -/
theorem Takes.isGrounded
    {events : List Event}
    {after : Host}
    (hTakes : h.Takes m events after) :
    h.IsGrounded m := by
  have hEvidence := hTakes.hasEvidence
  cases hTakes with
  | init hOk =>
      rcases processInit_eq_ok hOk with ⟨_, _, hPropose⟩
      exact hasHop_of_propose hPropose
  | attempt hStaged hOk =>
      exact isGrounded_of_processTry hStaged
        (not_isRefused_ok hOk)
  | ack => exact hEvidence.runsOpen
  | confirm => exact hEvidence.runsOpen
  | confirmOpen => exact hEvidence.runsOpen
  | reopen hOk => exact isGrounded_of_processOpen hOk
  | cancel hOk => exact isGrounded_of_processCancel hOk
  | timeout =>
      rcases hEvidence with ⟨c, id, connection, hRuns, _⟩
      exact ⟨c, id, connection, hRuns⟩

/- So did one that gives an attempt up. -/
theorem Ends.isGrounded
    {before : Host}
    {error : UpgradeError}
    {events : List Event}
    (hEnds : h.Ends m error events before) :
    h.IsGrounded m := by
  have hEvidence := hEnds.hasEvidence
  cases hEnds with
  | attempt hStaged hEnded =>
      exact isGrounded_of_processTry hStaged
        (not_isRefused_ended hEnded)
  | staged hStaged hEnded hPlan =>
      exact isGrounded_of_processTry hStaged
        (not_isRefused_ended hEnded)
  | ack => exact hEvidence.runsOpen
  | confirm => exact hEvidence.runsOpen

/- An end that starts to flush can. -/
theorem canFlush_of_startFlushing
    {key : ChannelKey}
    {c flushing : ChannelEnd}
    {u upgrade : Upgrade}
    (hOk : h.startFlushing key c u = .ok (flushing, upgrade)) :
    h.CanFlush key := by
  rcases startFlushing_cases hOk with
    ⟨latest, deadline, hSent, hDeadline, _⟩
  simp [latestSent] at hSent
  rcases hSent with ⟨_, next, hNext, _⟩
  exact ⟨⟨next, hNext⟩, deadline, hDeadline⟩

/- A message that is taken was ready to be. -/
theorem Takes.isReady
    {events : List Event}
    {after : Host}
    (hTakes : h.Takes m events after) :
    h.IsReady m := by
  cases hTakes with
  | attempt hStaged hOk =>
      rcases processTry_eq_ok hOk with
        ⟨_, _, _, _, _, _, _, _, _, hFlush, _⟩
      exact canFlush_of_startFlushing hFlush
  | @ack m report p hOk hPlan =>
      rcases processAck_eq_ok hOk with
        ⟨c, u, _, _, hChannel, _, _, hUpgrade, _, hCompatible,
          hFlush, _⟩
      rcases hasHop_of_checkCompatible hCompatible with
        ⟨id, connection, hHop, hFound⟩
      rw [(u.fields_settled c _).2] at hHop
      refine ⟨⟨u, hUpgrade, id, connection, hHop, hFound⟩, ?_⟩
      intro found hStored hOpen
      rw [hChannel, Option.some.injEq] at hStored
      subst hStored
      rw [flushIfOpen, if_pos hOpen] at hFlush
      exact canFlush_of_startFlushing hFlush
  | _ => trivial

end Host

end Interchain
