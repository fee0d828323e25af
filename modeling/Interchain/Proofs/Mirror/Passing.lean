import Interchain.Proofs.Handshake.Flushing
import Interchain.Proofs.Link.Run

/-
  What passes between two steps of a handshake.

  While a handshake waits for its next message, packets are sent
  and resolved, blocks go by, and other channels go on.  As long
  as the upgrade that an end knows of its counterparty has not
  run out, none of this touches the attempt; at most the last
  packet is resolved and the end is found to be done flushing.

  Main declarations:
    * `Action.IsQuiet`
    * `Records.Rests`

  Main statements:
    * `Host.rests_perform`
    * `Host.inFlight_dispatch`
-/

------------------------------------------------------------
-- Quiet Actions
------------------------------------------------------------

namespace Interchain

/- The upgrade of the counterparty that an end keeps while it
   flushes, if any, has not run out. -/
def Host.KnowsAhead (h : Host) (key : ChannelKey) : Prop :=
  (h.records key).channel.state = .flushing →
    ∀ v, (h.records key).counterparty? = some v →
      v.hasRunOut h.height h.timestamp = false

/- An action that takes no step of the handshake on a channel,
   and does not look at the channel too late. -/
def Action.IsQuiet (key : ChannelKey) (h : Host) : Action → Prop
  | .dispatch m => m.key ≠ key
  | .send _ => True
  | .resolve packet => packet.source = key → h.KnowsAhead key
  | .refresh other => other = key → h.KnowsAhead key
  | .abort other _ => other ≠ key
  | .advance => True

/-
  The records of a channel, and what can have become of them
  between two steps.  An end that waits for its packets, with
  the upgrade of the counterparty, goes on waiting or is done.
-/
inductive Records.Rests (r r' : Records) : Prop
  | same
      (hChannel : r'.channel = r.channel)
      (hUpgrade : r'.upgrade? = r.upgrade?)
      (hCounterparty : r'.counterparty? = r.counterparty?)
      (hReceipt : r'.receipt? = r.receipt?)
      (hSends : r.next?.isSome → r'.next?.isSome)
      (hSent :
        r.channel.state = .flushing → r.counterparty?.isSome →
          r.inFlight ≠ ∅ → r'.inFlight ≠ ∅)
  | drained
      (hState : r.channel.state = .flushing)
      (hKnown : r.counterparty?.isSome)
      (hChannel :
        r'.channel = { r.channel with state := .flushComplete })
      (hUpgrade : r'.upgrade? = r.upgrade?)
      (hSends : r.next?.isSome → r'.next?.isSome)

theorem Records.Rests.of_eq
    {r r' : Records}
    (hSame : r' = r) :
    r.Rests r' := by
  subst hSame
  exact .same rfl rfl rfl rfl id fun _ _ hSent => hSent

end Interchain

------------------------------------------------------------
-- Looks in Time
------------------------------------------------------------

namespace Interchain

namespace Host

variable {s : Session} {key : ChannelKey}

/-
  A look at an end that is not too late finds it done if it
  flushes, knows the upgrade of the counterparty and has nothing
  in flight; and otherwise leaves it as it is.
-/
theorem looks_ahead
    (hRefused : s.refused = none)
    (hAhead : s.host.KnowsAhead key) :
    ((s.host.records key).channel.state = .flushing →
        (s.host.records key).counterparty?.isSome →
          (s.host.records key).inFlight ≠ ∅) ∧
        (s.refresh key).2.host = s.host ∨
      (s.host.records key).channel.state = .flushing ∧
        (s.host.records key).counterparty?.isSome ∧
        (s.refresh key).2.host.records key =
          { s.host.records key with
            channel :=
              { (s.host.records key).channel with
                state := .flushComplete } } := by
  by_cases hWaits :
      (s.host.records key).channel.state = .flushing ∧
        (s.host.records key).counterparty?.isSome
  case neg =>
    refine Or.inl ⟨fun hState hKnown =>
      absurd ⟨hState, hKnown⟩ hWaits, looks_still ?_⟩
    intro hState
    rw [← Option.not_isSome_iff_eq_none]
    exact fun hKnown => hWaits ⟨hState, hKnown⟩
  case pos =>
    rcases hWaits with ⟨hState, hKnown⟩
    rcases Option.isSome_iff_exists.mp hKnown with ⟨v, hv⟩
    have hChannel :
        s.host.channels[key]? =
          some (s.host.records key).channel :=
      channels_eq_of_state_ne (by rw [hState]; simp)
    have hPlan :=
      refreshPlan_of_waits hChannel hState hv
        (hAhead hState v hv)
    cases hFlight : s.host.hasInFlight key with
    | true =>
        rw [hFlight, if_pos rfl] at hPlan
        refine Or.inl ⟨fun _ _ hEmpty => ?_, ?_⟩
        · rw [hasInFlight_eq_false_iff.mpr hEmpty] at hFlight
          exact Bool.false_ne_true hFlight
        · rw [Session.refresh, Session.carryOut, hPlan]
          rfl
    | false =>
        rw [hFlight, if_neg Bool.false_ne_true] at hPlan
        refine Or.inr ⟨hState, hKnown, ?_⟩
        rcases Session.carryOut_of_ok .fatal hRefused hPlan with
          ⟨next, hCarried, hHost, _⟩
        rw [Session.refresh, hCarried, hHost]
        exact (records_completePlan _ _ _).2

/- A refresh before the deadline leaves the end at rest. -/
theorem rests_refresh
    (hRefused : s.refused = none)
    (hAhead : s.host.KnowsAhead key) :
    (s.host.records key).Rests
      ((s.refresh key).2.host.records key) := by
  rcases looks_ahead hRefused hAhead with
    ⟨_, hSame⟩ | ⟨hState, hKnown, hRecords⟩
  · exact .of_eq (by rw [hSame])
  · rw [hRecords]
    exact .drained hState hKnown rfl rfl id

/- Once a packet is resolved, its channel is looked at: the
   packet is gone, and the end may be found done. -/
theorem resolves_ahead
    {packet : PacketKey}
    (hRefused : s.refused = none)
    (hAhead : s.host.KnowsAhead packet.source) :
    (s.host.records packet.source).Rests
        ((s.resolvePacket packet).2.host.records
          packet.source) ∧
      ((s.resolvePacket packet).2.host.records
          packet.source).inFlight =
        (s.host.records packet.source).inFlight \
          {packet.sequence} := by
  rcases
      Session.write_of_refused_eq_none (.noCommitment packet)
        hRefused with
    ⟨next, hWrite, hHost, hFree⟩
  have hRecords :
      next.host.records packet.source =
        { s.host.records packet.source with
          inFlight :=
            (s.host.records packet.source).inFlight \
              {packet.sequence} } := by
    rw [hHost]
    exact records_apply_noCommitment s.host packet.source _
  have hAheadNext : next.host.KnowsAhead packet.source := by
    intro hState v hv
    rw [hRecords] at hState hv
    rw [hHost]
    exact hAhead hState v hv
  rw [Session.resolvePacket, hWrite]
  rcases looks_ahead hFree hAheadNext with
    ⟨hSent, hSame⟩ | ⟨hState, hKnown, hDone⟩
  · rw [hRecords] at hSent
    simp only [hSame]
    rw [hRecords]
    exact
      ⟨.same rfl rfl rfl rfl id
          fun hState hKnown _ => hSent hState hKnown,
        rfl⟩
  · simp only [hDone]
    rw [hRecords] at hState hKnown ⊢
    exact ⟨.drained hState hKnown rfl rfl id, rfl⟩

/- Nothing is in flight once the last packet is resolved. -/
theorem resolves_last
    {hash : Hash}
    {h : Host}
    {packet : PacketKey}
    (hAhead : h.KnowsAhead packet.source)
    (hOnly :
      (h.records packet.source).inFlight = {packet.sequence}) :
    ((h.perform hash (.resolve packet)).records
        packet.source).inFlight = ∅ := by
  have hLeft :
      ((h.perform hash (.resolve packet)).records
          packet.source).inFlight =
        (h.records packet.source).inFlight \
          {packet.sequence} :=
    (resolves_ahead (s := .start h) rfl hAhead).2
  rw [hLeft, hOnly, sdiff_self]
  rfl

end Host

end Interchain

------------------------------------------------------------
-- Rests
------------------------------------------------------------

namespace Interchain

namespace Host

variable {key : ChannelKey}

/- A packet is only sent on an open channel. -/
theorem rests_send
    (hash : Hash)
    (h : Host)
    (p : Packet) :
    (h.records p.source).Rests
      ((h.perform hash (.send p)).records p.source) := by
  rcases send_cases (s := .start h) hash p rfl with
    ⟨_, _, hSends⟩ | ⟨_, _, hSame⟩
  · have hState : (h.records p.source).channel.state = .open :=
      hSends.state
    have hNot : (h.records p.source).channel.state ≠ .flushing := by
      rw [hState]
      simp
    rw [perform, hSends.after]
    exact .same rfl rfl rfl rfl (fun _ => rfl)
      fun hState => absurd hState hNot
  · refine .of_eq ?_
    rw [perform, hSame]
    rfl

/- A quiet action lets the records of the channel rest. -/
theorem rests_perform
    (hash : Hash)
    (h : Host)
    (a : Action)
    (hQuiet : a.IsQuiet key h) :
    (h.records key).Rests
      ((h.perform hash a).records key) := by
  have hKept
      {other : ChannelKey}
      (hKey : other ≠ key) :
      KeptAt other fun after =>
        after.records key = h.records key :=
    keptAt_records hKey _
  cases a with
  | dispatch m =>
      exact .of_eq
        (Session.dispatch_keeps (s := .start h) m
          (hKept hQuiet) rfl rfl)
  | send p =>
      by_cases hKey : p.source = key
      · subst hKey
        exact h.rests_send hash p
      · exact .of_eq
          (Session.send_keeps (s := .start h) hash p
            (hKept hKey) rfl rfl)
  | resolve packet =>
      by_cases hKey : packet.source = key
      · subst hKey
        exact
          (resolves_ahead (s := .start h) rfl (hQuiet rfl)).1
      · exact .of_eq
          (Session.resolvePacket_keeps (s := .start h) packet
            (hKept hKey) rfl rfl)
  | refresh other =>
      by_cases hKey : other = key
      · subst hKey
        exact rests_refresh (s := .start h) rfl (hQuiet rfl)
      · exact .of_eq
          (Session.refresh_keeps (s := .start h) other
            (hKept hKey) rfl rfl)
  | abort other reason =>
      exact .of_eq
        (Session.carryOut_keeps (s := .start h) id
          (hKept hQuiet) rfl
          (fun _ hMade => (records_abortPlan hMade).1) rfl).1
  | advance => exact .of_eq rfl

end Host

end Interchain

------------------------------------------------------------
-- Packets and Messages
------------------------------------------------------------

namespace Interchain

namespace Host

variable {h before after : Host} {m : UpgradeMessage}
variable {events : List Event}

/- A message that is taken leaves the packets in flight. -/
theorem Takes.inFlight_eq
    (hTakes : h.Takes m events after) :
    (after.records m.key).inFlight =
      (h.records m.key).inFlight := by
  cases hTakes with
  | init hOk hPlan =>
      rcases processInit_eq_ok hOk with ⟨_, _, hPropose⟩
      have hRecords := (records_stepPlan hPlan).2
      rw [(propose_eq_ok hPropose).2.2.2] at hRecords
      exact (congrArg Records.inFlight hRecords).trans rfl
  | attempt hStaged hOk hPlan =>
      rcases records_of_processTry hOk hPlan with
        ⟨_, _, _, _, hRecords⟩
      exact (congrArg Records.inFlight hRecords).trans rfl
  | ack hOk hPlan =>
      rcases records_of_processAck hOk hPlan with
        ⟨_, _, _, _, _, hRecords | ⟨_, hRecords⟩⟩ <;>
        exact (congrArg Records.inFlight hRecords).trans rfl
  | confirm hOk hPlan =>
      rcases records_of_processConfirm hOk hPlan with
        ⟨_, _, _, _, _, hRecords | ⟨_, hRecords⟩⟩ <;>
        exact (congrArg Records.inFlight hRecords).trans rfl
  | confirmOpen hOk hPlan hOpen =>
      rcases (records_openPlan hOpen).2 with ⟨_, _, hOpened⟩
      refine (congrArg Records.inFlight hOpened).trans ?_
      rcases records_of_processConfirm hOk hPlan with
        ⟨_, _, _, _, _, hRecords | ⟨_, hRecords⟩⟩ <;>
        exact (congrArg Records.inFlight hRecords).trans rfl
  | reopen hOk hPlan =>
      rcases (records_openPlan hPlan).2 with ⟨_, _, hRecords⟩
      exact (congrArg Records.inFlight hRecords).trans rfl
  | cancel hOk hPlan =>
      have hRecords := (records_cancelPlan hPlan).2
      rw [result_processCancel hOk] at hRecords
      exact (congrArg Records.inFlight hRecords).trans rfl
  | timeout hOk hPlan =>
      rcases processTimeout_eq_ok hOk with ⟨_, _, _, _, _, hKey⟩
      rcases (records_timeoutPlan hPlan).2 with
        ⟨_, _, hRecords⟩
      rw [hKey] at hRecords
      exact (congrArg Records.inFlight hRecords).trans rfl

/- A message that ends the attempt resolves no packet. -/
theorem Ends.inFlight_eq
    {error : UpgradeError}
    (hEnds : h.Ends m error events before) :
    (before.records m.key).inFlight =
      (h.records m.key).inFlight := by
  cases hEnds with
  | attempt _ _ => rfl
  | staged hStaged _ hPlan =>
      have hRecords := (records_stepPlan hPlan).2
      rw [(key_of_stageAnswer hStaged).1] at hRecords
      exact (congrArg Records.inFlight hRecords).trans rfl
  | ack _ => rfl
  | confirm _ => rfl

/- No message changes which packets are in flight. -/
theorem inFlight_dispatch
    (h : Host)
    (m : UpgradeMessage)
    (key : ChannelKey) :
    ((h.dispatch m).2.records key).inFlight =
      (h.records key).inFlight := by
  by_cases hKey : m.key = key
  case neg =>
    have hSame :
        (h.dispatch m).2.records key = h.records key :=
      Session.dispatch_keeps (s := .start h) m
        (keptAt_records hKey _) rfl rfl
    rw [hSame]
  case pos =>
    subst hKey
    have hAnswers := h.answers_dispatch m
    generalize (h.dispatch m).1 = result at hAnswers
    generalize (h.dispatch m).2 = after at hAnswers ⊢
    cases hAnswers with
    | rejected _ => rfl
    | taken _ hTakes => exact hTakes.inFlight_eq
    | givenUp hEnds hPlan =>
        rcases (records_abortPlan hPlan).2 with
          ⟨_, _, _, hRecords⟩
        exact
          (congrArg Records.inFlight hRecords).trans
            hEnds.inFlight_eq

end Host

end Interchain
