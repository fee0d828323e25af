import Interchain.Proofs.Handshake.Frame

/-
  What packets, and looks at a channel, do to its records.

  A look at a flushing channel leaves it as it is, finds that
  it is done, or gives it up because the timeout of the
  counterparty elapsed.  A packet is sent on an open channel
  only, and one that is resolved leads to a look.

  Main declarations:
    * `Host.Looks`
    * `Records.Sends`

  Main statements:
    * `Host.looks_refresh`
    * `Host.looks_resolvePacket`
    * `Host.send_cases`
-/

------------------------------------------------------------
-- Looks
------------------------------------------------------------

namespace Interchain

namespace Host

/- The ways in which a look at a channel can end, with the
   chain that they lead to. -/
inductive Looks (h : Host) (key : ChannelKey) : Host → Prop
  | still : Looks h key h
  | drained
      {c : ChannelEnd}
      (hChannel : h.channels[key]? = some c)
      (hState : c.state = .flushing)
      (hEmpty : (h.records key).inFlight = ∅) :
      Looks h key
        (h.applyAll (completePlan key c).writes)
  | expired
      {c : ChannelEnd}
      {error : UpgradeError}
      {p : Plan (EventReport ErrorReceipt)}
      (hChannel : h.channels[key]? = some c)
      (hState : c.state = .flushing)
      (hSequence : error.sequence = c.upgradeSequence)
      (hPlan : abortPlan key (.step error) h = .ok p) :
      Looks h key (h.applyAll p.writes)

variable {h : Host} {key : ChannelKey}

/- A look finds something to do on a flushing channel only. -/
theorem Looks.eq_of_not_flushing
    {after : Host}
    (hLooks : h.Looks key after)
    (hNot :
      ∀ c, h.channels[key]? = some c → c.state ≠ .flushing) :
    after = h := by
  cases hLooks with
  | still => rfl
  | drained hChannel hState =>
      exact (hNot _ hChannel hState).elim
  | expired hChannel hState =>
      exact (hNot _ hChannel hState).elim

/- A refresh only looks, and may be done flushing. -/
theorem looks_refreshPlan
    {p : Plan (EventReport FlushStatus)}
    (hPlan : refreshPlan key h = .ok p) :
    h.Looks key (h.applyAll p.writes) := by
  rcases Session.refreshPlan_cases hPlan with
    rfl | ⟨c, _, hChannel, _, hState, hRest⟩
  · exact .still
  · rcases hRest with
      ⟨hFlight, rfl⟩ | ⟨error, q, hSequence, hMade, rfl⟩
    · exact .drained hChannel hState
        (hasInFlight_eq_false_iff.mp hFlight)
    · exact .expired hChannel hState hSequence hMade

end Host

end Interchain

------------------------------------------------------------
-- Looks and Packets
------------------------------------------------------------

namespace Interchain

namespace Host

variable {s : Session}

/- A look writes what it led to, as a whole. -/
theorem looks_refresh
    (key : ChannelKey)
    (hRefused : s.refused = none) :
    s.host.Looks key (s.refresh key).2.host :=
  (Session.carryOut_host (P := s.host.Looks key) hRefused .still
    fun _ hMade => looks_refreshPlan hMade).1

/- A resolved packet is no longer in flight when its channel is
   looked at. -/
theorem looks_resolvePacket
    (packet : PacketKey)
    (hRefused : s.refused = none) :
    ∃ resolved : Host,
      resolved = s.host.apply (.noCommitment packet) ∧
        resolved.Looks packet.source
          (s.resolvePacket packet).2.host := by
  rcases
      Session.write_of_refused_eq_none (.noCommitment packet)
        hRefused with
    ⟨next, hWrite, hHost, hFree⟩
  refine ⟨next.host, hHost, ?_⟩
  rw [Session.resolvePacket, hWrite]
  exact looks_refresh packet.source hFree

end Host

/- A packet goes in flight on an open channel, with the next
   sequence of the channel. -/
structure Records.Sends
    (r : Records)
    (n : Sequence)
    (r' : Records) : Prop where
  state : r.channel.state = .open
  next : r.next? = some n
  after :
    r' =
      { r with
        inFlight := insert n r.inFlight
        next? := some n.next }

namespace Host

variable {s : Session}

/- A packet is sent if it is accepted, and otherwise nothing
   is changed. -/
theorem send_cases
    (hash : Hash)
    (packet : Packet)
    (hRefused : s.refused = none) :
    (∃ report,
        (s.send hash packet).1 = .ok report ∧
          (s.host.records packet.source).Sends packet.sequence
            ((s.send hash packet).2.host.records
              packet.source)) ∨
      ∃ error,
        (s.send hash packet).1 = .error error ∧
          (s.send hash packet).2.host = s.host := by
  unfold Session.send
  split
  case h_1 => exact Or.inr ⟨_, rfl, rfl⟩
  case h_2 report hOk =>
    have hResult := Session.result_processSend hOk
    simp [processSend, checkSend] at hOk
    rcases hOk with ⟨_, c, hChannel, ⟨hState, _, hNext⟩, _⟩
    rw [← records_channel hChannel] at hState
    rw [Session.writeAll_of_refused_eq_none _ _ hRefused,
      hResult]
    refine Or.inl ⟨report, rfl, hState, hNext, ?_⟩
    simp only [sendPlan, applyAll_cons, applyAll_nil,
      records_apply_nextSequence, records_apply_commitment]

end Host

end Interchain
