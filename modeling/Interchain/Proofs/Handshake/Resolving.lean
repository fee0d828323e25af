import Interchain.Proofs.Handshake.Flushing
import Interchain.Proofs.Mirror.Proposal

/-
  Resolving the packets of a channel.

  A flushing end that knows the upgrade of the counterparty
  waits for its packets.  It is done with the last of them, no
  earlier and no later, in whatever order they are resolved.
  The commitment to a resolved packet is removed before the
  channel is looked at, so it is gone even where the look is
  rejected, as there is no channel.

  Main declarations:
    * `Host.look`
    * `Host.resolve`
    * `Host.AwaitsPackets`
    * `Host.drained`

  Main statements:
    * `Host.done_with_last_packet`
    * `Host.rejected_keeps_all_but_packet`
-/

------------------------------------------------------------
-- Looks and Resolutions
------------------------------------------------------------

namespace Interchain

namespace Host

/- What a look at a channel answers, and the chain after it. -/
def look
    (h : Host)
    (key : ChannelKey) :
    Except DispatchError (EventReport FlushStatus) × Host :=
  let (answer, s) := (Session.start h).refresh key
  (answer, s.host)

/- What resolving a packet answers, and the chain after it. -/
def resolve
    (h : Host)
    (packet : PacketKey) :
    Except DispatchError (EventReport FlushStatus) × Host :=
  let (answer, s) := (Session.start h).resolvePacket packet
  (answer, s.host)

/- The chain after packets of a channel are resolved, one after
   the other. -/
def resolveAll
    (h : Host)
    (key : ChannelKey)
    (sequences : List Sequence) :
    Host :=
  sequences.foldl (fun now s => (now.resolve ⟨key, s⟩).2) h

variable {h : Host} {key : ChannelKey}

/- A refresh that fails leaves all as it was. -/
theorem look_of_error
    {e : DispatchError}
    (hPlan : refreshPlan key h = .error e) :
    h.look key = (.error e, h) := by
  rw [look, Session.refresh,
    Session.carryOut_of_error (s := .start h) _ hPlan]
  rfl

/- A refresh makes the writes of its plan. -/
theorem look_of_ok
    {p : Plan (EventReport FlushStatus)}
    (hPlan : refreshPlan key h = .ok p) :
    h.look key = (.ok p.outcome, h.applyAll p.writes) := by
  rcases Session.carryOut_of_ok .fatal (s := .start h) rfl hPlan
    with ⟨next, hCarried, hHost, _⟩
  rw [look, Session.refresh, hCarried]
  exact congrArg _ hHost

/- A look depends on the chain only, not on what a session wrote
   before. -/
theorem look_eq_refresh
    {s : Session}
    (key : ChannelKey)
    (hRefused : s.refused = none) :
    ((s.refresh key).1, (s.refresh key).2.host) =
      s.host.look key := by
  cases hPlan : refreshPlan key s.host with
  | error e =>
      rw [look_of_error hPlan, Session.refresh,
        Session.carryOut_of_error _ hPlan]
  | ok p =>
      rcases Session.carryOut_of_ok .fatal hRefused hPlan with
        ⟨next, hCarried, hHost, _⟩
      rw [look_of_ok hPlan, Session.refresh, hCarried, hHost]

/- Resolving a packet is removing it, and a look. -/
theorem resolve_eq_look (h : Host) (packet : PacketKey) :
    h.resolve packet =
      (h.apply (.noCommitment packet)).look packet.source := by
  rcases
      Session.write_of_refused_eq_none (s := .start h)
        (.noCommitment packet) rfl with
    ⟨next, hWrite, hHost, hFree⟩
  change _ = (Session.host (.start h) |>.apply _).look _
  rw [← hHost, ← look_eq_refresh _ hFree, resolve,
    Session.resolvePacket, hWrite]

end Host

end Interchain

------------------------------------------------------------
-- Waiting for Packets
------------------------------------------------------------

namespace Interchain

namespace Host

/- An end that flushes and knows the upgrade of the
   counterparty, whose timeout is ahead. -/
structure AwaitsPackets
    (h : Host)
    (key : ChannelKey)
    (c : ChannelEnd) : Prop where
  channel : h.channels[key]? = some c
  state : c.state = .flushing
  ahead :
    ∃ counterparty timeout,
      h.counterpartyUpgrades[key]? = some counterparty ∧
        counterparty.timeout = some timeout ∧
        timeout.hasElapsed h.height h.timestamp = false

variable {h : Host} {key : ChannelKey} {c : ChannelEnd}

namespace AwaitsPackets

/- Removing commitments does not end the wait. -/
theorem apply_noCommitment
    (hAwaits : h.AwaitsPackets key c)
    (packet : PacketKey) :
    (h.apply (.noCommitment packet)).AwaitsPackets key c :=
  ⟨hAwaits.channel, hAwaits.state, hAwaits.ahead⟩

/- An end that waits for packets is done once there are none. -/
theorem refreshPlan_eq
    (hAwaits : h.AwaitsPackets key c) :
    refreshPlan key h =
      if h.hasInFlight key then .ok stillFlushing
      else .ok (completePlan key c) := by
  rcases hAwaits.ahead with
    ⟨counterparty, timeout, hKnown, hTimeout, hAhead⟩
  apply refreshPlan_of_waits hAwaits.channel hAwaits.state hKnown
  rw [Upgrade.hasRunOut, hTimeout]
  exact hAhead

/- As long as another packet is in flight, nothing but the
   commitment changes. -/
theorem resolve_still
    {n s : Sequence}
    (hAwaits : h.AwaitsPackets key c)
    (hFlight : s ∈ (h.records key).inFlight)
    (hOther : s ≠ n) :
    h.resolve ⟨key, n⟩ =
      (.ok (Transcript.empty.close .unchanged),
        h.apply (.noCommitment ⟨key, n⟩)) := by
  have hLeft :
      (h.apply (.noCommitment ⟨key, n⟩)).hasInFlight key =
        true := by
    rw [← Bool.not_eq_false, hasInFlight_eq_false_iff,
      records_apply_noCommitment]
    exact fun hEmpty =>
      Set.eq_empty_iff_forall_notMem.mp hEmpty s
        ⟨hFlight, hOther⟩
  have hPlan := (hAwaits.apply_noCommitment ⟨key, n⟩).refreshPlan_eq
  rw [hLeft, if_pos rfl] at hPlan
  rw [resolve_eq_look, look_of_ok hPlan]
  rfl

/- Without another packet in flight, the end is done. -/
theorem resolve_done
    {n : Sequence}
    (hAwaits : h.AwaitsPackets key c)
    (hLast : ∀ s ∈ (h.records key).inFlight, s = n) :
    h.resolve ⟨key, n⟩ =
      (.ok (Report.noting .complete
          ("channel " ++ key.display ++ " finished flushing")),
        (h.apply (.noCommitment ⟨key, n⟩)).apply
          (.channel key { c with state := .flushComplete })) := by
  have hEmpty :
      (h.apply (.noCommitment ⟨key, n⟩)).hasInFlight key =
        false := by
    rw [hasInFlight_eq_false_iff, records_apply_noCommitment]
    exact Set.sdiff_eq_empty.mpr hLast
  have hPlan := (hAwaits.apply_noCommitment ⟨key, n⟩).refreshPlan_eq
  rw [hEmpty, if_neg Bool.false_ne_true] at hPlan
  rw [resolve_eq_look, look_of_ok hPlan]
  rfl

end AwaitsPackets

end Host

end Interchain

------------------------------------------------------------
-- Resolving All Packets
------------------------------------------------------------

namespace Interchain

namespace Host

/- The chain without the commitments to some packets of a
   channel. -/
def withoutPackets
    (h : Host)
    (key : ChannelKey)
    (sequences : List Sequence) :
    Host :=
  { h with
    commitments :=
      h.commitments.filter fun packet _ =>
        packet.source ≠ key ∨ packet.sequence ∉ sequences }

/- The chain whose end of a channel is done flushing, without
   packets of that channel. -/
def drained
    (h : Host)
    (key : ChannelKey)
    (c : ChannelEnd) :
    Host :=
  { h with
    channels :=
      h.channels.insert key { c with state := .flushComplete }
    commitments :=
      h.commitments.filter fun packet _ => packet.source ≠ key }

/-
  An order in which all packets in flight on a channel are
  resolved, up to the last of them.  Unknown sequences, and
  packets that are resolved by then, may come in between.
-/
structure Exhausts
    (h : Host)
    (key : ChannelKey)
    (before : List Sequence)
    (last : Sequence) : Prop where
  inFlight : last ∈ (h.records key).inFlight
  later : last ∉ before
  others :
    ∀ s ∈ (h.records key).inFlight, s ≠ last → s ∈ before

variable {h : Host} {key : ChannelKey} {c : ChannelEnd}

/- Which commitments are left depends on their keys. -/
theorem commitment_filter
    (table : Std.ExtTreeMap PacketKey PacketCommitment)
    (keep : PacketKey → Prop)
    [DecidablePred keep]
    (packet : PacketKey) :
    (table.filter fun other _ => keep other)[packet]? =
      if keep packet then table[packet]? else none := by
  rw [Std.ExtTreeMap.getElem?_filter']
  cases table[packet]? <;> simp [Option.filter]

theorem withoutPackets_nil (h : Host) (key : ChannelKey) :
    h.withoutPackets key [] = h := by
  have hSame :
      (h.withoutPackets key []).commitments = h.commitments :=
    Std.ExtTreeMap.ext_getElem? fun packet => by
      rw [withoutPackets, commitment_filter]
      simp
  exact congrArg (fun table => { h with commitments := table })
    hSame

/- Packets can be removed one by one. -/
theorem withoutPackets_cons
    (h : Host)
    (key : ChannelKey)
    (n : Sequence)
    (rest : List Sequence) :
    h.withoutPackets key (n :: rest) =
      (h.apply (.noCommitment ⟨key, n⟩)).withoutPackets key
        rest := by
  have hSame :
      (h.withoutPackets key (n :: rest)).commitments =
        ((h.apply (.noCommitment ⟨key, n⟩)).withoutPackets key
          rest).commitments := by
    apply Std.ExtTreeMap.ext_getElem?
    rintro ⟨source, s⟩
    simp only [withoutPackets, commitment_filter, apply,
      Std.ExtTreeMap.getElem?_erase, Std.compare_eq_iff_eq,
      PacketKey.mk.injEq, List.mem_cons]
    grind
  exact congrArg (fun table => { h with commitments := table })
    hSame

/- As long as some packet is not resolved, the chain only loses
   the packets that are. -/
theorem AwaitsPackets.resolveAll_eq
    {past : List Sequence}
    {s : Sequence}
    (hAwaits : h.AwaitsPackets key c)
    (hFlight : s ∈ (h.records key).inFlight)
    (hLater : s ∉ past) :
    h.resolveAll key past = h.withoutPackets key past := by
  induction past generalizing h with
  | nil => exact (withoutPackets_nil h key).symm
  | cons n rest ih =>
      simp only [List.mem_cons, not_or] at hLater
      rcases hLater with ⟨hOther, hRest⟩
      have hStep := hAwaits.resolve_still hFlight hOther
      have hLeft :
          s ∈ ((h.apply (.noCommitment ⟨key, n⟩)).records
            key).inFlight := by
        rw [records_apply_noCommitment]
        exact ⟨hFlight, hOther⟩
      rw [Host.resolveAll, List.foldl_cons, hStep,
        withoutPackets_cons]
      exact ih (hAwaits.apply_noCommitment _) hLeft hRest

/- What is then in flight is what was, but for those packets. -/
theorem inFlight_withoutPackets
    (sequences : List Sequence) :
    ((h.withoutPackets key sequences).records key).inFlight =
      { s ∈ (h.records key).inFlight | s ∉ sequences } := by
  ext s
  simp only [records, Set.mem_ofPred_eq,
    Std.ExtTreeMap.mem_iff_isSome_getElem?, withoutPackets,
    commitment_filter]
  by_cases hRemoved : s ∈ sequences <;> simp [hRemoved]

/- An end still waits after packets are resolved. -/
theorem AwaitsPackets.withoutPackets
    (hAwaits : h.AwaitsPackets key c)
    (sequences : List Sequence) :
    (h.withoutPackets key sequences).AwaitsPackets key c :=
  ⟨hAwaits.channel, hAwaits.state, hAwaits.ahead⟩

/- Before the last packet, that packet is the only one left. -/
theorem Exhausts.eq_last
    {before : List Sequence}
    {last : Sequence}
    (hExhausts : h.Exhausts key before last) :
    ∀ s ∈ ((h.withoutPackets key before).records key).inFlight,
      s = last := by
  rw [inFlight_withoutPackets]
  rintro s ⟨hFlight, hLeft⟩
  by_contra hOther
  exact hLeft (hExhausts.others s hFlight hOther)

/- Whatever the order, no packet of the channel is left, and
   all others are. -/
theorem Exhausts.drained_eq
    {before : List Sequence}
    {last : Sequence}
    (hExhausts : h.Exhausts key before last)
    (c : ChannelEnd) :
    ((h.withoutPackets key before).apply
        (.noCommitment ⟨key, last⟩)).apply
          (.channel key { c with state := .flushComplete }) =
      h.drained key c := by
  have hSame :
      (((h.withoutPackets key before).apply
        (.noCommitment ⟨key, last⟩)).apply
          (.channel key
            { c with state := .flushComplete })).commitments =
        (h.drained key c).commitments := by
    apply Std.ExtTreeMap.ext_getElem?
    rintro ⟨source, s⟩
    have hGone :
        source = key → s ≠ last → s ∉ before →
          h.commitments[PacketKey.mk source s]? = none := by
      rintro rfl hOther hLeft
      apply Std.ExtTreeMap.getElem?_eq_none
      exact fun hFlight =>
        hLeft (hExhausts.others s hFlight hOther)
    simp only [apply, withoutPackets, Host.drained,
      commitment_filter, Std.ExtTreeMap.getElem?_erase,
      Std.compare_eq_iff_eq, PacketKey.mk.injEq]
    grind
  exact congrArg
    (fun table =>
      { h with
        channels :=
          h.channels.insert key { c with state := .flushComplete }
        commitments := table })
    hSame

/-
  An end that awaits its packets answers every resolution but
  that of the last packet in flight with nothing, and goes on
  flushing.  The last one is answered with completion.  The
  chain that results is the same for every order: its end of
  the channel is done flushing, and none of its packets is left.
-/
theorem done_with_last_packet
    {before : List Sequence}
    {last : Sequence}
    (hAwaits : h.AwaitsPackets key c)
    (hExhausts : h.Exhausts key before last) :
    (∀ past n rest,
        before = past ++ n :: rest →
          ∃ now,
            (h.resolveAll key past).resolve ⟨key, n⟩ =
                (.ok (Transcript.empty.close .unchanged), now) ∧
              now.channels[key]? = some c ∧
              c.state = .flushing) ∧
      (h.resolveAll key before).resolve ⟨key, last⟩ =
        (.ok (Report.noting .complete
            ("channel " ++ key.display ++ " finished flushing")),
          h.drained key c) := by
  have hLater := hExhausts.later
  constructor
  · rintro past n rest rfl
    simp only [List.mem_append, List.mem_cons, not_or] at hLater
    rcases hLater with ⟨hPast, hOther, _⟩
    have hFlight :
        last ∈
          ((h.withoutPackets key past).records key).inFlight := by
      rw [inFlight_withoutPackets]
      exact ⟨hExhausts.inFlight, hPast⟩
    rw [hAwaits.resolveAll_eq hExhausts.inFlight hPast,
      (hAwaits.withoutPackets past).resolve_still hFlight hOther]
    exact ⟨_, rfl, hAwaits.channel, hAwaits.state⟩
  · rw [hAwaits.resolveAll_eq hExhausts.inFlight hLater,
      (hAwaits.withoutPackets before).resolve_done
        hExhausts.eq_last,
      hExhausts.drained_eq]

end Host

end Interchain

------------------------------------------------------------
-- Rejections
------------------------------------------------------------

namespace Interchain

namespace Host

variable {h : Host} {cause : ChannelError}

/- A look is rejected for one reason: there is no channel. -/
theorem refreshPlan_eq_rejected_iff
    {key : ChannelKey} :
    refreshPlan key h = .error (.rejected cause) ↔
      h.channels[key]? = none ∧ cause = .channelNotFound key := by
  unfold refreshPlan giveUpPlan
  cases hChannel : h.channels[key]? with
  | none => simp [channelEnd, hChannel, eq_comm]
  | some c =>
      rw [channelEnd_eq_ok.mpr hChannel]
      grind

/- It is rejected before anything is written. -/
theorem look_rejected_iff
    {key : ChannelKey} :
    (h.look key).1 = .error (.rejected cause) ↔
      h.channels[key]? = none ∧ cause = .channelNotFound key := by
  rw [← refreshPlan_eq_rejected_iff]
  cases hPlan : refreshPlan key h with
  | error e => simp [look_of_error hPlan]
  | ok p => simp [look_of_ok hPlan]

/- A refresh that is rejected leaves all as it was. -/
theorem look_of_rejected
    {key : ChannelKey}
    (hRejected : (h.look key).1 = .error (.rejected cause)) :
    (h.look key).2 = h := by
  rw [look_rejected_iff, ← refreshPlan_eq_rejected_iff]
    at hRejected
  rw [look_of_error hRejected]

/- Removing a commitment changes a chain that has it. -/
theorem apply_noCommitment_eq_self_iff
    {packet : PacketKey} :
    h.apply (.noCommitment packet) = h ↔
      packet ∉ h.commitments := by
  constructor
  · intro hSame
    rw [← hSame]
    simp [apply]
  · intro hAbsent
    have hErased :
        h.commitments.erase packet = h.commitments := by
      apply Std.ExtTreeMap.ext_getElem?
      intro other
      rw [Std.ExtTreeMap.getElem?_erase]
      split
      case isTrue hSame =>
        rw [Std.compare_eq_iff_eq] at hSame
        rw [← hSame, Std.ExtTreeMap.getElem?_eq_none hAbsent]
      case isFalse => rfl
    exact congrArg
      (fun table => { h with commitments := table }) hErased

/-
  A rejected look changes nothing.  A resolution is rejected
  exactly if the packet's channel is missing.  It removes the
  commitment nevertheless, so it changes nothing exactly if the
  packet was not in flight.
-/
theorem rejected_keeps_all_but_packet
    (h : Host)
    (cause : ChannelError) :
    (∀ key,
        (h.look key).1 = .error (.rejected cause) →
          (h.look key).2 = h) ∧
      ∀ packet,
        ((h.resolve packet).1 = .error (.rejected cause) ↔
            h.channels[packet.source]? = none ∧
              cause = .channelNotFound packet.source) ∧
          ((h.resolve packet).1 = .error (.rejected cause) →
            (h.resolve packet).2 =
                h.apply (.noCommitment packet) ∧
              ((h.resolve packet).2 = h ↔
                packet ∉ h.commitments)) := by
  refine ⟨fun key hRejected => look_of_rejected hRejected,
    fun packet => ⟨?_, ?_⟩⟩
  · rw [resolve_eq_look, look_rejected_iff]
    rfl
  · rw [resolve_eq_look]
    intro hRejected
    rw [look_of_rejected hRejected]
    exact ⟨rfl, apply_noCommitment_eq_self_iff⟩

end Host

end Interchain

------------------------------------------------------------
-- Sample Chains
------------------------------------------------------------

namespace Interchain

namespace Fixture

/- The proposal that B flushes for, as A knows it. -/
def knownUpgrade : Upgrade :=
  ⟨proposal.fields .right, some sampleDeadline, .zero⟩

/- Chain A while its end of the channel flushes, with two packets
   in flight. -/
def draining (hash : Hash) : Host :=
  withPacket hash ⟨key .left, ⟨2⟩⟩
    (withPacket hash ⟨key .left, ⟨1⟩⟩
      ((host hash .left).applyAll
        [ .channel (key .left) (channelEndA .flushing ⟨1⟩),
          .upgrade (key .left) upgrade,
          .counterpartyUpgrade (key .left) knownUpgrade ]))

/- Two packets are in flight on A. -/
theorem inFlight_draining (hash : Hash) :
    ((draining hash).records (key .left)).inFlight =
      {⟨2⟩, ⟨1⟩} := by
  simp [draining, withPacket, records_host]

theorem awaitsPackets_draining (hash : Hash) :
    (draining hash).AwaitsPackets (key .left)
      (channelEndA .flushing ⟨1⟩) where
  channel := by
    simp [draining, withPacket, Host.apply]
  state := rfl
  ahead :=
    ⟨knownUpgrade, sampleDeadline,
      by simp [draining, withPacket, Host.apply], rfl,
      hasElapsed_sampleDeadline hash .left⟩

/- The packets are resolved in any order, with others in
   between. -/
theorem exhausts_draining (hash : Hash) :
    (draining hash).Exhausts (key .left) [⟨7⟩, ⟨2⟩, ⟨2⟩]
      ⟨1⟩ where
  inFlight := by simp [inFlight_draining]
  later := by decide
  others := by
    rw [inFlight_draining]
    rintro s (rfl | rfl) hOther
    · simp
    · exact absurd rfl hOther

/- A is done with its first packet, as the second one and an
   unknown one are resolved before. -/
theorem sample_done_with_last_packet :
    (draining id).AwaitsPackets (key .left)
        (channelEndA .flushing ⟨1⟩) ∧
      (draining id).Exhausts (key .left) [⟨7⟩, ⟨2⟩, ⟨2⟩] ⟨1⟩ ∧
      ((draining id).resolveAll (key .left)
          [⟨7⟩, ⟨2⟩, ⟨2⟩]).resolve ⟨key .left, ⟨1⟩⟩ =
        (.ok (Report.noting .complete
            "channel (transfer, channel-0) finished flushing"),
          (draining id).drained (key .left)
            (channelEndA .flushing ⟨1⟩)) := by
  have hAwaits := awaitsPackets_draining id
  have hExhausts := exhausts_draining id
  exact ⟨hAwaits, hExhausts,
    (Host.done_with_last_packet hAwaits hExhausts).2⟩

theorem channels_chainA (hash : Hash) :
    (chainA hash).channels[key .left]? = none := by
  simp [chainA, connected, standardChain, chain, Host.create,
    Host.connect, Host.apply]

/- Where nothing is in flight, nothing is changed. -/
theorem sample_rejected_keeps_all_but_packet :
    ((chainA id).resolve ⟨key .left, ⟨1⟩⟩).1 =
        .error (.rejected (.channelNotFound (key .left))) ∧
      ((chainA id).resolve ⟨key .left, ⟨1⟩⟩).2 = chainA id := by
  rcases
      ((chainA id).rejected_keeps_all_but_packet
        (.channelNotFound (key .left))).2 ⟨key .left, ⟨1⟩⟩ with
    ⟨hReason, hAfter⟩
  have hRejected := hReason.mpr ⟨channels_chainA id, rfl⟩
  refine ⟨hRejected, (hAfter hRejected).2.mpr ?_⟩
  simp [chainA, connected, standardChain, chain, Host.create,
    Host.connect, Host.apply]

/- Chain A before it has a channel, with a packet in flight. -/
def stray (hash : Hash) : Host :=
  withPacket hash ⟨key .left, ⟨1⟩⟩ (chainA hash)

/- The resolution is rejected.  Still, the packet that was in
   flight no longer is. -/
theorem sample_rejected_removes_packet :
    ((stray id).resolve ⟨key .left, ⟨1⟩⟩).1 =
        .error (.rejected (.channelNotFound (key .left))) ∧
      PacketKey.mk (key .left) ⟨1⟩ ∈ (stray id).commitments ∧
      PacketKey.mk (key .left) ⟨1⟩ ∉
        ((stray id).resolve ⟨key .left, ⟨1⟩⟩).2.commitments := by
  have hRejected :
      (((stray id).apply (.noCommitment ⟨key .left, ⟨1⟩⟩)).look
          (key .left)).1 =
        .error (.rejected (.channelNotFound (key .left))) :=
    Host.look_rejected_iff.mpr ⟨channels_chainA id, rfl⟩
  rw [Host.resolve_eq_look]
  refine ⟨hRejected, by simp [stray, withPacket, Host.apply], ?_⟩
  rw [Host.look_of_rejected hRejected]
  simp [Host.apply]

end Fixture

end Interchain
