import Interchain.Proofs.Course.Channels
import Interchain.Proofs.Handshake.Opening

/-
  What two ends agreed on.

  The terms of a channel are the end that it faces and the
  fields that an upgrade can change.  A plan stores a channel
  end on the terms that the chain holds already, except for the
  plan that opens: it takes the fields of the upgrade that is
  stored.  No plan of a handshake touches packets.

  Main declarations:
    * `ChannelEnd.terms`
    * `Host.HasSameTerms`
    * `Host.Negotiates`

  Main statements:
    * `Host.terms_change_only_by_opening`
    * `Host.peer_course`
-/

------------------------------------------------------------
-- Terms
------------------------------------------------------------

namespace Interchain

/- The peer of an end, and the fields that were negotiated. -/
def ChannelEnd.terms
    (c : ChannelEnd) :
    ChannelPeer × UpgradeFields :=
  (c.peer, c.fields)

namespace ChannelEnd

/- The state and the upgrade sequence are no terms. -/
@[simp] theorem terms_state (c : ChannelEnd) (state : ChannelState) :
    { c with state := state }.terms = c.terms := rfl

@[simp] theorem terms_sequence (c : ChannelEnd) (sequence : Sequence) :
    { c with upgradeSequence := sequence }.terms = c.terms := rfl

@[simp] theorem terms_restored (c : ChannelEnd) (sequence : Sequence) :
    (c.restored sequence).terms = c.terms := rfl

end ChannelEnd

namespace Host

/- The terms of a channel, if there is one. -/
def terms?
    (h : Host)
    (key : ChannelKey) :
    Option (ChannelPeer × UpgradeFields) :=
  h.channels[key]?.map ChannelEnd.terms

/- The same packets are in flight, and the same sequences are
   next. -/
structure HasSamePackets (h before : Host) : Prop where
  commitments : h.commitments = before.commitments
  nextSequences : h.nextSequences = before.nextSequences

/- Every channel is there, on the same terms, and so are the
   packets. -/
structure HasSameTerms (h before : Host) : Prop where
  terms : ∀ key, h.terms? key = before.terms? key
  packets : h.HasSamePackets before

theorem HasSamePackets.trans
    {a b c : Host}
    (hab : b.HasSamePackets a)
    (hbc : c.HasSamePackets b) :
    c.HasSamePackets a where
  commitments := hbc.commitments.trans hab.commitments
  nextSequences := hbc.nextSequences.trans hab.nextSequences

namespace HasSameTerms

theorem refl (h : Host) : h.HasSameTerms h :=
  ⟨fun _ => rfl, rfl, rfl⟩

theorem trans
    {a b c : Host}
    (hab : b.HasSameTerms a)
    (hbc : c.HasSameTerms b) :
    c.HasSameTerms a where
  terms key := (hbc.terms key).trans (hab.terms key)
  packets := hab.packets.trans hbc.packets

end HasSameTerms

/- The terms of an end that is stored. -/
theorem terms?_of_channels
    {h : Host}
    {key : ChannelKey}
    {c : ChannelEnd}
    (hChannel : h.channels[key]? = some c) :
    h.terms? key = some c.terms := by
  rw [terms?, hChannel, Option.map_some]

end Host

end Interchain

------------------------------------------------------------
-- Writes on the Same Terms
------------------------------------------------------------

namespace Interchain

/- A write that stores a channel end on the terms that a chain
   holds, or that is not about terms or packets at all. -/
def Write.Respects (h : Host) : Write → Prop
  | .channel key c => h.terms? key = some c.terms
  | .commitment _ _ => False
  | .noCommitment _ => False
  | .nextSequence _ _ => False
  | _ => True

/- All writes of a plan are on the terms that a chain holds. -/
def Plan.Respects
    {α : Type}
    (p : Plan α)
    (h : Host) : Prop :=
  ∀ w ∈ p.writes, w.Respects h

namespace Host

variable {h : Host}

/- A write that respects the terms keeps them. -/
theorem hasSameTerms_apply
    {w : Write}
    (hWrite : w.Respects h) :
    (h.apply w).HasSameTerms h := by
  cases w with
  | channel key c =>
      refine ⟨fun other => ?_, rfl, rfl⟩
      by_cases hKey : key = other
      · subst hKey
        rw [show h.terms? key = some c.terms from hWrite]
        simp [apply, terms?]
      · simp [apply, terms?, Std.ExtTreeMap.getElem?_insert,
          hKey]
  | commitment key value => exact hWrite.elim
  | noCommitment key => exact hWrite.elim
  | nextSequence key value => exact hWrite.elim
  | _ => exact ⟨fun _ => rfl, rfl, rfl⟩

/- A write respects the same terms on another chain. -/
theorem HasSameTerms.respects
    {g : Host}
    {w : Write}
    (hSame : g.HasSameTerms h)
    (hWrite : w.Respects h) :
    w.Respects g := by
  cases w with
  | channel key c => exact (hSame.terms key).trans hWrite
  | _ => exact hWrite

/- Writes that respect the terms keep them, one by one. -/
theorem hasSameTerms_applyAll
    {writes : List Write}
    (hWrites : ∀ w ∈ writes, w.Respects h) :
    (h.applyAll writes).HasSameTerms h := by
  induction writes generalizing h with
  | nil => exact .refl h
  | cons w rest ih =>
      have hFirst : (h.apply w).HasSameTerms h :=
        hasSameTerms_apply (hWrites w List.mem_cons_self)
      have hRest : ∀ x ∈ rest, x.Respects (h.apply w) :=
        fun x hx =>
          hFirst.respects (hWrites x (List.mem_cons_of_mem _ hx))
      exact hFirst.trans (ih hRest)

end Host

end Interchain

------------------------------------------------------------
-- Plans on the Same Terms
------------------------------------------------------------

namespace Interchain

namespace Host

variable {h : Host}

/- Dropping proposals is not about terms. -/
theorem respects_dropProposals (key : ChannelKey) :
    ∀ w ∈ dropProposals key, w.Respects h := by
  simp [dropProposals, Write.Respects]

/- A step stores the end on the terms it was found with. -/
theorem respects_stepPlan
    {tell : UpgradeAttributes → Event}
    {step : UpgradeStep}
    {p : Plan Event}
    (hTerms : h.terms? step.key = some step.channel.terms)
    (hPlan : stepPlan tell step h = .ok p) :
    p.Respects h := by
  simp only [stepPlan, bind_eq_ok, pure_eq_ok] at hPlan
  rcases hPlan with ⟨_, _, rfl⟩
  simpa [Plan.Respects, Write.Respects] using hTerms

theorem respects_ackPlan
    {step : AckStep}
    {p : Plan Event}
    (hTerms : h.terms? step.key = some step.channel.terms)
    (hPlan : ackPlan step h = .ok p) :
    p.Respects h := by
  simp only [ackPlan, bind_eq_ok, pure_eq_ok] at hPlan
  rcases hPlan with ⟨_, _, rfl⟩
  cases h.hasInFlight step.key <;>
    simpa [Plan.Respects, Write.Respects] using hTerms

theorem respects_confirmPlan
    {step : ConfirmStep}
    {p : Plan (Event × Bool)}
    (hTerms : h.terms? step.key = some step.channel.terms)
    (hPlan : confirmPlan step h = .ok p) :
    p.Respects h := by
  simp only [confirmPlan, bind_eq_ok, pure_eq_ok] at hPlan
  rcases hPlan with ⟨_, _, rfl⟩
  cases h.hasInFlight step.key with
  | true => simp [Plan.Respects, Write.Respects]
  | false => simpa [Plan.Respects, Write.Respects] using hTerms

/- A channel that is restored keeps its terms. -/
theorem respects_restorePlan
    {key : ChannelKey}
    {sequence : Sequence}
    {p : Plan ChannelEnd}
    (hPlan : restorePlan key sequence h = .ok p) :
    p.Respects h := by
  rcases restorePlan_eq_ok hPlan with ⟨c, hChannel, rfl⟩
  refine List.forall_mem_cons.mpr
    ⟨?_, respects_dropProposals key⟩
  rw [Write.Respects, c.terms_restored]
  exact terms?_of_channels hChannel

/- What is given up is restored on the terms that it had. -/
theorem respects_abortPlan
    {key : ChannelKey}
    {reason : AbortReason}
    {p : Plan (EventReport ErrorReceipt)}
    (hPlan : abortPlan key reason h = .ok p) :
    p.Respects h := by
  simp only [abortPlan, bind_eq_ok, pure_eq_ok] at hPlan
  rcases hPlan with ⟨_, _, _, _, restoring, hRestore, rfl⟩
  refine List.forall_mem_append.mpr
    ⟨respects_restorePlan hRestore, ?_⟩
  simp [Write.Respects]

theorem respects_cancelPlan
    {step : CancelStep}
    {p : Plan Event}
    (hPlan : cancelPlan step h = .ok p) :
    p.Respects h := by
  simp only [cancelPlan, bind_eq_ok, pure_eq_ok] at hPlan
  rcases hPlan with ⟨_, _, _, _, restoring, hRestore, rfl⟩
  exact List.forall_mem_cons.mpr
    ⟨trivial, respects_restorePlan hRestore⟩

theorem respects_timeoutPlan
    {step : TimeoutStep}
    {p : Plan Event}
    (hPlan : timeoutPlan step h = .ok p) :
    p.Respects h := by
  simp only [timeoutPlan, bind_eq_ok, pure_eq_ok] at hPlan
  rcases hPlan with ⟨_, _, _, _, restoring, hRestore, rfl⟩
  refine List.forall_mem_append.mpr
    ⟨respects_restorePlan hRestore, ?_⟩
  simp [Write.Respects]

/- An end that is looked at again keeps its terms. -/
theorem respects_refreshPlan
    {key : ChannelKey}
    {p : Plan (EventReport FlushStatus)}
    (hPlan : refreshPlan key h = .ok p) :
    p.Respects h := by
  rcases Session.refreshPlan_cases hPlan with
    rfl | ⟨c, _, hChannel, _, _, ⟨_, rfl⟩ | ⟨_, _, _, hMade, rfl⟩⟩
  · simp [Plan.Respects, stillFlushing, Plan.idle]
  · have hTerms := terms?_of_channels hChannel
    simpa [Plan.Respects, Write.Respects, completePlan]
      using hTerms
  · exact respects_abortPlan hMade

end Host

end Interchain

------------------------------------------------------------
-- Steps on the Same Terms
------------------------------------------------------------

namespace Interchain

namespace Host

variable {h : Host}

/- A proposal is stored with an end on unchanged terms. -/
theorem terms?_of_propose
    {key : ChannelKey}
    {c : ChannelEnd}
    {fields : UpgradeFields}
    {timeout : Option UpgradeTimeout}
    {step : UpgradeStep}
    (hTerms : h.terms? key = some c.terms)
    (hOk : h.propose key c fields timeout = .ok step) :
    h.terms? step.key = some step.channel.terms := by
  rcases propose_eq_ok hOk with ⟨_, _, _, rfl⟩
  exact hTerms

/- So is one that a message asks for. -/
theorem terms?_of_processInit
    {m : InitMessage}
    {report : EventReport UpgradeStep}
    (hOk : h.processInit m = .ok report) :
    h.terms? report.result.key =
      some report.result.channel.terms := by
  rcases processInit_eq_ok hOk with ⟨c, hChannel, hPropose⟩
  exact terms?_of_propose (terms?_of_channels hChannel) hPropose

/- A staged answer only catches up with the counterparty. -/
theorem terms?_of_stageAnswer
    {m : TryMessage}
    {step : UpgradeStep}
    (hStaged : h.stageAnswer m = .ok (some step)) :
    h.terms? step.key = some step.channel.terms := by
  rcases stageAnswer_eq_ok hStaged with
    ⟨hNone, _⟩ | ⟨c, other, hSome, _, hChannel, hPropose⟩
  · simp at hNone
  · rw [Option.some.inj hSome]
    refine terms?_of_propose ?_ hPropose
    rcases caughtUp_eq c m.counterpartySequence with
      ⟨last, _, hCaught, _⟩
    rw [hCaught, c.terms_sequence]
    exact terms?_of_channels hChannel

/- An answer is stored with an end on unchanged terms. -/
theorem terms?_of_processTry
    {m : TryMessage}
    {staged : Option UpgradeStep}
    {report : EventReport UpgradeStep}
    (hStaged : h.stageAnswer m = .ok staged)
    (hOk : h.processTry m staged = .ok report) :
    h.terms? report.result.key =
      some report.result.channel.terms := by
  rcases processTry_eq_ok hOk with
    ⟨c, u, flushing, upgrade, hAnswered, _, _, _, _, hFlushing,
      hResult⟩
  rcases answered_eq_stored hStaged hAnswered with
    ⟨found, last, hChannel, _, rfl⟩
  rw [hResult, (startFlushing_eq_ok hFlushing).1]
  exact (terms?_of_channels hChannel).trans rfl

/- An acknowledgement settles the proposal, not the end. -/
theorem terms?_of_processAck
    {m : AckMessage}
    {report : EventReport AckStep}
    (hOk : h.processAck m = .ok report) :
    h.terms? report.result.key =
      some report.result.channel.terms := by
  rcases processAck_eq_ok hOk with
    ⟨c, stored, flushing, upgrade, hChannel, hState, _, _, _, _,
      hFlushing, hResult⟩
  rw [hResult, flushIfOpen_eq_ok hState hFlushing]
  simp [terms?_of_channels hChannel]

theorem terms?_of_processConfirm
    {m : ConfirmMessage}
    {report : EventReport ConfirmStep}
    (hOk : h.processConfirm m = .ok report) :
    h.terms? report.result.key =
      some report.result.channel.terms := by
  rcases processConfirm_eq_ok hOk with
    ⟨c, u, hChannel, _, _, _, _, hResult⟩
  rw [hResult]
  exact terms?_of_channels hChannel

end Host

end Interchain

------------------------------------------------------------
-- Steps That Open
------------------------------------------------------------

namespace Interchain

/- Events that tell that a channel was opened with new
   fields. -/
def TellOpened (events : List Event) (key : ChannelKey) : Prop :=
  ∃ attributes,
    Event.upgradeOpen attributes ∈ events ∧ attributes.key = key

namespace Host

/-
  Going by the events of a step, a channel that was opened has
  the fields of the upgrade that was stored for it, and any
  other one has the fields that it had.  No peer changes.
-/
structure Negotiates
    (h : Host)
    (events : List Event)
    (after : Host) : Prop where
  peer :
    ∀ key : ChannelKey,
      after.channels[key]?.map ChannelEnd.peer =
        h.channels[key]?.map ChannelEnd.peer
  opened :
    ∀ key, TellOpened events key →
      ∃ u,
        h.upgrades[key]? = some u ∧
          after.channels[key]?.map ChannelEnd.fields =
            some u.fields
  kept :
    ∀ key, ¬ TellOpened events key →
      after.channels[key]?.map ChannelEnd.fields =
        h.channels[key]?.map ChannelEnd.fields

variable {h after : Host} {events : List Event}

/- Chains on the same terms have the same peer for a channel. -/
theorem HasSameTerms.peer
    (hSame : after.HasSameTerms h)
    (key : ChannelKey) :
    after.channels[key]?.map ChannelEnd.peer =
      h.channels[key]?.map ChannelEnd.peer := by
  have hTerms :=
    congrArg (Option.map Prod.fst) (hSame.terms key)
  rwa [terms?, terms?, Option.map_map, Option.map_map] at hTerms

theorem HasSameTerms.fields
    (hSame : after.HasSameTerms h)
    (key : ChannelKey) :
    after.channels[key]?.map ChannelEnd.fields =
      h.channels[key]?.map ChannelEnd.fields := by
  have hTerms :=
    congrArg (Option.map Prod.snd) (hSame.terms key)
  rwa [terms?, terms?, Option.map_map, Option.map_map] at hTerms

/- A step on the same terms may only tell of other things. -/
theorem HasSameTerms.negotiates
    (hSame : after.HasSameTerms h)
    (hQuiet :
      ∀ attributes, Event.upgradeOpen attributes ∉ events) :
    h.Negotiates events after where
  peer := hSame.peer
  opened := by
    rintro key ⟨attributes, hMem, _⟩
    exact (hQuiet attributes hMem).elim
  kept key _ := hSame.fields key

/- What comes before an opening may be on the same terms. -/
theorem Negotiates.after_hasSameTerms
    {before : Host}
    (earlier : List Event)
    (hSame : before.HasSameTerms h)
    (hUpgrades : before.upgrades = h.upgrades)
    (hQuiet :
      ∀ attributes, Event.upgradeOpen attributes ∉ earlier)
    (hNegotiates : before.Negotiates events after) :
    h.Negotiates (earlier ++ events) after := by
  have hTold (key : ChannelKey) :
      TellOpened (earlier ++ events) key ↔
        TellOpened events key := by
    constructor
    · rintro ⟨attributes, hMem, hKey⟩
      rcases List.mem_append.mp hMem with hEarlier | hLater
      · exact (hQuiet attributes hEarlier).elim
      · exact ⟨attributes, hLater, hKey⟩
    · rintro ⟨attributes, hMem, hKey⟩
      exact ⟨attributes, List.mem_append_right _ hMem, hKey⟩
  constructor
  · intro key
    rw [hNegotiates.peer key, hSame.peer key]
  · intro key hOpened
    rw [← hUpgrades]
    exact hNegotiates.opened key ((hTold key).mp hOpened)
  · intro key hNot
    rw [hTold key] at hNot
    rw [hNegotiates.kept key hNot, hSame.fields key]

/- The plan that opens takes the fields of the upgrade. -/
theorem negotiates_openPlan
    {key : ChannelKey}
    {p : Plan Event}
    (hPlan : openPlan key h = .ok p) :
    h.Negotiates [p.outcome] (h.applyAll p.writes) ∧
      (h.applyAll p.writes).HasSamePackets h := by
  simp only [openPlan, bind_eq_ok, required_eq_ok,
    channelEnd_eq_ok, upgrade_eq_ok, pure_eq_ok] at hPlan
  rcases hPlan with ⟨c, hChannel, u, hUpgrade, rfl⟩
  have hTold (other : ChannelKey) :
      TellOpened
          [.upgradeOpen (.ofEnd key
            { c.applyFields u.fields with state := .open }
            u.fields)] other ↔
        key = other := by
    simp [TellOpened, UpgradeAttributes.ofEnd]
  refine ⟨⟨fun other => ?_, fun other hOpened => ?_,
    fun other hNot => ?_⟩, rfl, rfl⟩
  · by_cases hKey : key = other
    · subst hKey
      simp [applyAll, apply, dropProposals, hChannel,
        ChannelEnd.applyFields]
    · simp [applyAll, apply, dropProposals, hKey,
        Std.ExtTreeMap.getElem?_insert]
  · have hKey := (hTold other).mp hOpened
    subst hKey
    refine ⟨u, hUpgrade, ?_⟩
    simp [applyAll, apply, dropProposals,
      ChannelEnd.fields, ChannelEnd.applyFields]
  · rw [hTold other] at hNot
    simp [applyAll, apply, dropProposals, hNot,
      Std.ExtTreeMap.getElem?_insert]

end Host

end Interchain

------------------------------------------------------------
-- Answers
------------------------------------------------------------

namespace Interchain

/- A plan on the same terms that tells of no opened channel. -/
theorem Plan.Respects.negotiates
    {α : Type}
    {h : Host}
    {p : Plan α}
    {events : List Event}
    (hRespects : p.Respects h)
    (hQuiet :
      ∀ attributes, Event.upgradeOpen attributes ∉ events) :
    h.Negotiates events (h.applyAll p.writes) ∧
      (h.applyAll p.writes).HasSamePackets h := by
  have hSame := Host.hasSameTerms_applyAll hRespects
  exact ⟨hSame.negotiates hQuiet, hSame.packets⟩

namespace Host

variable {h after : Host} {m : UpgradeMessage}
variable {events : List Event}

/- A confirmation leaves the proposal to the plan that opens. -/
theorem upgrades_confirmPlan
    {step : ConfirmStep}
    {p : Plan (Event × Bool)}
    (hPlan : confirmPlan step h = .ok p) :
    (h.applyAll p.writes).upgrades = h.upgrades := by
  simp only [confirmPlan, bind_eq_ok, pure_eq_ok] at hPlan
  rcases hPlan with ⟨_, _, rfl⟩
  cases h.hasInFlight step.key <;> rfl

/- A message that is taken changes terms only as it tells. -/
theorem Takes.negotiates
    (hTakes : h.Takes m events after) :
    h.Negotiates events after ∧ after.HasSamePackets h := by
  cases hTakes with
  | init hOk hPlan =>
      rcases outcome_stepPlan hPlan with ⟨_, hOutcome⟩
      exact (respects_stepPlan (terms?_of_processInit hOk)
        hPlan).negotiates (by simp [hOutcome])
  | attempt hStaged hOk hPlan =>
      rcases outcome_stepPlan hPlan with ⟨_, hOutcome⟩
      exact (respects_stepPlan (terms?_of_processTry hStaged hOk)
        hPlan).negotiates (by simp [hOutcome])
  | ack hOk hPlan =>
      rcases outcome_ackPlan hPlan with ⟨_, hOutcome⟩
      exact (respects_ackPlan (terms?_of_processAck hOk)
        hPlan).negotiates (by simp [hOutcome])
  | confirm hOk hPlan =>
      rcases outcome_confirmPlan hPlan with ⟨_, hOutcome⟩
      exact (respects_confirmPlan (terms?_of_processConfirm hOk)
        hPlan).negotiates (by simp [hOutcome])
  | @confirmOpen _ _ p q hOk hPlan hOpen =>
      rcases outcome_confirmPlan hPlan with ⟨_, hOutcome⟩
      have hSame :=
        hasSameTerms_applyAll
          (respects_confirmPlan (terms?_of_processConfirm hOk)
            hPlan)
      rcases negotiates_openPlan hOpen with
        ⟨hNegotiates, hPackets⟩
      have hAll :=
        hNegotiates.after_hasSameTerms [p.outcome.1] hSame
          (upgrades_confirmPlan hPlan) (by simp [hOutcome])
      exact ⟨hAll, hSame.packets.trans hPackets⟩
  | reopen hOk hPlan => exact negotiates_openPlan hPlan
  | cancel hOk hPlan =>
      rcases outcome_cancelPlan hPlan with ⟨_, hOutcome⟩
      exact (respects_cancelPlan hPlan).negotiates
        (by simp [hOutcome])
  | timeout hOk hPlan =>
      rcases outcome_timeoutPlan hPlan with ⟨_, hOutcome⟩
      exact (respects_timeoutPlan hPlan).negotiates
        (by simp [hOutcome])

/- An attempt that is given up at most stored a proposal. -/
theorem Ends.hasSameTerms
    {error : UpgradeError}
    {before : Host}
    (hEnds : h.Ends m error events before) :
    before.HasSameTerms h := by
  cases hEnds with
  | staged hStaged hEnded hPlan =>
      exact hasSameTerms_applyAll
        (respects_stepPlan (terms?_of_stageAnswer hStaged) hPlan)
  | attempt => exact .refl h
  | ack => exact .refl h
  | confirm => exact .refl h

end Host

end Interchain

------------------------------------------------------------
-- Messages, Packets and Looks
------------------------------------------------------------

namespace Interchain

/- The events that a result tells of; a failure tells of
   none. -/
def emitted
    {ε α : Type} :
    Except ε (EventReport α) → List Event
  | .ok report => report.events
  | .error _ => []

namespace Host

/- A message negotiates by opening only. -/
theorem negotiates_dispatch
    (h : Host)
    (m : UpgradeMessage) :
    h.Negotiates (emitted (h.dispatch m).1) (h.dispatch m).2 ∧
      (h.dispatch m).2.HasSamePackets h := by
  have hAnswers := h.answers_dispatch m
  rcases hDispatch : h.dispatch m with ⟨result, after⟩
  rw [hDispatch] at hAnswers
  cases hAnswers with
  | rejected cause =>
      have hSame := HasSameTerms.refl after
      exact ⟨hSame.negotiates (by simp [emitted]), hSame.packets⟩
  | taken log hTakes => exact hTakes.negotiates
  | givenUp hEnds hPlan =>
      have hSame :=
        hEnds.hasSameTerms.trans
          (hasSameTerms_applyAll (respects_abortPlan hPlan))
      exact ⟨hSame.negotiates fun _ =>
        hEnds.not_opens hPlan, hSame.packets⟩

/- A plan on the same terms, carried out. -/
theorem negotiates_carryOut
    {ε α : Type}
    {s : Session}
    (fatal : FatalError → ε)
    {plan : Host → Except ε (Plan (EventReport α))}
    (hRefused : s.refused = none)
    (hPlan :
      ∀ p, plan s.host = .ok p →
        p.Respects s.host ∧
          ∀ attributes,
            Event.upgradeOpen attributes ∉ p.outcome.events) :
    s.host.Negotiates (emitted (s.carryOut fatal plan).1)
        (s.carryOut fatal plan).2.host ∧
      (s.carryOut fatal plan).2.host.HasSamePackets s.host := by
  cases hMade : plan s.host with
  | error e =>
      have hSame := HasSameTerms.refl s.host
      rw [Session.carryOut_of_error fatal hMade]
      exact ⟨hSame.negotiates (by simp [emitted]), hSame.packets⟩
  | ok p =>
      rcases Session.carryOut_of_ok fatal hRefused hMade with
        ⟨next, hNext, hHost, _⟩
      rcases hPlan p hMade with ⟨hRespects, hQuiet⟩
      rw [hNext, hHost]
      exact hRespects.negotiates hQuiet

/- Giving up from outside changes no terms, and no packets. -/
theorem negotiates_abort
    (h : Host)
    (key : ChannelKey)
    (reason : AbortReason) :
    let (result, after) :=
      (Session.start h).carryOut id (abortPlan key reason)
    h.Negotiates (emitted result) after.host ∧
      after.host.HasSamePackets h := by
  refine negotiates_carryOut (s := .start h) id rfl ?_
  intro p hMade
  rcases events_abortPlan hMade with ⟨_, hEvents⟩
  exact ⟨respects_abortPlan hMade, by simp [hEvents]⟩

/- A look at a channel does not open it. -/
theorem negotiates_refresh
    {s : Session}
    (key : ChannelKey)
    (hRefused : s.refused = none) :
    s.host.Negotiates (emitted (s.refresh key).1)
        (s.refresh key).2.host ∧
      (s.refresh key).2.host.HasSamePackets s.host := by
  refine negotiates_carryOut DispatchError.fatal hRefused ?_
  intro p hMade
  refine ⟨respects_refreshPlan hMade, ?_⟩
  rcases Session.refreshPlan_cases hMade with
    rfl | ⟨c, _, _, _, _, ⟨_, rfl⟩ | ⟨_, _, _, hGivenUp, rfl⟩⟩
  · simp [stillFlushing, Plan.idle, Transcript.close,
      Transcript.empty]
  · simp [completePlan]
  · rcases events_abortPlan hGivenUp with ⟨_, hEvents⟩
    simp [Plan.map, Report.map, hEvents]

/- A resolved packet is the only one that goes. -/
theorem negotiates_resolvePacket
    (h : Host)
    (packet : PacketKey) :
    let (result, after) := (Session.start h).resolvePacket packet
    h.Negotiates (emitted result) after.host ∧
      after.host.commitments = h.commitments.erase packet ∧
      after.host.nextSequences = h.nextSequences := by
  rcases
      Session.write_of_refused_eq_none (s := .start h)
        (.noCommitment packet) rfl with
    ⟨next, hWrite, hHost, hFree⟩
  rcases negotiates_refresh packet.source hFree with
    ⟨hNegotiates, hPackets⟩
  rw [hHost] at hNegotiates hPackets
  simp only [Session.resolvePacket, hWrite]
  -- The commitment is gone before the look; the channels and
  -- the upgrades that the look finds are those of `h`.
  exact ⟨⟨hNegotiates.peer, hNegotiates.opened,
      hNegotiates.kept⟩,
    hPackets.commitments, hPackets.nextSequences⟩

/-
  Whatever a chain is asked to do with a channel, its peer
  stays, and its fields change only in a step that tells of an
  opened channel; they are then those of the upgrade that was
  stored before.  Packets stay, but for one that is resolved.
-/
theorem terms_change_only_by_opening (h : Host) :
    (∀ m,
      h.Negotiates (emitted (h.dispatch m).1) (h.dispatch m).2 ∧
        (h.dispatch m).2.HasSamePackets h) ∧
    (∀ key,
      let (result, after) := (Session.start h).refresh key
      h.Negotiates (emitted result) after.host ∧
        after.host.HasSamePackets h) ∧
    (∀ packet,
      let (result, after) :=
        (Session.start h).resolvePacket packet
      h.Negotiates (emitted result) after.host ∧
        after.host.commitments = h.commitments.erase packet ∧
        after.host.nextSequences = h.nextSequences) ∧
    (∀ key reason,
      let (result, after) :=
        (Session.start h).carryOut id (abortPlan key reason)
      h.Negotiates (emitted result) after.host ∧
        after.host.HasSamePackets h) :=
  ⟨h.negotiates_dispatch,
    fun key => negotiates_refresh (s := .start h) key rfl,
    h.negotiates_resolvePacket, h.negotiates_abort⟩

end Host

end Interchain

------------------------------------------------------------
-- Courses
------------------------------------------------------------

namespace Interchain

namespace Host

/- Sending a packet is not about channel ends. -/
theorem channels_send
    (hash : Hash)
    (h : Host)
    (p : Packet) :
    ((Session.start h).send hash p).2.host.channels =
      h.channels := by
  unfold Session.send
  split
  case h_1 => rfl
  case h_2 report hOk =>
    rw [Session.writeAll_of_refused_eq_none _ _ rfl]
    rfl

/- A channel end faces the same peer whatever happens. -/
theorem peer_undergo
    (hash : Hash)
    (h : Host)
    (x : Happening)
    (key : ChannelKey) :
    (h.undergo hash x).channels[key]?.map ChannelEnd.peer =
      h.channels[key]?.map ChannelEnd.peer := by
  cases x with
  | learn client height state => rfl
  | act a =>
      cases a with
      | dispatch m => exact (h.negotiates_dispatch m).1.peer key
      | send p => rw [undergo, perform, channels_send]
      | resolve packet =>
          exact (h.negotiates_resolvePacket packet).1.peer key
      | refresh other =>
          exact (negotiates_refresh (s := .start h) other
            rfl).1.peer key
      | abort other reason =>
          exact (h.negotiates_abort other reason).1.peer key
      | advance => rfl

/- A channel has the same peer in the end. -/
theorem peer_course
    (hash : Hash)
    (h : Host)
    (happenings : List Happening)
    (key : ChannelKey) :
    (h.course hash happenings).channels[key]?.map
        ChannelEnd.peer =
      h.channels[key]?.map ChannelEnd.peer := by
  induction happenings generalizing h with
  | nil => rfl
  | cons x rest ih => rw [course_cons, ih, peer_undergo]

end Host

end Interchain
