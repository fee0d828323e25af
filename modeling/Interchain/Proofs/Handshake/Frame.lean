import Interchain.Handshake.SendPacket
import Interchain.Proofs.Handshake.Plans
import Interchain.Proofs.Handshake.Checks

/-
  What a step leaves alone.

  A message, a packet and a look at a channel write records of
  one channel only.  So whatever such writes keep is kept by
  the step: the records of other channels, and the setting of
  the chain.

  Main declarations:
    * `Host.KeptAt`

  Main statements:
    * `Session.dispatch_keeps`
    * `Session.refresh_keeps`
    * `Session.resolvePacket_keeps`
    * `Session.send_keeps`
-/

------------------------------------------------------------
-- Plans
------------------------------------------------------------

namespace Interchain

/- A property of chains that writes for one channel keep. -/
def Host.KeptAt (key : ChannelKey) (P : Host → Prop) : Prop :=
  ∀ h writes,
    (∀ w : Write, w ∈ writes → w.channelKey = key) →
      P h → P (h.applyAll writes)

namespace Session

section Plans

variable {ε α : Type} {P : Host → Prop} {s : Session}

/- What holds before a plan, and of the chain that the plan
   leads to, holds after it. -/
theorem carryOut_host
    {fatal : FatalError → ε}
    {plan : Host → Except ε (Plan α)}
    (hRefused : s.refused = none)
    (hRest : P s.host)
    (hPlan :
      ∀ p, plan s.host = .ok p →
        P (s.host.applyAll p.writes)) :
    P (s.carryOut fatal plan).2.host ∧
      (s.carryOut fatal plan).2.refused = none := by
  cases hMade : plan s.host with
  | error e =>
      rw [carryOut_of_error fatal hMade]
      exact ⟨hRest, hRefused⟩
  | ok p =>
      rcases carryOut_of_ok fatal hRefused hMade with
        ⟨next, hNext, hHost, hFree⟩
      rw [hNext]
      refine ⟨?_, hFree⟩
      rw [hHost]
      exact hPlan p hMade

/- What writes to one channel cannot touch survives a plan
   about that channel. -/
theorem carryOut_keeps
    (fatal : FatalError → ε)
    {key : ChannelKey}
    {plan : Host → Except ε (Plan α)}
    (hKept : Host.KeptAt key P)
    (hRefused : s.refused = none)
    (hAbout :
      ∀ p, plan s.host = .ok p → p.IsAbout key)
    (hRest : P s.host) :
    P (s.carryOut fatal plan).2.host ∧
      (s.carryOut fatal plan).2.refused = none :=
  carryOut_host hRefused hRest fun p hMade =>
    hKept s.host p.writes (hAbout p hMade) hRest

end Plans

/- Reporting a result does not touch the session. -/
theorem snd_conclude
    {α : Type}
    (s : Session)
    (report : EventReport α)
    (plan : Host → Except FatalError (Plan Event)) :
    (s.conclude report plan).2 = (s.carryOut id plan).2 := by
  rcases hCarried : s.carryOut id plan with ⟨result, next⟩
  cases result <;> simp [conclude, hCarried]

/- Opening right after a confirmation carries out the usual
   plan. -/
theorem snd_openConfirmed
    (s : Session)
    (key : ChannelKey)
    (report : EventReport ConfirmStep)
    (event : Event) :
    (s.openConfirmed key report event).2 =
      (s.carryOut id (openPlan key)).2 := by
  unfold openConfirmed
  rcases s.carryOut id (openPlan key) with ⟨result, next⟩
  cases result <;> rfl

theorem snd_giveUp
    (s : Session)
    (key : ChannelKey)
    (error : UpgradeError)
    (before : List Event) :
    (s.giveUp key error before).2 =
      (s.carryOut id (abortPlan key (.step error))).2 := by
  rcases hCarried : s.carryOut id (abortPlan key (.step error))
    with ⟨result, next⟩
  cases result <;> simp [giveUp, hCarried]

end Session

end Interchain

------------------------------------------------------------
-- Messages
------------------------------------------------------------

namespace Interchain

namespace Session

variable {P : Host → Prop} {s : Session}

/- What writes to a channel cannot touch survives giving up. -/
theorem giveUp_keeps
    {key : ChannelKey}
    (error : UpgradeError)
    (before : List Event)
    (hKept : Host.KeptAt key P)
    (hRefused : s.refused = none)
    (hRest : P s.host) :
    P (s.giveUp key error before).2.host := by
  rw [snd_giveUp]
  exact (carryOut_keeps _ hKept hRefused
    (fun _ hMade => (Host.records_abortPlan hMade).1)
    hRest).1

/- It survives a step that is taken. -/
theorem take_keeps
    {α : Type}
    {key : ChannelKey}
    {checked : Except ChannelError (EventReport α)}
    {plan : α → Host → Except FatalError (Plan Event)}
    (hKept : Host.KeptAt key P)
    (hRefused : s.refused = none)
    (hAbout :
      ∀ report p, checked = .ok report →
        plan report.result s.host = .ok p → p.IsAbout key)
    (hRest : P s.host) :
    P (s.take checked plan).2.host := by
  cases checked with
  | error e => exact hRest
  | ok report =>
      rw [take, snd_conclude]
      exact (carryOut_keeps _ hKept hRefused
        (fun p hMade => hAbout report p rfl hMade)
        hRest).1

/- It survives an answer. -/
theorem dispatchTry_keeps
    (m : TryMessage)
    (hKept : Host.KeptAt m.key P)
    (hRefused : s.refused = none)
    (hRest : P s.host) :
    P (s.dispatchTry m).2.host := by
  unfold dispatchTry
  split
  case h_1 => exact hRest
  case h_2 staged hStaged =>
    split
    case h_1 report hOk =>
      rw [snd_conclude]
      refine (carryOut_keeps _ hKept hRefused ?_ hRest).1
      intro p hMade
      rw [← Host.key_of_processTry hOk]
      exact (Host.records_stepPlan hMade).1
    case h_2 => exact hRest
    case h_3 error hEnded =>
      unfold giveUpStaged
      split
      case h_1 =>
        exact giveUp_keeps error [] hKept hRefused hRest
      case h_2 step =>
        have hAbout :
            ∀ p, proposalPlan step s.host = .ok p →
              p.IsAbout m.key := by
          intro p hMade
          rw [← (Host.key_of_stageAnswer hStaged).1]
          exact (Host.records_stepPlan hMade).1
        rcases hCarried : s.carryOut id (proposalPlan step)
          with ⟨result, next⟩
        have hStored :=
          carryOut_keeps id hKept hRefused hAbout hRest
        rw [hCarried] at hStored
        cases result with
        | error e => exact hStored.1
        | ok event =>
            exact giveUp_keeps error [event] hKept hStored.2
              hStored.1

theorem dispatchAck_keeps
    (m : AckMessage)
    (hKept : Host.KeptAt m.key P)
    (hRefused : s.refused = none)
    (hRest : P s.host) :
    P (s.dispatchAck m).2.host := by
  unfold dispatchAck
  split
  case h_1 report hOk =>
    rw [snd_conclude]
    refine (carryOut_keeps _ hKept hRefused ?_ hRest).1
    intro p hMade
    rw [← Host.key_of_processAck hOk]
    exact (Host.records_ackPlan hMade).1
  case h_2 => exact hRest
  case h_3 error hEnded =>
    exact giveUp_keeps error [] hKept hRefused hRest

theorem dispatchConfirm_keeps
    (m : ConfirmMessage)
    (hKept : Host.KeptAt m.key P)
    (hRefused : s.refused = none)
    (hRest : P s.host) :
    P (s.dispatchConfirm m).2.host := by
  unfold dispatchConfirm
  split
  case h_1 => exact hRest
  case h_2 error hEnded =>
    exact giveUp_keeps error [] hKept hRefused hRest
  case h_3 report hOk =>
    rcases Host.processConfirm_eq_ok hOk with
      ⟨c, _, _, hState, _, _, _, hResult⟩
    have hAbout :
        ∀ p, confirmPlan report.result s.host = .ok p →
          p.IsAbout m.key := by
      intro p hMade
      have hPlan := Host.records_confirmPlan hMade (by
        rw [hResult]
        simp [hState])
      rw [hResult] at hPlan
      exact hPlan.1
    rcases hCarried :
      s.carryOut id (confirmPlan report.result)
      with ⟨result, next⟩
    have hStored :=
      carryOut_keeps id hKept hRefused hAbout hRest
    rw [hCarried] at hStored
    match result with
    | .error e => exact hStored.1
    | .ok (event, false) => exact hStored.1
    | .ok (event, true) =>
        simp only
        rw [snd_openConfirmed]
        exact (carryOut_keeps _ hKept hStored.2
          (fun _ hMade => (Host.records_openPlan hMade).1)
          hStored.1).1

/- A message writes records of its own channel only. -/
theorem dispatch_keeps
    (m : UpgradeMessage)
    (hKept : Host.KeptAt m.key P)
    (hRefused : s.refused = none)
    (hRest : P s.host) :
    P (s.dispatch m).2.host := by
  unfold dispatch
  split
  case h_1 => exact hRest
  case h_2 =>
    cases m with
    | init m =>
        refine take_keeps hKept hRefused ?_ hRest
        intro report p hOk hMade
        have hAbout := (Host.records_stepPlan hMade).1
        rwa [Host.key_of_processInit hOk] at hAbout
    | attempt m =>
        exact dispatchTry_keeps m hKept hRefused hRest
    | ack m => exact dispatchAck_keeps m hKept hRefused hRest
    | confirm m =>
        exact dispatchConfirm_keeps m hKept hRefused hRest
    | reopen m =>
        exact take_keeps hKept hRefused
          (fun _ _ _ hMade => (Host.records_openPlan hMade).1)
          hRest
    | cancel m =>
        refine take_keeps hKept hRefused ?_ hRest
        intro report p hOk hMade
        have hAbout := (Host.records_cancelPlan hMade).1
        rwa [Host.key_of_processCancel hOk] at hAbout
    | timeout m =>
        refine take_keeps hKept hRefused ?_ hRest
        intro report p hOk hMade
        have hAbout := (Host.records_timeoutPlan hMade).1
        rwa [Host.key_of_processTimeout hOk] at hAbout

end Session

end Interchain

------------------------------------------------------------
-- Packets
------------------------------------------------------------

namespace Interchain

namespace Session

variable {P : Host → Prop} {s : Session}

/- Writing without a refusal is applying. -/
theorem write_of_refused_eq_none
    (w : Write)
    (hRefused : s.refused = none) :
    ∃ next,
      s.write w = (.ok (), next) ∧
        next.host = s.host.apply w ∧
        next.refused = none := by
  simp [write, hRefused]

/- A look finds nothing to do, an end that is done flushing, or
   an attempt whose time ran out. -/
theorem refreshPlan_cases
    {key : ChannelKey}
    {h : Host}
    {p : Plan (EventReport FlushStatus)}
    (hPlan : refreshPlan key h = .ok p) :
    p = stillFlushing ∨
      ∃ c v,
        h.channels[key]? = some c ∧
          h.counterpartyUpgrades[key]? = some v ∧
          c.state = .flushing ∧
          (h.hasInFlight key = false ∧ p = completePlan key c ∨
            ∃ (error : UpgradeError)
              (q : Plan (EventReport ErrorReceipt)),
              error.sequence = c.upgradeSequence ∧
                abortPlan key (.step error) h = .ok q ∧
                p = q.map fun report =>
                  report.map FlushStatus.aborted) := by
  unfold refreshPlan at hPlan
  split at hPlan
  case h_1 => simp at hPlan
  case h_2 c hChannel =>
    rw [Host.channelEnd_eq_ok] at hChannel
    split at hPlan
    case isTrue => exact Or.inl (Except.ok.inj hPlan).symm
    case isFalse hFlushing =>
      rw [not_not] at hFlushing
      split at hPlan
      case h_1 => exact Or.inl (Except.ok.inj hPlan).symm
      case h_2 v hCounterparty =>
        split at hPlan
        case h_1 error hError =>
          unfold giveUpPlan at hPlan
          split at hPlan
          case h_1 q hMade =>
            exact Or.inr ⟨c, v, hChannel, hCounterparty,
              hFlushing, Or.inr ⟨error, q,
                Host.sequence_of_checkCounterpartyTimeout
                  hError,
                hMade, (Except.ok.inj hPlan).symm⟩⟩
          case h_2 => simp at hPlan
        case h_2 =>
          split at hPlan
          case isTrue => exact Or.inl (Except.ok.inj hPlan).symm
          case isFalse hFlight =>
            exact Or.inr ⟨c, v, hChannel, hCounterparty,
              hFlushing, Or.inl ⟨by simpa using hFlight,
                (Except.ok.inj hPlan).symm⟩⟩

/- The plan of a look at a channel. -/
theorem isAbout_refreshPlan
    {key : ChannelKey}
    {h : Host}
    {p : Plan (EventReport FlushStatus)}
    (hPlan : refreshPlan key h = .ok p) :
    p.IsAbout key := by
  rcases refreshPlan_cases hPlan with
    rfl | ⟨c, _, _, _, _, ⟨_, rfl⟩ | ⟨_, q, _, hMade, rfl⟩⟩
  · simp [Plan.IsAbout, stillFlushing, Plan.idle]
  · exact (h.records_completePlan key c).1
  · exact (Host.records_abortPlan hMade).1

/- It survives a refresh. -/
theorem refresh_keeps
    (key : ChannelKey)
    (hKept : Host.KeptAt key P)
    (hRefused : s.refused = none)
    (hRest : P s.host) :
    P (s.refresh key).2.host :=
  (carryOut_keeps _ hKept hRefused
    (fun _ hMade => isAbout_refreshPlan hMade) hRest).1

/- It survives when a packet is resolved. -/
theorem resolvePacket_keeps
    (key : PacketKey)
    (hKept : Host.KeptAt key.source P)
    (hRefused : s.refused = none)
    (hRest : P s.host) :
    P (s.resolvePacket key).2.host := by
  rcases
      write_of_refused_eq_none (.noCommitment key) hRefused with
    ⟨next, hWrite, hHost, hFree⟩
  unfold resolvePacket
  rw [hWrite]
  apply refresh_keeps key.source hKept hFree
  rw [hHost]
  apply hKept s.host [.noCommitment key] _ hRest
  simp [Write.channelKey]

/- What is to be stored of a packet. -/
theorem result_processSend
    {hash : Hash}
    {h : Host}
    {p : Packet}
    {report : EventReport SendStep}
    (hOk : h.processSend hash p = .ok report) :
    report.result =
      ⟨⟨p.source, p.sequence⟩, p.sequence.next,
        p.commitment hash⟩ := by
  simp only [Host.processSend, bind_eq_ok, pure_eq_ok] at hOk
  rcases hOk with ⟨_, _, rfl⟩
  rfl

theorem send_keeps
    (hash : Hash)
    (p : Packet)
    (hKept : Host.KeptAt p.source P)
    (hRefused : s.refused = none)
    (hRest : P s.host) :
    P (s.send hash p).2.host := by
  unfold send
  split
  case h_1 => exact hRest
  case h_2 report hOk =>
    rw [writeAll_of_refused_eq_none _ _ hRefused]
    apply hKept s.host _ _ hRest
    rw [result_processSend hOk]
    simp [sendPlan, Write.channelKey]

end Session

end Interchain
