import Interchain.Proofs.Commitment.Verification
import Interchain.Proofs.Handshake.Looking
import Interchain.Proofs.Handshake.Step
import Interchain.Proofs.Handshake.Weighing

/-
  Every step of a chain is a move of a channel's records.

  A chain trusts its clients as far as what they accept about
  the counterparty's end was among given records.  For a
  message it has to trust them about the byte strings that are
  weighed for it, and no others.  Under that trust, messages,
  packets and looks at a channel do no more to its records than
  a move can do.

  Main declarations:
    * `Host.outlook`
    * `Host.Trusts`

  Main statements:
    * `Host.Trusts.moves_dispatch`
    * `Host.moves_resolvePacket`
    * `Host.moves_send`
-/

------------------------------------------------------------
-- Outlook of a Chain
------------------------------------------------------------

namespace Interchain

namespace Host

/- The connection that a connection leads to. -/
def across (h : Host) (id : ConnectionId) :
    Option ConnectionId :=
  h.connections[id]?.bind fun connection =>
    connection.peer.connection

/- Proofs can be checked over an open connection. -/
def HearsOver (h : Host) (id : ConnectionId) : Prop :=
  ∃ connection,
    h.connections[id]? = some connection ∧
      connection.isOpen = true ∧ h.Hears connection

/- How an end of the chain sees its counterparty. -/
def outlook
    (h : Host)
    (key : ChannelKey)
    (proven : Records → Prop) :
    Outlook :=
  ⟨key, h.across, h.HearsOver, proven⟩

/-
  Whatever the clients of a chain accept about the end that a
  key names, over an open connection, was among the records, if
  the byte strings of the proof and of what it shows are among
  given ones.  Of an upgrade only the fields count.
-/
structure Trusts
    (h : Host)
    (weighed : List Bytes)
    (peerKey : ChannelKey)
    (proven : Records → Prop) : Prop where
  both :
    ∀ {c id connection expected u channelProof upgradeProof
        height},
      channelProof.bytes ∈ weighed →
      utf8 expected.committed ∈ weighed →
      upgradeProof.bytes ∈ weighed →
      utf8 u.committed ∈ weighed →
      c.peer = peerKey.peer →
      h.openConnection c = .ok (id, connection) →
      h.verifyChannel c connection expected channelProof
        height = .ok () →
      h.verifyUpgrade c connection u upgradeProof
        height = .ok () →
      ∃ seen answer,
        proven seen ∧ seen.channel = expected ∧
          seen.upgrade? = some answer ∧
          answer.fields = u.fields
  channel :
    ∀ {c id connection expected proof height},
      proof.bytes ∈ weighed →
      utf8 expected.committed ∈ weighed →
      c.peer = peerKey.peer →
      h.openConnection c = .ok (id, connection) →
      h.verifyChannel c connection expected proof
        height = .ok () →
      ∃ seen, proven seen ∧ seen.channel = expected
  receipt :
    ∀ {c id connection expected proof height},
      proof.bytes ∈ weighed →
      utf8 expected.committed ∈ weighed →
      c.peer = peerKey.peer →
      h.openConnection c = .ok (id, connection) →
      h.verifyReceipt c connection expected proof
        height = .ok () →
      ∃ seen, proven seen ∧ seen.receipt? = some expected

variable {h : Host}

/- A connection leads to the one that its peer names. -/
theorem across_eq_some
    {id : ConnectionId}
    {connection : ConnectionEnd}
    (hConnection : h.connections[id]? = some connection) :
    h.across id = connection.peer.connection := by
  simp [across, hConnection]

/- A client that accepts a channel end can check proofs. -/
theorem hears_of_verifyChannel
    {c expected : ChannelEnd}
    {connection : ConnectionEnd}
    {proof : CommitmentProof}
    {height : Height}
    (hOk :
      h.verifyChannel c connection expected proof height =
        .ok ()) :
    h.Hears connection := by
  simp [verifyChannel, counterpartyClient] at hOk
  rcases hOk with ⟨kind, hKind, client, hFind, _⟩
  exact ⟨kind, client, hKind, hFind⟩

/- Upgrades that pass the check are compatible. -/
theorem compatible_of_checkCompatible
    {own counterparty : UpgradeFields}
    (key : ChannelKey)
    (proven : Records → Prop)
    (hOk : h.checkCompatible own counterparty = .ok ()) :
    (h.outlook key proven).Compatible own counterparty := by
  rcases checkCompatible_eq_ok hOk with
    ⟨hOrder, hVersion, id, connection, hHop, hConnection, _,
      hPeer⟩
  exact ⟨hOrder, hVersion, id, hHop,
    (across_eq_some hConnection).trans hPeer⟩

/- A counterparty that is shown mirrors the end, and holds an
   upgrade with the fields shown. -/
theorem Trusts.exists_mirrors
    {peerKey key : ChannelKey}
    {proven : Records → Prop}
    {shown : ShownEnd}
    (hTrusts :
      h.Trusts (h.weighedEnd key shown) peerKey proven)
    {c found : ChannelEnd}
    {last : Sequence}
    {height : Height}
    (hChannel : h.channels[key]? = some found)
    (hCaught : c = { found with upgradeSequence := last })
    (hPeer : found.peer = peerKey.peer)
    (hSequence : c.upgradeSequence = shown.sequence)
    (hOk :
      h.verifyCounterparty key c shown.state shown.sequence
        shown.upgrade shown.channelProof shown.upgradeProof
        height = .ok ()) :
    ∃ seen answer,
      proven seen ∧ seen.channel.state = shown.state ∧
        (h.outlook key proven).Mirrors c shown.state
          seen.channel ∧
        seen.upgrade? = some answer ∧
        answer.fields = shown.upgrade.fields := by
  rcases verifyCounterparty_eq_ok_iff.mp hOk with
    ⟨id, connection, hop, hConnection, hHop, hVerified,
      hUpgrade⟩
  have hMirrored :=
    mem_weighedEnd_mirrored shown hChannel hCaught hConnection
      hHop
  have hOwnPeer : c.peer = peerKey.peer := by
    rw [hCaught]
    exact hPeer
  rcases
      hTrusts.both (by simp [weighedEnd]) hMirrored
        (by simp [weighedEnd]) (by simp [weighedEnd]) hOwnPeer
        hConnection hVerified hUpgrade with
    ⟨seen, answer, hProven, hSeen, hAnswer, hFields⟩
  rcases openConnection_eq_ok.mp hConnection with
    ⟨hFirst, hFound, hOpen⟩
  have hHears : h.HearsOver id :=
    ⟨connection, hFound, hOpen,
      hears_of_verifyChannel hVerified⟩
  have hAcross : h.across id = some hop :=
    (across_eq_some hFound).trans hHop
  rw [← hSequence] at hSeen
  refine ⟨seen, answer, hProven, ?_,
    ⟨id, hop, hFirst, hHears, hAcross, hSeen⟩, hAnswer,
    hFields⟩
  rw [hSeen]
  rfl

end Host

end Interchain

------------------------------------------------------------
-- Giving Up
------------------------------------------------------------

namespace Interchain

namespace Host

variable {h : Host} {key : ChannelKey} {o : Outlook}
variable {s : Session} {before : Records}

/- Carrying a plan out moves records as the plan does. -/
theorem moves_carryOut
    {ε α : Type}
    {fatal : FatalError → ε}
    {plan : Host → Except ε (Plan α)}
    (hRefused : s.refused = none)
    (hRest : before.Moves o (s.host.records key))
    (hPlan :
      ∀ p, plan s.host = .ok p →
        before.Moves o
          ((s.host.applyAll p.writes).records key)) :
    before.Moves o
      ((s.carryOut fatal plan).2.host.records key) :=
  (Session.carryOut_host
    (P := fun after => before.Moves o (after.records key))
    hRefused hRest hPlan).1

/- Giving up concludes an attempt that is not done flushing. -/
theorem concludes_abort
    {error : UpgradeError}
    {c : ChannelEnd}
    {p : Plan (EventReport ErrorReceipt)}
    (hChannel : h.channels[key]? = some c)
    (hState : c.state = .open ∨ c.state = .flushing)
    (hSequence :
      c.upgradeSequence.previous ≤ error.sequence)
    (hPlan : abortPlan key (.step error) h = .ok p) :
    (h.records key).Concludes o
      ((h.applyAll p.writes).records key) := by
  rcases records_abortPlan hPlan with
    ⟨_, hUpgrade, e, rfl, hRecords⟩
  rw [hRecords]
  apply Records.Concludes.abort _ hUpgrade
  · rwa [records_channel hChannel]
  · rwa [records_channel hChannel]

/- Giving up is a move of an end that can give up. -/
theorem moves_giveUp
    {error : UpgradeError}
    {c : ChannelEnd}
    {events : List Event}
    (hRefused : s.refused = none)
    (hChannel : s.host.channels[key]? = some c)
    (hState : c.state = .open ∨ c.state = .flushing)
    (hSequence :
      c.upgradeSequence.previous ≤ error.sequence) :
    (s.host.records key).Moves o
      ((s.giveUp key error events).2.host.records key) := by
  rw [Session.snd_giveUp]
  apply moves_carryOut hRefused .rest
  intro p hMade
  exact .conclude
    (concludes_abort hChannel hState hSequence hMade)

end Host

end Interchain

------------------------------------------------------------
-- Proposing and Answering
------------------------------------------------------------

namespace Interchain

namespace Host

variable {h : Host} {peerKey : ChannelKey}
variable {proven : Records → Prop} {s : Session}

/- A step that is taken moves as its plan does. -/
theorem moves_take
    {α : Type}
    {key : ChannelKey}
    {o : Outlook}
    {checked : Except ChannelError (EventReport α)}
    {plan : α → Host → Except FatalError (Plan Event)}
    (hRefused : s.refused = none)
    (hMoves :
      ∀ report p, checked = .ok report →
        plan report.result s.host = .ok p →
        (s.host.records key).Moves o
          ((s.host.applyAll p.writes).records key)) :
    (s.host.records key).Moves o
      ((s.take checked plan).2.host.records key) := by
  cases checked with
  | error e => exact .rest
  | ok report =>
      rw [Session.take, Session.snd_conclude]
      exact moves_carryOut hRefused .rest fun p hMade =>
        hMoves report p rfl hMade

/- A proposal is a move. -/
theorem moves_init
    (o : Outlook)
    (m : InitMessage)
    (hRefused : s.refused = none) :
    (s.host.records m.key).Moves o
      ((s.take (s.host.processInit m)
        proposalPlan).2.host.records m.key) := by
  apply moves_take hRefused
  intro report p hOk hMade
  rcases processInit_eq_ok hOk with ⟨c, hChannel, hPropose⟩
  rcases propose_eq_ok hPropose with
    ⟨hState, hValid, hChange, hStep⟩
  have hRecords := (records_stepPlan hMade).2
  rw [hStep] at hRecords
  rw [hRecords, ← records_channel hChannel]
  rw [← records_channel hChannel] at hState hChange
  exact .proceed
    (.propose ⟨m.fields, m.timeout, .zero⟩ _ hState
      (le_refl _) hValid hChange)

/- What an answer builds on: the stored proposal, or one that
   is made for it. -/
theorem answered_eq_ok
    {m : TryMessage}
    {staged : Option UpgradeStep}
    {c : ChannelEnd}
    {u : Upgrade}
    (o : Outlook)
    (hStaged : h.stageAnswer m = .ok staged)
    (hOk : h.answered m.key staged = .ok (c, u)) :
    ∃ found last,
      h.channels[m.key]? = some found ∧
        c = { found with upgradeSequence := last } ∧
        (staged = none ∧ c = found ∧
            h.upgrades[m.key]? = some u ∨
          ∃ step,
            staged = some step ∧ step.key = m.key ∧
              step.channel = c ∧ step.upgrade = u ∧
              (h.records m.key).Proceeds o
                { h.records m.key with
                  channel := c, upgrade? := some u } ∧
              (c.upgradeSequence ≤ m.counterpartySequence →
                c.upgradeSequence =
                  m.counterpartySequence)) := by
  rcases stageAnswer_eq_ok hStaged with
    ⟨rfl, _⟩ | ⟨found, step, rfl, _, hChannel, hPropose⟩
  · simp [answered] at hOk
    rcases hOk with ⟨hChannel, hUpgrade⟩
    exact ⟨c, c.upgradeSequence, hChannel, rfl,
      Or.inl ⟨rfl, rfl, hUpgrade⟩⟩
  · rcases propose_eq_ok hPropose with
      ⟨hState, hValid, hChange, rfl⟩
    rcases caughtUp_eq found m.counterpartySequence with
      ⟨last, hLast, hCaught, hNext⟩
    simp only [answered, Except.ok.injEq,
      Prod.mk.injEq] at hOk
    rcases hOk with ⟨rfl, rfl⟩
    simp only [hCaught] at hState hChange ⊢
    refine ⟨found, last.next, hChannel, rfl, Or.inr ⟨_, rfl,
      rfl, rfl, rfl, ?_, hNext⟩⟩
    rw [← records_channel hChannel] at hState hChange hLast ⊢
    exact .propose ⟨m.fields, none, .zero⟩ last hState hLast
      hValid hChange

/- An answer that is accepted starts to flush, once it is at
   the attempt of the counterparty. -/
theorem Trusts.proceeds_answer
    {m : TryMessage}
    {staged : Option UpgradeStep}
    {report : EventReport UpgradeStep}
    {r : Records}
    {c found : ChannelEnd}
    {last : Sequence}
    {u : Upgrade}
    (hTrusts :
      h.Trusts (h.weighed (.attempt m)) peerKey proven)
    (hFound : h.channels[m.key]? = some found)
    (hCaught : c = { found with upgradeSequence := last })
    (hPeer : found.peer = peerKey.peer)
    (hOk : h.processTry m staged = .ok report)
    (hAnswered : h.answered m.key staged = .ok (c, u))
    (hSequence : c.upgradeSequence = m.counterpartySequence)
    (hChannel : r.channel = c)
    (hUpgrade : r.upgrade? = some u) :
    r.Proceeds (h.outlook m.key proven)
      { r with
        channel := report.result.channel
        upgrade? := some report.result.upgrade } := by
  rcases processTry_eq_ok hOk with
    ⟨c', u', flushing, upgrade, hAnswered', hState, hCompatible,
      hVerified, _, hFlushing, hResult⟩
  rw [hAnswered] at hAnswered'
  rcases Prod.mk.injEq .. ▸ Except.ok.inj hAnswered' with
    ⟨rfl, rfl⟩
  rcases startFlushing_eq_ok hFlushing with ⟨rfl, hFields⟩
  rcases
      Trusts.exists_mirrors hTrusts hFound hCaught hPeer
        hSequence hVerified with
    ⟨seen, answer, hProven, hSeen, hMirrors, hAnswer, hShown⟩
  rw [hResult, ← hChannel]
  rw [← hChannel] at hState hMirrors
  apply Records.Proceeds.flush u upgrade answer seen hState
    hUpgrade hProven hAnswer (Or.inl hSeen)
  · rwa [hSeen]
  · exact Or.inl hFields
  · rw [hFields, hShown]
    exact compatible_of_checkCompatible m.key proven
      hCompatible

end Host

end Interchain

------------------------------------------------------------
-- Try
------------------------------------------------------------

namespace Interchain

namespace Host

variable {h : Host} {peerKey : ChannelKey}
variable {proven : Records → Prop} {s : Session}

/- The end has the counterparty that its chain trusts in. -/
def Faces (h : Host) (key peerKey : ChannelKey) : Prop :=
  ∀ c, h.channels[key]? = some c → c.peer = peerKey.peer

/- An answer to a proposal that is trusted is a move. -/
theorem Trusts.moves_try_ok
    {m : TryMessage}
    {staged : Option UpgradeStep}
    {report : EventReport UpgradeStep}
    {p : Plan Event}
    (hTrusts :
      h.Trusts (h.weighed (.attempt m)) peerKey proven)
    (hFaces : h.Faces m.key peerKey)
    (hStaged : h.stageAnswer m = .ok staged)
    (hOk : h.processTry m staged = .ok report)
    (hPlan : answerPlan report.result h = .ok p) :
    (h.records m.key).Moves (h.outlook m.key proven)
      ((h.applyAll p.writes).records m.key) := by
  rcases processTry_eq_ok hOk with
    ⟨c, u, flushing, upgrade, hAnswered, _, _, _, hSequence, _,
      hResult⟩
  rcases
      answered_eq_ok (h.outlook m.key proven) hStaged hAnswered with
    ⟨found, last, hChannel, hCaught, hStage⟩
  have hPeer := hFaces found hChannel
  have hRecords := (records_stepPlan hPlan).2
  have hKey : report.result.key = m.key := by rw [hResult]
  rw [hKey] at hRecords
  rcases checkAnswered_eq_ok hSequence with ⟨hLe, hStored⟩
  rw [hRecords]
  rcases hStage with
    ⟨rfl, rfl, hUpgrade⟩ | ⟨step, rfl, _, _, _, hProposes,
      hNext⟩
  · exact .proceed
      (hTrusts.proceeds_answer hChannel hCaught hPeer hOk
        hAnswered (hStored rfl) (records_channel hChannel)
        hUpgrade)
  · have hAnswer :=
      hTrusts.proceeds_answer hChannel hCaught hPeer hOk
        hAnswered (hNext hLe)
        (r := { h.records m.key with
          channel := c, upgrade? := some u }) rfl rfl
    exact .proceedTwice hProposes hAnswer

/- A proposal that is only staged is stored before it is given
   up. -/
theorem moves_giveUpStaged
    {key : ChannelKey}
    {o : Outlook}
    {step : UpgradeStep}
    {error : UpgradeError}
    (hRefused : s.refused = none)
    (hKey : step.key = key)
    (hState : step.channel.state = .open)
    (hSequence :
      step.channel.upgradeSequence.previous ≤ error.sequence)
    (hProposes :
      (s.host.records key).Proceeds o
        { s.host.records key with
          channel := step.channel
          upgrade? := some step.upgrade }) :
    (s.host.records key).Moves o
      ((s.giveUpStaged key error
        (some step)).2.host.records key) := by
  unfold Session.giveUpStaged
  simp only
  rcases hMade : proposalPlan step s.host with e | p
  · rw [Session.carryOut_of_error id hMade]
    exact .rest
  · rcases Session.carryOut_of_ok id hRefused hMade with
      ⟨next, hNext, hHost, hFree⟩
    have hRecords := (records_stepPlan hMade).2
    rw [hKey, ← hHost] at hRecords
    rw [← hRecords] at hProposes
    have hStored :
        next.host.channels[key]? = some step.channel := by
      have hEnd :
          (next.host.records key).channel = step.channel := by
        rw [hRecords]
      rw [← hEnd] at hState ⊢
      exact channels_eq_of_state_ne (by rw [hState]; simp)
    simp only [hNext]
    rw [Session.snd_giveUp]
    apply moves_carryOut hFree (.proceed hProposes)
    intro q hGiven
    exact .proceedConclude hProposes
      (concludes_abort hStored (Or.inl hState) hSequence hGiven)

/- So is all that can come of the proposal. -/
theorem Trusts.moves_try
    {m : TryMessage}
    (hTrusts :
      s.host.Trusts (s.host.weighed (.attempt m)) peerKey
        proven)
    (hFaces : s.host.Faces m.key peerKey)
    (hRefused : s.refused = none) :
    (s.host.records m.key).Moves (s.host.outlook m.key proven)
      ((s.dispatchTry m).2.host.records m.key) := by
  unfold Session.dispatchTry
  split
  case h_1 => exact .rest
  case h_2 staged hStaged =>
    split
    case h_1 report hOk =>
      rw [Session.snd_conclude]
      exact moves_carryOut hRefused .rest fun p hMade =>
        hTrusts.moves_try_ok hFaces hStaged hOk hMade
    case h_2 => exact .rest
    case h_3 error hEnded =>
      rcases processTry_eq_ended hEnded with
        ⟨c, u, hAnswered, hState, hSequence⟩
      rcases
          answered_eq_ok (s.host.outlook m.key proven) hStaged
            hAnswered with
        ⟨found, _, hChannel, _, hStage⟩
      rcases hStage with
        ⟨rfl, rfl, _⟩ | ⟨step, rfl, hKey, rfl, rfl, hProposes,
          _⟩
      · exact moves_giveUp hRefused hChannel (Or.inl hState)
          hSequence
      · exact moves_giveUpStaged hRefused hKey hState hSequence
          hProposes

end Host

end Interchain

------------------------------------------------------------
-- Ack and Confirm
------------------------------------------------------------

namespace Interchain

namespace Host

variable {h : Host} {peerKey : ChannelKey}
variable {proven : Records → Prop} {s : Session}

/- An open end that is acknowledged starts to flush. -/
theorem Trusts.proceeds_ack
    {m : AckMessage}
    {c flushing : ChannelEnd}
    {stored upgrade : Upgrade}
    (hTrusts : h.Trusts (h.weighed (.ack m)) peerKey proven)
    (hPeer : c.peer = peerKey.peer)
    (hChannel : h.channels[m.key]? = some c)
    (hUpgrade : h.upgrades[m.key]? = some stored)
    (hState : c.state = .open)
    (hSequence : c.upgradeSequence = m.counterpartySequence)
    (hVerified :
      h.verifyCounterparty m.key c .flushing
        m.counterpartySequence m.counterpartyUpgrade
        m.channelProof m.upgradeProof m.proofHeight = .ok ())
    (hCompatible :
      h.checkCompatible
        (stored.settled c
          m.counterpartyUpgrade.fields.version).fields
        m.counterpartyUpgrade.fields = .ok ())
    (hFlushing :
      h.startFlushing m.key c
        (stored.settled c
          m.counterpartyUpgrade.fields.version) =
        .ok (flushing, upgrade)) :
    (h.records m.key).Proceeds (h.outlook m.key proven)
      { h.records m.key with
        channel := flushing, upgrade? := some upgrade } := by
  rcases startFlushing_eq_ok hFlushing with ⟨rfl, hFields⟩
  rcases
      Trusts.exists_mirrors (c := c) hTrusts hChannel rfl hPeer
        hSequence hVerified with
    ⟨seen, answer, hProven, hSeen, hMirrors, hAnswer, hShown⟩
  rw [← records_channel hChannel] at hState hMirrors
  have hSettled :
      upgrade.fields =
        { stored.fields with
          version := m.counterpartyUpgrade.fields.version } := by
    rw [hFields, Upgrade.settled,
      if_pos (records_channel hChannel ▸ hState)]
  rw [← records_channel hChannel]
  apply Records.Proceeds.flush stored upgrade answer seen
    hState hUpgrade hProven hAnswer (Or.inr hSeen)
  · rwa [hSeen]
  · exact Or.inr ⟨hSeen, by rw [hSettled, hShown]; rfl⟩
  · rw [hFields, hShown]
    exact compatible_of_checkCompatible m.key proven
      hCompatible

/- An acknowledgement of an answer that is trusted is a move. -/
theorem Trusts.moves_ack_ok
    {m : AckMessage}
    {report : EventReport AckStep}
    {p : Plan Event}
    (hTrusts : h.Trusts (h.weighed (.ack m)) peerKey proven)
    (hFaces : h.Faces m.key peerKey)
    (hOk : h.processAck m = .ok report)
    (hPlan : ackPlan report.result h = .ok p) :
    (h.records m.key).Moves (h.outlook m.key proven)
      ((h.applyAll p.writes).records m.key) := by
  rcases processAck_eq_ok hOk with
    ⟨c, stored, flushing, upgrade, hChannel, hState, hVerified,
      hUpgrade, hSequence, hCompatible, hFlushing, hResult⟩
  have hPeer := hFaces c hChannel
  have hRecords := (records_ackPlan hPlan).2
  rw [hResult] at hRecords
  simp only at hRecords
  have hEnd := records_channel hChannel
  rcases hState with hOpen | hFlush
  · rw [flushIfOpen, if_pos hOpen] at hFlushing
    have hStarts :=
      hTrusts.proceeds_ack hPeer hChannel hUpgrade hOpen
        hSequence hVerified hCompatible hFlushing
    have hFlag : flushing.state = .flushing := by
      rw [(startFlushing_eq_ok hFlushing).1]
    rcases hRecords with ⟨_, hAfter⟩ | ⟨hEmpty, hAfter⟩
    · rw [hAfter]
      exact .proceedTwice hStarts
        (.learn m.counterpartyUpgrade hFlag)
    · rw [hAfter]
      exact .proceedTwice hStarts (.drain hFlag hEmpty)
  · -- the end flushes already, and its records stay
    have hNotOpen : c.state ≠ .open := by
      rw [hFlush]
      simp
    rw [flushIfOpen, if_neg hNotOpen, Upgrade.settled,
      if_neg hNotOpen] at hFlushing
    rcases Prod.mk.injEq .. ▸ Except.ok.inj hFlushing with
      ⟨rfl, rfl⟩
    have hHeld : (h.records m.key).upgrade? = some stored :=
      hUpgrade
    rw [← hEnd, ← hHeld] at hRecords
    rw [← hEnd] at hFlush
    rcases hRecords with ⟨_, hAfter⟩ | ⟨hEmpty, hAfter⟩
    · rw [hAfter]
      exact .proceed (.learn m.counterpartyUpgrade hFlush)
    · rw [hAfter]
      exact .proceed (.drain hFlush hEmpty)

theorem Trusts.moves_ack
    {m : AckMessage}
    (hTrusts :
      s.host.Trusts (s.host.weighed (.ack m)) peerKey proven)
    (hFaces : s.host.Faces m.key peerKey)
    (hRefused : s.refused = none) :
    (s.host.records m.key).Moves (s.host.outlook m.key proven)
      ((s.dispatchAck m).2.host.records m.key) := by
  unfold Session.dispatchAck
  split
  case h_1 report hOk =>
    rw [Session.snd_conclude]
    exact moves_carryOut hRefused .rest fun p hMade =>
      hTrusts.moves_ack_ok hFaces hOk hMade
  case h_2 => exact .rest
  case h_3 error hEnded =>
    rcases processAck_eq_ended hEnded with
      ⟨c, hChannel, hState, hSequence⟩
    exact moves_giveUp hRefused hChannel hState
      (le_trans c.upgradeSequence.previous_le hSequence)

/- An end that has drained opens right after, when the
   counterparty is done flushing too. -/
theorem moves_openConfirmed
    {key : ChannelKey}
    {o : Outlook}
    {before seen : Records}
    {report : EventReport ConfirmStep}
    {event : Event}
    (hRefused : s.refused = none)
    (hDrains : before.Proceeds o (s.host.records key))
    (hState :
      (s.host.records key).channel.state = .flushComplete)
    (hProven : o.proven seen)
    (hMirrors :
      o.Mirrors (s.host.records key).channel .flushComplete
        seen.channel) :
    before.Moves o
      ((s.openConfirmed key report event).2.host.records
        key) := by
  rw [Session.snd_openConfirmed]
  apply moves_carryOut hRefused (.proceed hDrains)
  intro p hOpen
  rcases records_openPlan hOpen with ⟨_, held, hHeld, hOpened⟩
  rw [hOpened]
  exact .proceedConclude hDrains
    (.reopen held seen hState hHeld hProven (Or.inl hMirrors))

/- What comes of a confirmation that is trusted is a move. -/
theorem Trusts.moves_confirm
    {m : ConfirmMessage}
    (hTrusts :
      s.host.Trusts (s.host.weighed (.confirm m)) peerKey proven)
    (hFaces : s.host.Faces m.key peerKey)
    (hRefused : s.refused = none) :
    (s.host.records m.key).Moves (s.host.outlook m.key proven)
      ((s.dispatchConfirm m).2.host.records m.key) := by
  unfold Session.dispatchConfirm
  split
  case h_1 => exact .rest
  case h_2 error hEnded =>
    rcases processConfirm_eq_ended hEnded with
      ⟨c, hChannel, hState, hSequence⟩
    exact moves_giveUp hRefused hChannel (Or.inr hState)
      (le_trans c.upgradeSequence.previous_le hSequence)
  case h_3 report hOk =>
    rcases processConfirm_eq_ok hOk with
      ⟨c, u, hChannel, hState, hVerified, hUpgrade, hSequence,
        hResult⟩
    rcases hMade : confirmPlan report.result s.host with e | p
    · rw [Session.carryOut_of_error id hMade]
      exact .rest
    · rcases Session.carryOut_of_ok id hRefused hMade with
        ⟨next, hNext, hHost, hFree⟩
      have hNotDone :
          report.result.channel.state ≠ .flushComplete := by
        rw [hResult]
        simp [hState]
      have hRecords := (records_confirmPlan hMade hNotDone).2
      rw [hResult, ← hHost] at hRecords
      simp only at hRecords
      rw [← records_channel hChannel] at hState
      rw [hNext]
      rcases hRecords with
        ⟨_, hWaits, hAfter⟩ | ⟨hEmpty, hDone, hAfter⟩
      · rcases hOutcome : p.outcome with ⟨event, done⟩
        rw [hOutcome] at hWaits
        cases hWaits
        simp only
        rw [hAfter]
        exact .proceed (.learn m.counterpartyUpgrade hState)
      · have hDrains :
            (s.host.records m.key).Proceeds
              (s.host.outlook m.key proven)
              (next.host.records m.key) := by
          rw [hAfter, ← records_channel hChannel]
          exact .drain hState hEmpty
        rcases hOutcome : p.outcome with ⟨event, done⟩
        rw [hOutcome] at hDone
        cases done with
        | false => exact .proceed hDrains
        | true =>
            have hBoth :
                m.counterpartyState = .flushComplete := by
              simpa using hDone.symm
            rcases
                Trusts.exists_mirrors (c := c) hTrusts hChannel
                  rfl (hFaces c hChannel) hSequence hVerified with
              ⟨seen, _, hProven, _, hMirrors, _⟩
            change
              (s.host.outlook m.key proven).Mirrors c
                m.counterpartyState seen.channel at hMirrors
            rw [hBoth] at hMirrors
            apply moves_openConfirmed hFree hDrains _ hProven
            · rw [hAfter]
              exact hMirrors
            · rw [hAfter]

end Host

end Interchain

------------------------------------------------------------
-- Open, Cancel and Timeout
------------------------------------------------------------

namespace Interchain

namespace Host

variable {h : Host} {peerKey : ChannelKey}
variable {proven : Records → Prop} {s : Session}

/- What comes of opening is a move. -/
theorem Trusts.moves_open
    {m : OpenMessage}
    (hTrusts :
      s.host.Trusts (s.host.weighed (.reopen m)) peerKey proven)
    (hFaces : s.host.Faces m.key peerKey)
    (hRefused : s.refused = none) :
    (s.host.records m.key).Moves (s.host.outlook m.key proven)
      ((s.take (s.host.processOpen m) fun _ =>
        openPlan m.key).2.host.records m.key) := by
  apply moves_take hRefused
  intro report p hOk hMade
  rcases processOpen_eq_ok_iff.mp ⟨report, hOk⟩ with
    ⟨c, u, id, connection, expected, hChannel, hState, hUpgrade,
      hConnection, _, hExpected, hVerified⟩
  have hWeighed :=
    mem_weighed_reopen hChannel hState hUpgrade hConnection
      hExpected
  rcases
      hTrusts.channel (by simp [weighed]) hWeighed
        (hFaces c hChannel) hConnection hVerified with
    ⟨seen, hProven, hSeen⟩
  rcases openConnection_eq_ok.mp hConnection with
    ⟨hHop, hFound, hOpen⟩
  rcases records_openPlan hMade with ⟨_, held, hHeld, hOpened⟩
  have hSame : held = u :=
    Option.some.inj (hHeld.symm.trans hUpgrade)
  subst hSame
  rw [hOpened]
  rw [← records_channel hChannel] at hState hHop hExpected
  refine .conclude (.reopen held seen hState hHeld hProven ?_)
  rcases expectedBeforeOpen_eq_ok hExpected with
    ⟨hop, hPeer, rfl⟩ | ⟨other, found, hop, hOther, hFoundOther,
      hPeer, rfl⟩
  · have hHears : s.host.HearsOver id :=
      ⟨connection, hFound, hOpen,
        hears_of_verifyChannel hVerified⟩
    exact Or.inl ⟨id, hop, hHop, hHears,
      (across_eq_some hFound).trans hPeer, hSeen⟩
  · exact Or.inr ⟨other, hop, hOther,
      (across_eq_some hFoundOther).trans hPeer, hSeen⟩

/- What comes of cancelling is a move. -/
theorem Trusts.moves_cancel
    {m : CancelMessage}
    (hTrusts :
      s.host.Trusts (s.host.weighed (.cancel m)) peerKey proven)
    (hFaces : s.host.Faces m.key peerKey)
    (hRefused : s.refused = none) :
    (s.host.records m.key).Moves (s.host.outlook m.key proven)
      ((s.take (s.host.processCancel m)
        cancelPlan).2.host.records m.key) := by
  apply moves_take hRefused
  intro report p hOk hMade
  rcases processCancel_eq_ok_iff.mp ⟨report, hOk⟩ with
    ⟨c, u, hChannel, hUpgrade, hSequence, hShown⟩
  have hRecords := (records_cancelPlan hMade).2
  rw [result_processCancel hOk] at hRecords
  simp only at hRecords
  rw [hRecords]
  have hHeld : (s.host.records m.key).upgrade?.isSome := by
    simp [records, hUpgrade]
  have hPeer := hFaces c hChannel
  rw [← records_channel hChannel] at hSequence
  rcases hShown with ⟨_, hState⟩ | hVerified
  · rw [← records_channel hChannel] at hState
    exact .conclude
      (.overrule m.receipt hHeld hSequence hState)
  · rcases verifyCancel_eq_ok_iff.mp hVerified with
      ⟨id, connection, proof, hConnection, hProof, hReceipt⟩
    rcases
        hTrusts.receipt (mem_weighed_cancel hProof)
          (by simp [weighed]) hPeer hConnection hReceipt with
      ⟨seen, hProven, hSeen⟩
    exact .conclude
      (.cancel m.receipt seen hHeld hSequence hProven hSeen)

/- Running out of time is a move. -/
theorem moves_timeout
    (o : Outlook)
    {m : TimeoutMessage}
    (hRefused : s.refused = none) :
    (s.host.records m.key).Moves o
      ((s.take (s.host.processTimeout m)
        timeoutPlan).2.host.records m.key) := by
  apply moves_take hRefused
  intro report p hOk hMade
  rcases processTimeout_eq_ok hOk with
    ⟨c, u, hChannel, hState, hUpgrade, hKey⟩
  rcases (records_timeoutPlan hMade).2 with
    ⟨error, hError, hRecords⟩
  rw [hKey] at hError hRecords
  have hHeld : (s.host.records m.key).upgrade?.isSome := by
    simp [records, hUpgrade]
  have hMax :
      error.sequence =
        max (s.host.records m.key).channel.upgradeSequence
          error.sequence := by
    rw [hError, max_self]
  rw [hRecords, hMax]
  rw [← records_channel hChannel] at hState
  refine .conclude
    (.abort error hHeld (Or.inl hState) ?_)
  rw [hError]
  exact Sequence.previous_le _

end Host

end Interchain

------------------------------------------------------------
-- Messages
------------------------------------------------------------

namespace Interchain

namespace Host

variable {h : Host} {key peerKey : ChannelKey}
variable {proven : Records → Prop}

/- A property of the records of another channel is kept. -/
theorem keptAt_records
    {other : ChannelKey}
    (hKey : other ≠ key)
    (r : Records) :
    KeptAt other fun after => after.records key = r := by
  intro h writes hWrites hRecords
  rw [← hRecords]
  apply records_applyAll_of_ne
  intro w hw
  rw [hWrites w hw]
  exact hKey

/- Writes to a channel keep the setting of the chain. -/
theorem keptAt_hasSameSetting
    (other : ChannelKey)
    (before : Host) :
    KeptAt other fun after => after.HasSameSetting before := by
  intro h writes _ hSame
  exact hSame.trans (h.hasSameSetting_applyAll writes)

/- A chain answers as its session does. -/
theorem dispatch_eq (m : UpgradeMessage) :
    (h.dispatch m).2 =
      ((Session.start h).dispatch m).2.host := rfl

/- A message leaves the setting of the chain. -/
theorem hasSameSetting_dispatch
    (h : Host)
    (m : UpgradeMessage) :
    (h.dispatch m).2.HasSameSetting h :=
  Session.dispatch_keeps m (keptAt_hasSameSetting m.key h) rfl
    (HasSameSetting.refl h)

/- A message moves the records of a channel, where the chain
   trusts in what it weighs for it. -/
theorem Trusts.moves_dispatch
    {m : UpgradeMessage}
    (hTrusts : h.Trusts (h.weighed m) peerKey proven)
    (hFaces : h.Faces key peerKey) :
    (h.records key).Moves (h.outlook key proven)
      ((h.dispatch m).2.records key) := by
  by_cases hKey : m.key = key
  · subst hKey
    rw [dispatch_eq]
    unfold Session.dispatch
    split
    case h_1 => exact .rest
    case h_2 =>
      cases m with
      | init m => exact moves_init (s := .start h) _ m rfl
      | attempt m =>
          exact
            Trusts.moves_try (s := .start h) hTrusts hFaces rfl
      | ack m =>
          exact
            Trusts.moves_ack (s := .start h) hTrusts hFaces rfl
      | confirm m =>
          exact
            Trusts.moves_confirm (s := .start h) hTrusts hFaces rfl
      | reopen m =>
          exact
            Trusts.moves_open (s := .start h) hTrusts hFaces rfl
      | cancel m =>
          exact
            Trusts.moves_cancel (s := .start h) hTrusts hFaces rfl
      | timeout m => exact moves_timeout (s := .start h) _ rfl
  · have hSame :=
      Session.dispatch_keeps (s := .start h) m
        (keptAt_records hKey (h.records key)) rfl rfl
    rw [dispatch_eq, hSame]
    exact .rest

end Host

end Interchain

------------------------------------------------------------
-- Packets and Looks
------------------------------------------------------------

namespace Interchain

namespace Host

variable {key : ChannelKey} {o : Outlook} {s : Session}

/- A look at a channel finds it still flushing, done with it,
   or run out of time. -/
theorem refreshPlan_eq_ok
    {h : Host}
    {p : Plan (EventReport FlushStatus)}
    (hPlan : refreshPlan key h = .ok p) :
    p.writes = [] ∨
      (h.records key).Proceeds o
        ((h.applyAll p.writes).records key) ∨
      (h.records key).Concludes o
        ((h.applyAll p.writes).records key) := by
  rcases Session.refreshPlan_cases hPlan with
    rfl | ⟨c, _, hChannel, _, hState, hRest⟩
  · exact Or.inl rfl
  · rcases hRest with
      ⟨hFlight, rfl⟩ | ⟨error, q, hSequence, hMade, rfl⟩
    · right
      left
      rw [(h.records_completePlan key c).2,
        ← records_channel hChannel]
      rw [← records_channel hChannel] at hState
      exact .drain hState (hasInFlight_eq_false_iff.mp hFlight)
    · right
      right
      refine concludes_abort hChannel (Or.inr hState) ?_ hMade
      rw [hSequence]
      exact Sequence.previous_le _

/- A refresh is a move for every channel. -/
theorem moves_refresh
    (o : Outlook)
    (hRefused : s.refused = none)
    (other : ChannelKey) :
    (s.host.records key).Moves o
      ((s.refresh other).2.host.records key) := by
  by_cases hKey : other = key
  · subst hKey
    apply moves_carryOut hRefused .rest
    intro p hMade
    rcases refreshPlan_eq_ok (o := o) hMade with
      hIdle | hProceeds | hConcludes
    · rw [hIdle]
      exact .rest
    · exact .proceed hProceeds
    · exact .conclude hConcludes
  · have hSame :=
      Session.refresh_keeps other
        (keptAt_records hKey (s.host.records key)) hRefused rfl
    rw [hSame]
    exact .rest

theorem moves_resolvePacket
    (o : Outlook)
    (hRefused : s.refused = none)
    (packet : PacketKey) :
    (s.host.records key).Moves o
      ((s.resolvePacket packet).2.host.records key) := by
  by_cases hKey : packet.source = key
  · subst hKey
    rcases
        Session.write_of_refused_eq_none (.noCommitment packet)
          hRefused with
      ⟨next, hWrite, hHost, hFree⟩
    have hResolves :
        (s.host.records packet.source).Proceeds o
          (next.host.records packet.source) := by
      rw [hHost, records_apply_noCommitment]
      exact .resolve packet.sequence
    unfold Session.resolvePacket
    rw [hWrite]
    apply moves_carryOut hFree (.proceed hResolves)
    intro p hMade
    rcases refreshPlan_eq_ok (o := o) hMade with
      hIdle | hProceeds | hConcludes
    · rw [hIdle]
      exact .proceed hResolves
    · exact .proceedTwice hResolves hProceeds
    · exact .proceedConclude hResolves hConcludes
  · have hSame :=
      Session.resolvePacket_keeps packet
        (keptAt_records hKey (s.host.records key)) hRefused rfl
    rw [hSame]
    exact .rest

/- A packet is sent on an open channel, with the next
   sequence. -/
theorem moves_send
    (hash : Hash)
    (o : Outlook)
    (hRefused : s.refused = none)
    (packet : Packet) :
    (s.host.records key).Moves o
      ((s.send hash packet).2.host.records key) := by
  by_cases hKey : packet.source = key
  · subst hKey
    rcases send_cases hash packet hRefused with
      ⟨_, _, hSends⟩ | ⟨_, _, hSame⟩
    · rw [hSends.after]
      exact .send packet.sequence hSends.state hSends.next
    · rw [hSame]
      exact .rest
  · have hSame :=
      Session.send_keeps hash packet
        (keptAt_records hKey (s.host.records key)) hRefused rfl
    rw [hSame]
    exact .rest

end Host

end Interchain
