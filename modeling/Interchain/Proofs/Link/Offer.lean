import Interchain.Fixture
import Interchain.Proofs.Link.Standing

/-
  Carrying an offer through.

  New fields that both ends can take up can be proposed,
  answered, acknowledged and confirmed, each message right
  after the chain was told how the other one is.  The end that
  confirms completes the attempt, and the other end is done
  flushing.

  Main declarations:
    * `Link.endAt`
    * `Link.Offer`
    * `Link.Offer.stage`
    * `Fixture.link`
    * `Fixture.offer`

  Main statements:
    * `Link.Offer.proposed`, `answered`, `acknowledged`, `opened`
    * `Link.Offer.confirmed`
    * `Fixture.further_attempt`
-/

------------------------------------------------------------
-- Offers
------------------------------------------------------------

namespace Interchain

namespace Link

variable {hash : Hash}

/- The end on one chain, in a state and at an attempt. -/
def endAt
    (link : Link hash)
    (side : Side)
    (state : ChannelState)
    (n : Sequence) :
    ChannelEnd where
  state := state
  order := link.order
  peer := (link.key side.other).peer
  hops := [link.hop side]
  version := link.version
  upgradeSequence := n

/-
  Fields for both ends that each chain supports and that are
  compatible.  Nothing is in flight, clients can check proofs,
  and the deadline that a chain sets is ahead on the other.
-/
structure Offer (link : Link hash) where
  fields : Side → UpgradeFields
  connection : Side → ConnectionEnd
  next : Side → Sequence
  deadline : Side → UpgradeTimeout
  isValid : ∀ side, (fields side).validate = .ok ()
  isChange :
    ∀ side,
      (⟨link.order, [link.hop side], link.version⟩ :
        UpgradeFields) ≠ fields side
  isSupported :
    ∀ side,
      (link.start.host side).checkSupport (fields side) = .ok ()
  isCompatible :
    ∀ side,
      (link.start.host side).checkCompatible (fields side)
        (fields side.other) = .ok ()
  isConnected :
    ∀ side,
      (link.start.host side).connections[link.hop side]? =
          some (connection side) ∧
        (connection side).isOpen = true
  hears :
    ∀ side, (link.start.host side).Hears (connection side)
  sends :
    ∀ side,
      (link.records side link.start).next? = some (next side)
  isIdle :
    ∀ side, (link.records side link.start).inFlight = ∅
  setsDeadline :
    ∀ side,
      (link.start.host side).params.deadline
          (link.start.host side).height
          (link.start.host side).timestamp =
        .ok (deadline side)
  isDeadline : ∀ side, (deadline side).validate = .ok ()
  isAhead :
    ∀ side,
      (deadline side.other).hasElapsed
          (link.start.host side).height
          (link.start.host side).timestamp =
        false

namespace Offer

variable {link : Link hash} (offer : link.Offer)

/- The records of the channel at a stage of the attempt. -/
def stage
    (_ : link.Offer)
    (side : Side)
    (state : ChannelState)
    (n : Sequence)
    (u? : Option Upgrade) :
    Records :=
  { link.records side link.start with
    channel := link.endAt side state n
    upgrade? := u? }

/- The upgrade of an end before it flushes. -/
def proposal (side : Side) : Upgrade :=
  ⟨offer.fields side, none, .zero⟩

/- The upgrade of an end once it flushes. -/
def flushing (side : Side) : Upgrade :=
  ⟨offer.fields side, some (offer.deadline side),
    (offer.next side).previous⟩

/- An end starts open, without a proposal. -/
theorem stage_start (side : Side) :
    link.records side link.start =
      offer.stage side .open (link.sequence side) none :=
  Records.ext (Host.records_channel (link.channel side))
    (link.upgrade side) rfl rfl rfl rfl

/- At the start, a run stands at open ends. -/
theorem standing_start
    (side : Side)
    (hLimit :
      ∀ side, (link.sequence side).number ≠ Word.greatest) :
    link.Standing link.start [] side
      (offer.stage side .open (link.sequence side) none)
      (offer.stage side.other .open (link.sequence side.other)
        none) where
  run := .start
  limit := by
    intro c hc other
    rw [List.mem_singleton.mp hc, offer.stage_start other]
    exact hLimit other
  own := offer.stage_start side
  peer := offer.stage_start side.other
  clock := fun _ => ⟨rfl, rfl, rfl⟩

/- The connection of an end leads to that of the other one. -/
theorem connection_peer (side : Side) :
    (offer.connection side).peer.connection =
      some (link.hop side.other) := by
  have hAcross := link.hopsFace side
  rwa [Host.across_eq_some (offer.isConnected side).1]
    at hAcross

end Offer

end Link

end Interchain

------------------------------------------------------------
-- Checks along the Way
------------------------------------------------------------

namespace Interchain

namespace Host

variable {h before : Host}

/- Chains with the same links find the same upgrades
   compatible. -/
theorem HasSameLinks.checkCompatible_eq
    (hSame : h.HasSameLinks before)
    (own counterparty : UpgradeFields) :
    h.checkCompatible own counterparty =
      before.checkCompatible own counterparty := by
  unfold checkCompatible checkHops connectionEnd
  rw [hSame.connections]

/- An end can flush if it counts packets, and its chain can set
   a deadline. -/
theorem startFlushing_ok
    {key : ChannelKey}
    {c : ChannelEnd}
    {id : ConnectionId}
    {connection : ConnectionEnd}
    {next : Sequence}
    {timeout : UpgradeTimeout}
    (hConnection : h.openConnection c = .ok (id, connection))
    (hNext : h.nextSequences[key]? = some next)
    (hTimeout :
      h.params.deadline h.height h.timestamp = .ok timeout)
    (u : Upgrade) :
    h.startFlushing key c u =
      .ok ({ c with state := .flushing },
        { u with
          latestSent := next.previous
          timeout := some timeout }) := by
  have hLatest : h.latestSent key c = .ok next.previous := by
    simp [latestSent, hConnection, hNext]
  simp [startFlushing, flushProgress, hLatest, hTimeout]

end Host

namespace Link

namespace Offer

variable {hash : Hash} {link : Link hash} {offer : link.Offer}
variable {now : Chains} {past : List Chains}
variable {side : Side} {state : ChannelState} {n : Sequence}
variable {u? : Option Upgrade} {peer : Records}

/- A chain that was just told how the other one is. -/
abbrev informed
    (offer : link.Offer)
    (side : Side)
    (now : Chains) :
    Host :=
  link.told side now (offer.connection side).client now

/- The connection of the channel is open. -/
theorem openConnection
    (hStands :
      link.Standing now past side
        (offer.stage side state n u?) peer)
    (other : ChannelState)
    (m : Sequence) :
    (now.host side).openConnection (link.endAt side other m) =
      .ok (link.hop side, offer.connection side) := by
  apply Host.openConnection_eq_ok.mpr
  rw [hStands.links.connections]
  exact ⟨rfl, offer.isConnected side⟩

theorem hears_now
    (hStands :
      link.Standing now past side
        (offer.stage side state n u?) peer) :
    (now.host side).Hears (offer.connection side) := by
  rcases offer.hears side with ⟨kind, client, hKind, hFind⟩
  exact ⟨kind, client, hKind, hStands.links.clients ▸ hFind⟩

/- The end is at its stage. -/
theorem at_stage
    (hStands :
      link.Standing now past side
        (offer.stage side state n u?) peer) :
    (link.records side now).channel.state = state ∧
      (link.records side now).attempt = n := by
  rw [hStands.own]
  exact ⟨rfl, rfl⟩

theorem isIdle_now
    (hStands :
      link.Standing now past side
        (offer.stage side state n u?) peer) :
    ((now.host side).records (link.key side)).inFlight = ∅ := by
  have hSame := congrArg Records.inFlight hStands.own
  exact hSame.trans (offer.isIdle side)

/- What the other chain holds can be proven to one that was
   just told. -/
theorem verifies
    {peerState : ChannelState}
    {k : Sequence}
    {v : Upgrade}
    (hStands :
      link.Standing now past side
        (offer.stage side state k u?)
        (offer.stage side.other peerState n (some v)))
    (hPeerState : peerState ≠ .uninitialized)
    (other : ChannelState)
    (m : Sequence) :
    (offer.informed side now).verifyCounterparty
        (link.key side) (link.endAt side other m) peerState n v
        ((now.host side.other).commitmentProof hash)
        ((now.host side.other).commitmentProof hash)
        (now.host side.other).height = .ok () := by
  have hConnection := openConnection hStands other m
  have hHears := hears_now hStands
  have hChannel :
      (now.host side.other).channels[link.key side.other]? =
        some ((link.endAt side other m).mirrored peerState
          (link.key side) (link.hop side.other) n) := by
    rw [hStands.flip.channel hPeerState]
    simp [stage, endAt, ChannelEnd.mirrored]
  have hUpgrade :
      (now.host side.other).upgrades[link.key side.other]? =
        some v :=
    congrArg Records.upgrade? hStands.peer
  exact Host.verifyCounterparty_eq_ok_iff.mpr
    ⟨_, _, _, hConnection, offer.connection_peer side,
      hStands.run.told_verifies hConnection hHears rfl hChannel,
      hStands.run.told_verifies_upgrade hConnection hHears rfl
        hUpgrade⟩

/- An end that was told can start to flush. -/
theorem startsFlushing
    (hStands :
      link.Standing now past side
        (offer.stage side state n u?) peer)
    (other : ChannelState)
    (m : Sequence) :
    (offer.informed side now).startFlushing
        (link.key side) (link.endAt side other m)
        (offer.proposal side) =
      .ok (link.endAt side .flushing m, offer.flushing side) := by
  have hNext :
      (now.host side).nextSequences[link.key side]? =
        some (offer.next side) := by
    have hSame := congrArg Records.next? hStands.own
    exact hSame.trans (offer.sends side)
  have hTimeout :
      (now.host side).params.deadline (now.host side).height
          (now.host side).timestamp =
        .ok (offer.deadline side) := by
    have hClock := hStands.clock side
    rw [hClock.params, hClock.height, hClock.timestamp]
    exact offer.setsDeadline side
  exact Host.startFlushing_ok (openConnection hStands other m)
    hNext hTimeout (offer.proposal side)

/- The timeout of the other end is ahead. -/
theorem isAhead_now
    (hStands :
      link.Standing now past side
        (offer.stage side state n u?) peer) :
    (offer.flushing side.other).hasRunOut
        (now.host side).height (now.host side).timestamp =
      false := by
  have hClock := hStands.clock side
  rw [hClock.height, hClock.timestamp]
  exact offer.isAhead side

end Offer

end Link

end Interchain

------------------------------------------------------------
-- Stages
------------------------------------------------------------

namespace Interchain

namespace Host

variable {h : Host}

/- A proposal is verified if the upgrades are compatible and
   its proofs hold. -/
theorem verifyProposal_ok
    {m : TryMessage}
    {c : ChannelEnd}
    {u : Upgrade}
    (hState : c.state = .open)
    (hCompatible :
      h.checkCompatible u.fields m.counterpartyFields = .ok ())
    (hVerified :
      h.verifyCounterparty m.key c .open m.counterpartySequence
        m.counterpartyUpgrade m.channelProof m.upgradeProof
        m.proofHeight = .ok ()) :
    h.verifyProposal m c u = .ok () := by
  rcases verifyCounterparty_eq_ok_iff.mp hVerified with
    ⟨id, connection, hop, hConnection, hHop, hChannel, hUpgrade⟩
  simp [verifyProposal, hState, hCompatible, hConnection, hHop,
    hChannel, hUpgrade]

end Host

namespace Link

namespace Offer

variable {hash : Hash} {link : Link hash} {offer : link.Offer}
variable {now : Chains} {past : List Chains}
variable {side : Side} {m n : Sequence} {peer : Records}

/- An end makes its proposal. -/
theorem proposed
    (hStands :
      link.Standing now past side
        (offer.stage side .open n none) peer)
    (hLimit : n.next.number ≠ Word.greatest) :
    ∃ next,
      link.Standing next (now :: past) side
        (offer.stage side .open n.next
          (some (offer.proposal side)))
        peer :=
  hStands.propose rfl (offer.isValid side) (offer.isChange side)
    (offer.isSupported side) hLimit

/- The message that answers the proposal of the other end. -/
def tryMessage
    (offer : link.Offer)
    (side : Side)
    (now : Chains)
    (n : Sequence) :
    TryMessage where
  key := link.key side
  hops := (offer.fields side).hops
  counterpartyFields := offer.fields side.other
  counterpartyTimeout := none
  counterpartySequence := n
  channelProof := (now.host side.other).commitmentProof hash
  upgradeProof := (now.host side.other).commitmentProof hash
  proofHeight := (now.host side.other).height
  signer := ⟨""⟩

/- The answer names the fields of the offer. -/
theorem fields_tryMessage :
    (offer.tryMessage side now n).fields =
      offer.fields side := by
  rcases Host.checkCompatible_eq_ok (offer.isCompatible side) with
    ⟨hOrder, hVersion, _⟩
  simp only [TryMessage.fields, tryMessage, ← hOrder,
    ← hVersion]

/- An answer is valid. -/
theorem validate_tryMessage :
    (offer.tryMessage side now n).validate = .ok () := by
  have hHops :=
    ((UpgradeFields.validate_eq_ok_iff _).mp
      (offer.isValid side)).2.1
  simp [TryMessage.validate, tryMessage, hHops,
    offer.isValid side.other, validateOptionalTimeout]

/- An open end that catches up proposes the fields offered. -/
theorem proposes
    (hStands :
      link.Standing now past side
        (offer.stage side .open m none) peer)
    (hBehind : m < n) :
    (offer.informed side now).propose (link.key side)
        ((link.endAt side .open m).caughtUp n)
        (offer.tryMessage side now n).fields none =
      .ok ⟨link.key side, link.endAt side .open n,
        offer.proposal side⟩ := by
  have hCaughtUp :
      (link.endAt side .open m).caughtUp n =
        link.endAt side .open n.previous := by
    simp [ChannelEnd.caughtUp, endAt, hBehind]
  have hSupported := offer.isSupported side
  rw [← hStands.links.checkSupport_eq] at hSupported
  have hProposed :=
    Host.propose_ok (h := offer.informed side now)
      (c := link.endAt side .open n.previous)
      (link.key side) rfl
      (offer.isValid side) (offer.isChange side) hSupported
      none
  rw [fields_tryMessage, hCaughtUp, hProposed]
  simp only [endAt, Sequence.next_previous hBehind, proposal]

/- The other end answers, at the attempt of the proposal. -/
theorem answered
    (hStands :
      link.Standing now past side
        (offer.stage side .open m none)
        (offer.stage side.other .open n
          (some (offer.proposal side.other))))
    (hBehind : m < n)
    (hLimit : n.number ≠ Word.greatest) :
    ∃ next before,
      link.Standing next (before :: now :: past) side
        (offer.stage side .flushing n
          (some (offer.flushing side)))
        (offer.stage side.other .open n
          (some (offer.proposal side.other))) := by
  have hChannel :=
    hStands.channel (by simp [stage, endAt])
  have hUpgrade :
      (now.host side).upgrades[link.key side]? = none :=
    congrArg Records.upgrade? hStands.own
  have hCompatible := offer.isCompatible side
  rw [← hStands.links.checkCompatible_eq] at hCompatible
  have hDone :=
    Host.dispatch_attempt_succeeds
      (h := offer.informed side now) validate_tryMessage hUpgrade
      hChannel (proposes hStands hBehind)
      (Host.verifyProposal_ok rfl hCompatible
        (verifies hStands (by simp) .open n))
      (le_refl n) (startsFlushing hStands .open n)
  have hRecords := hDone.2.trans
    (congrArg
      (fun r : Records =>
        { r with
          channel := link.endAt side .flushing n
          upgrade? := some (offer.flushing side) })
      hStands.own)
  rcases hStands.tell_dispatch _ _ hRecords hLimit with
    ⟨next, before, hNext, _⟩
  exact ⟨next, before, hNext⟩

/- The message that acknowledges the answer. -/
def ackMessage
    (offer : link.Offer)
    (side : Side)
    (now : Chains)
    (n : Sequence) :
    AckMessage where
  key := link.key side
  counterpartyUpgrade := offer.flushing side.other
  counterpartySequence := n
  channelProof := (now.host side.other).commitmentProof hash
  upgradeProof := (now.host side.other).commitmentProof hash
  proofHeight := (now.host side.other).height
  signer := ⟨""⟩

theorem validate_ackMessage :
    (offer.ackMessage side now n).validate = .ok () := by
  have hFields := offer.isValid side.other
  have hTimeout := offer.isDeadline side.other
  simp [AckMessage.validate, ackMessage, flushing, hFields,
    hTimeout, validateRequiredTimeout]

/- The end that proposed is done flushing once it hears. -/
theorem acknowledged
    (hStands :
      link.Standing now past side
        (offer.stage side .open n (some (offer.proposal side)))
        (offer.stage side.other .flushing n
          (some (offer.flushing side.other))))
    (hLimit : n.number ≠ Word.greatest) :
    ∃ next before,
      link.Standing next (before :: now :: past) side
        (offer.stage side .flushComplete n
          (some (offer.flushing side)))
        (offer.stage side.other .flushing n
          (some (offer.flushing side.other))) := by
  have hChannel :=
    hStands.channel (by simp [stage, endAt])
  have hUpgrade :
      (now.host side).upgrades[link.key side]? =
        some (offer.proposal side) :=
    congrArg Records.upgrade? hStands.own
  have hCompatible := offer.isCompatible side
  rcases Host.checkCompatible_eq_ok hCompatible with
    ⟨_, hVersion, _⟩
  rw [← hStands.links.checkCompatible_eq] at hCompatible
  rcases
      Host.processAck_ok
        (h := offer.informed side now)
        (m := offer.ackMessage side now n) hChannel rfl
        (verifies hStands (by simp) .open n) hUpgrade rfl
        hVersion hCompatible (startsFlushing hStands .open n)
        (Host.checkCounterpartyTimeout_eq_ok_iff.mpr
          (isAhead_now hStands)) with
    ⟨report, hOk, hResult⟩
  have hDone :=
    (Host.dispatch_ack_of_ok validate_ackMessage hOk
      hResult).2.resolve_left
        fun hSent => hSent.1 (isIdle_now hStands)
  have hRecords := hDone.2.trans
    (congrArg
      (fun r : Records =>
        { r with
          channel := link.endAt side .flushComplete n
          upgrade? := some (offer.flushing side) })
      hStands.own)
  rcases hStands.tell_dispatch _ _ hRecords hLimit with
    ⟨next, before, hNext, _⟩
  exact ⟨next, before, hNext⟩

/- The message that confirms that both ends flushed. -/
def confirmMessage
    (offer : link.Offer)
    (side : Side)
    (now : Chains)
    (n : Sequence) :
    ConfirmMessage where
  key := link.key side
  counterpartyState := .flushComplete
  counterpartyUpgrade := offer.flushing side.other
  counterpartySequence := n
  channelProof := (now.host side.other).commitmentProof hash
  upgradeProof := (now.host side.other).commitmentProof hash
  proofHeight := (now.host side.other).height
  signer := ⟨""⟩

theorem validate_confirmMessage :
    (offer.confirmMessage side now n).validate = .ok () := by
  have hFields := offer.isValid side.other
  have hTimeout := offer.isDeadline side.other
  simp [ConfirmMessage.validate, confirmMessage, flushing,
    ChannelState.isUpgrading, hFields, hTimeout,
    validateRequiredTimeout]

/- The end that answered completes the attempt. -/
theorem opened
    (hStands :
      link.Standing now past side
        (offer.stage side .flushing n
          (some (offer.flushing side)))
        (offer.stage side.other .flushComplete n
          (some (offer.flushing side.other))))
    (hLimit : n.number ≠ Word.greatest) :
    ∃ next before,
      link.Standing next (before :: now :: past) side
          ((offer.stage side .flushing n none).opened
            (offer.flushing side))
          (offer.stage side.other .flushComplete n
            (some (offer.flushing side.other))) ∧
        link.Standing before (now :: past) side
          (offer.stage side .flushing n
            (some (offer.flushing side)))
          (offer.stage side.other .flushComplete n
            (some (offer.flushing side.other))) := by
  have hChannel :=
    hStands.channel (by simp [stage, endAt])
  have hUpgrade :
      (now.host side).upgrades[link.key side]? =
        some (offer.flushing side) :=
    congrArg Records.upgrade? hStands.own
  have hConfirms :
      (offer.informed side now).Confirms
        (offer.confirmMessage side now n)
        (link.endAt side .flushing n) (offer.flushing side) :=
    { valid := validate_confirmMessage
      channel := hChannel
      state := rfl
      verified := verifies hStands (by simp) .flushing n
      upgrade := hUpgrade
      sequence := rfl
      ahead := isAhead_now hStands }
  have hDone :=
    Host.dispatch_confirm_opens hConfirms rfl
      (isIdle_now hStands)
  have hRecords := hDone.2.trans
    (congrArg
      (fun r : Records => r.opened (offer.flushing side))
      hStands.own)
  exact hStands.tell_dispatch _ _ hRecords hLimit

end Offer

end Link

end Interchain

------------------------------------------------------------
-- Whole Attempts
------------------------------------------------------------

namespace Interchain

namespace Link

namespace Offer

variable {hash : Hash} {link : Link hash}

/-
  An offer can be carried through from the start: the end that
  answers completes the attempt, and the end that proposed is
  done flushing for it.
-/
theorem confirmed
    (offer : link.Offer)
    (side : Side)
    (hBehind : link.sequence side.other ≤ link.sequence side)
    (hLimit :
      (link.sequence side).next.number ≠ Word.greatest) :
    ∃ now before past,
      link.Standing now (before :: past) side
          (offer.stage side .flushComplete
            (link.sequence side).next
            (some (offer.flushing side)))
          ((offer.stage side.other .flushing
            (link.sequence side).next none).opened
              (offer.flushing side.other)) ∧
        link.Standing before past side
          (offer.stage side .flushComplete
            (link.sequence side).next
            (some (offer.flushing side)))
          (offer.stage side.other .flushing
            (link.sequence side).next
            (some (offer.flushing side.other))) := by
  have hStart : (link.sequence side).number ≠ Word.greatest :=
    Sequence.number_ne_greatest_of_le
      (link.sequence side).le_next hLimit
  have hOther :
      (link.sequence side.other).number ≠ Word.greatest :=
    Sequence.number_ne_greatest_of_le hBehind hStart
  have hStands := offer.standing_start side (by
    intro other
    rcases Side.eq_or_eq_other other side with rfl | rfl
    · exact hStart
    · exact hOther)
  -- The steps are taken in turns, so sides are swapped after
  -- each of them.
  rcases proposed hStands hLimit with ⟨c₁, hProposed⟩
  have hToAnswer :
      link.Standing c₁ [link.start] side.other
        (offer.stage side.other .open
          (link.sequence side.other) none)
        (offer.stage side.other.other .open
          (link.sequence side).next
          (some (offer.proposal side.other.other))) := by
    rw [Side.other_other]
    exact hProposed.flip
  rcases
      answered hToAnswer
        (lt_of_le_of_lt hBehind (Sequence.lt_next hLimit)) hLimit with
    ⟨c₂, b₂, hAnswered⟩
  have hToAcknowledge := hAnswered.flip
  rw [Side.other_other] at hToAcknowledge
  rcases acknowledged hToAcknowledge hLimit with
    ⟨c₃, b₃, hAcknowledged⟩
  have hToConfirm :
      link.Standing c₃ (b₃ :: c₂ :: b₂ :: c₁ :: [link.start])
        side.other
        (offer.stage side.other .flushing
          (link.sequence side).next
          (some (offer.flushing side.other)))
        (offer.stage side.other.other .flushComplete
          (link.sequence side).next
          (some (offer.flushing side.other.other))) := by
    rw [Side.other_other]
    exact hAcknowledged.flip
  rcases opened hToConfirm hLimit with
    ⟨now, before, hOpened, hBefore⟩
  have hLast := hOpened.flip
  have hSecondLast := hBefore.flip
  rw [Side.other_other] at hLast hSecondLast
  exact ⟨now, before, _, hLast, hSecondLast⟩

/- Between the last two states, the end that answers completes
   the attempt. -/
theorem completes_opened
    {now before : Chains}
    {past : List Chains}
    {offer : link.Offer}
    {side : Side}
    {own own' : Records}
    {n : Sequence}
    (hNow :
      link.Standing now (before :: past) side own
        ((offer.stage side.other .flushing n none).opened
          (offer.flushing side.other)))
    (hBefore :
      link.Standing before past side own'
        (offer.stage side.other .flushing n
          (some (offer.flushing side.other)))) :
    Records.Completes n (link.records side.other before)
      (link.records side.other now) := by
  rw [hNow.peer, hBefore.peer]
  exact ⟨⟨rfl, Or.inl rfl⟩, offer.flushing side.other, rfl, rfl,
    rfl⟩

end Offer

end Link

end Interchain

------------------------------------------------------------
-- Sample Chains
------------------------------------------------------------

namespace Interchain

namespace Fixture

variable (hash : Hash)

/- The end of the channel on each chain. -/
def key : Side → ChannelKey
  | .left => ⟨.transfer, channelA⟩
  | .right => ⟨.transfer, channelB⟩

/- The connection that the channel runs over. -/
def hop : Side → ConnectionId
  | .left => connectionA
  | .right => connectionB

/- The connection that the channel is to move to. -/
def upgradeHop : Side → ConnectionId
  | .left => upgradeConnectionA
  | .right => upgradeConnectionB

/- What both connections of a chain share. -/
def connection (side : Side) (peer : ConnectionId) :
    ConnectionEnd :=
  match side with
  | .left => connectionEnd .open 0 (some peer) [.standard]
  | .right => connectionEnd .open 1 (some peer) [.standard]

/- The sample chains with the shared channel.  On B, an
   authority can cancel upgrades. -/
def host : Side → Host
  | .left =>
      (chainA hash).apply
        (.channel (key .left) (channelEndA .open .zero))
  | .right =>
      { (chainB hash).apply
          (.channel (key .right) (channelEndB .open .zero)) with
        params :=
          { Params.standard with authority := some signer } }

/- The two sample chains, once connected. -/
def chains : Chains := ⟨host hash .left, host hash .right⟩

theorem host_chains (side : Side) :
    (chains hash).host side = host hash side := by
  cases side <;> rfl

/- The connections of a sample chain. -/
theorem connections_host (side : Side) (id : ConnectionId) :
    (host hash side).connections[id]? =
      if upgradeHop side = id then
        some (connection side (upgradeHop side.other))
      else if hop side = id then
        some (connection side (hop side.other))
      else none := by
  cases side <;>
    simp [host, chainA, chainB, connected, Host.connect,
      Host.apply, standardChain, chain, Host.create, connection,
      upgradeHop, hop, Side.other,
      Std.ExtTreeMap.getElem?_insert] <;>
    congr

theorem height_host (side : Side) :
    (host hash side).height = ⟨0, 5⟩ := by
  cases side <;> rfl

theorem timestamp_host (side : Side) :
    (host hash side).timestamp =
      .ofNanoseconds 1700000000000000000 := by
  cases side <;> rfl

/- Who is in authority does not matter to deadlines. -/
theorem deadline_withAuthority
    (p : Params)
    (authority : Option Signer) :
    { p with authority := authority }.deadline = p.deadline :=
  rfl

theorem deadline_host (side : Side) :
    (host hash side).params.deadline =
      Params.standard.deadline := by
  cases side
  · rfl
  · exact deadline_withAuthority _ _

/- Where the connections of a sample chain lead. -/
theorem across_host (side : Side) (id : ConnectionId) :
    (host hash side).across id =
      if upgradeHop side = id then some (upgradeHop side.other)
      else if hop side = id then some (hop side.other)
      else none := by
  rw [Host.across, connections_host]
  split
  · cases side <;> rfl
  · split
    · cases side <;> rfl
    · rfl

/- The channel can move. -/
theorem upgradeHop_ne_hop (side : Side) :
    upgradeHop side ≠ hop side := by
  cases side <;> decide

/- The connection to move to leads to that of the other end. -/
theorem across_upgradeHop (side : Side) :
    (host hash side).across (upgradeHop side) =
      some (upgradeHop side.other) := by
  rw [across_host, if_pos rfl]

theorem across_hop (side : Side) :
    (host hash side).across (hop side) =
      some (hop side.other) := by
  rw [across_host, if_neg (upgradeHop_ne_hop side), if_pos rfl]

/- A connection knows the prefix of the other chain. -/
theorem storePrefix_connection (side : Side) (peer : ConnectionId) :
    (connection side peer).peer.storePrefix =
      (host hash side.other).storePrefix := by
  cases side <;> rfl

theorem connection_isOpen (side : Side) (peer : ConnectionId) :
    (connection side peer).isOpen = true := by
  cases side <;> rfl

/- The ends of a connection agreed on the standard version. -/
theorem connection_versions
    (side : Side)
    (peer : ConnectionId) :
    (connection side peer).versions = [.standard] := by
  cases side <;> rfl

theorem connectionEnd_upgradeHop (side : Side) :
    (host hash side).connectionEnd (upgradeHop side) =
      .ok (connection side (upgradeHop side.other)) := by
  rw [Host.connectionEnd_eq_ok, connections_host, if_pos rfl]

/- Connections lead back. -/
theorem leadsBack_host
    (side : Side)
    (id peer : ConnectionId)
    (hAcross : (host hash side).across id = some peer) :
    (host hash side.other).across peer = some id := by
  rw [across_host] at hAcross
  split at hAcross
  case isTrue hId =>
    rw [← Option.some.inj hAcross, ← hId, across_upgradeHop,
      Side.other_other]
  case isFalse =>
    split at hAcross
    case isTrue hId =>
      rw [← Option.some.inj hAcross, ← hId, across_hop,
        Side.other_other]
    case isFalse => simp at hAcross

/- Every connection knows the prefix of the other chain. -/
theorem storePrefix_host
    (side : Side)
    (id : ConnectionId)
    (found : ConnectionEnd)
    (hFound : (host hash side).connections[id]? = some found) :
    found.peer.storePrefix =
      (host hash side.other).storePrefix := by
  rw [connections_host] at hFound
  split at hFound
  case isTrue =>
    rw [← Option.some.inj hFound, storePrefix_connection]
  case isFalse =>
    split at hFound
    case isTrue =>
      rw [← Option.some.inj hFound, storePrefix_connection]
    case isFalse => simp at hFound

/- The sample chains, linked by their channel. -/
def link : Link hash where
  start := chains hash
  key := key
  order := .unordered
  version := .ics20
  hop := hop
  sequence := fun _ => .zero
  isSlashFree := by
    intro side
    cases side <;> decide
  clients := by
    intro side
    cases side <;> rfl
  remembered := by
    intro side k state hState
    cases side <;>
      simp [chains, Chains.host, host, chainA, chainB,
        connected, Host.connect, Host.apply, standardChain,
        chain, Host.create] at hState
  leadsBack := by
    intro side id peer hAcross
    rw [host_chains] at hAcross ⊢
    exact leadsBack_host hash side id peer hAcross
  storePrefix := by
    intro side id found hFound _
    rw [host_chains] at hFound ⊢
    exact storePrefix_host hash side id found hFound
  channel := by
    intro side
    cases side <;>
      simp [chains, Chains.host, host, Host.apply, Side.other]
        <;> rfl
  hopsFace := by
    intro side
    rw [host_chains, across_hop]
  upgrade := by
    intro side
    cases side <;>
      simp [chains, Chains.host, host, chainA, chainB,
        connected, Host.connect, Host.apply, standardChain,
        chain, Host.create]

/- At the start no packet was sent over the sample channel, and
   no upgrade was begun. -/
theorem records_link (side : Side) :
    (link hash).records side (link hash).start =
      { channel := (link hash).endAt side .open .zero
        upgrade? := none
        counterparty? := none
        receipt? := none
        inFlight := ∅
        next? := some ⟨1⟩ } := by
  apply Records.ext
  · exact Host.records_channel ((link hash).channel side)
  · exact (link hash).upgrade side
  all_goals
    cases side <;>
      simp [Link.records, Host.records, link, chains,
        Chains.host, host, chainA, chainB, connected,
        Host.connect, Host.apply, standardChain, chain,
        Host.create, key]

/- The second connection supports ordered channels. -/
theorem checkSupport_host
    (side : Side)
    (version : ChannelVersion) :
    (host hash side).checkSupport
        ⟨.ordered, [upgradeHop side], version⟩ = .ok () := by
  have hSupports :
      ConnectionVersion.standard.supports
        ChannelOrder.ordered.name = true := by
    decide
  simp [Host.checkSupport, UpgradeFields.hop?,
    connectionEnd_upgradeHop, connection_isOpen,
    connection_versions, hSupports]

/- The fields that the ends propose are compatible. -/
theorem checkCompatible_host (side : Side) :
    (host hash side).checkCompatible
        (upgradeFields (upgradeHop side))
        (upgradeFields (upgradeHop side.other)) = .ok () := by
  have hPeer :
      (connection side (upgradeHop side.other)).peer.connection =
        some (upgradeHop side.other) := by
    cases side <;> rfl
  simp only [Host.checkCompatible, Host.checkHops,
    upgradeFields, UpgradeFields.hop?, List.head?_cons,
    connectionEnd_upgradeHop, connection_isOpen, hPeer]
  rfl

/- They change the channel. -/
theorem upgradeFields_ne (side : Side) :
    (⟨.unordered, [hop side], .ics20⟩ : UpgradeFields) ≠
      upgradeFields (upgradeHop side) := by
  cases side <;> decide

theorem validate_upgradeFields (side : Side) :
    (upgradeFields (upgradeHop side)).validate = .ok () := by
  cases side <;> decide

theorem connections_hop (side : Side) :
    (host hash side).connections[hop side]? =
      some (connection side (hop side.other)) := by
  rw [connections_host, if_neg (upgradeHop_ne_hop side),
    if_pos rfl]

/- Each chain can be told of the other one. -/
theorem hears_host (side : Side) (peer : ConnectionId) :
    (host hash side).Hears (connection side peer) := by
  refine ⟨.mock, LightClient.ofStores hash, ?_, ?_⟩
  · cases side with
    | left =>
        change clientOnA.kind = _
        decide
    | right =>
        change clientOnB.kind = _
        decide
  · have hClients := (link hash).clients side
    change (Chains.host (chains hash) side).clients = _
      at hClients
    rw [host_chains] at hClients
    rw [hClients]
    simp [ClientRegistry.find, ClientRegistry.register,
      LightClient.ofStores]

/- The deadline that either chain sets at the start. -/
def sampleDeadline : UpgradeTimeout :=
  .atTimestamp (.ofNanoseconds 1700000600000000000)

theorem validate_sampleDeadline :
    sampleDeadline.validate = .ok () := by
  decide

/- Each chain can set it. -/
theorem setsDeadline_host (side : Side) :
    (host hash side).params.deadline (host hash side).height
        (host hash side).timestamp = .ok sampleDeadline := by
  rw [height_host, timestamp_host, deadline_host]
  decide +kernel

theorem hasElapsed_sampleDeadline (side : Side) :
    sampleDeadline.hasElapsed (host hash side).height
        (host hash side).timestamp = false := by
  rw [height_host, timestamp_host]
  decide +kernel

/- Both chains offer to move the channel to their second
   connection. -/
def offer : (link hash).Offer where
  fields := fun side => upgradeFields (upgradeHop side)
  connection := fun side => connection side (hop side.other)
  next := fun _ => ⟨1⟩
  deadline := fun _ => sampleDeadline
  isValid := validate_upgradeFields
  isChange := upgradeFields_ne
  isSupported := fun side =>
    host_chains hash side ▸
      checkSupport_host hash side ⟨"ics20-2"⟩
  isCompatible := fun side =>
    host_chains hash side ▸ checkCompatible_host hash side
  isConnected := fun side =>
    host_chains hash side ▸
      ⟨connections_hop hash side, connection_isOpen side _⟩
  hears := fun side =>
    host_chains hash side ▸ hears_host hash side _
  sends := fun side =>
    congrArg Records.next? (records_link hash side)
  isIdle := fun side =>
    congrArg Records.inFlight (records_link hash side)
  setsDeadline := fun side =>
    host_chains hash side ▸ setsDeadline_host hash side
  isDeadline := fun _ => validate_sampleDeadline
  isAhead := fun side =>
    host_chains hash side ▸
      hasElapsed_sampleDeadline hash side

/- What B proposes once it is open with the fields offered. -/
def furtherFields : UpgradeFields :=
  ⟨.ordered, [upgradeConnectionB], ⟨"ics20-3"⟩⟩

/- After the offer is carried through, B can begin a further
   attempt. -/
theorem further_attempt :
    ∃ now opened before past,
      (link hash).Standing now (opened :: before :: past) .left
          ((offer hash).stage .left .flushComplete
            Sequence.zero.next
            (some ((offer hash).flushing .left)))
          { ((offer hash).stage .right .open
                Sequence.zero.next none).opened
              ((offer hash).flushing .right) with
            channel :=
              { (((offer hash).stage .right .open
                    Sequence.zero.next none).opened
                  ((offer hash).flushing .right)).channel with
                upgradeSequence := Sequence.zero.next.next }
            upgrade? := some ⟨furtherFields, none, .zero⟩ } ∧
        Records.Completes Sequence.zero.next
          ((link hash).records .right before)
          ((link hash).records .right opened) := by
  have hFirst : Sequence.zero.next.number ≠ Word.greatest := by
    decide
  have hSecond :
      Sequence.zero.next.next.number ≠ Word.greatest := by
    decide
  rcases (offer hash).confirmed .left (le_refl _) hFirst with
    ⟨opened, before, past, hOpened, hBefore⟩
  have hSupported :
      ((link hash).start.host .right).checkSupport
        furtherFields = .ok () :=
    checkSupport_host hash .right ⟨"ics20-3"⟩
  have hChange :
      upgradeFields upgradeConnectionB ≠ furtherFields := by
    decide
  rcases
      hOpened.flip.propose rfl (by decide) hChange hSupported
        hSecond with
    ⟨now, hNow⟩
  exact ⟨now, opened, before, past, hNow.flip,
    Link.Offer.completes_opened hOpened hBefore⟩

end Fixture

end Interchain
