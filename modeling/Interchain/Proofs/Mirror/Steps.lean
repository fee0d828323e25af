import Interchain.Proofs.Link.Reopening
import Interchain.Proofs.Mirror.Passing
import Interchain.Proofs.Mirror.Retry

/-
  The steps that follow an answer.

  The end that proposed acknowledges the answer, the other one
  confirms that both flush, and each opens once it is done.  An
  end that learns of its counterparty empties: it waits for its
  packets, or it is done flushing.

  Main declarations:
    * `Mirror.Empties`
    * `Mirror.Finished`

  Main statements:
    * `Mirror.Joins.acknowledges`
    * `Mirror.Joins.confirms`
    * `Mirror.Joins.opens`
-/

------------------------------------------------------------
-- Ends Between Steps
------------------------------------------------------------

namespace Interchain

/- An end that drains goes on to drain. -/
theorem Records.Drains.rests
    {c : ChannelEnd}
    {u v : Upgrade}
    {r r' : Records}
    (hDrains : r.Drains c u v)
    (hRests : r.Rests r') :
    r'.Drains c u v := by
  cases hDrains with
  | waits hChannel hUpgrade hCounterparty hSent =>
      cases hRests with
      | same hSame hKept hKnown _ _ hStill =>
          exact .waits (hSame.trans hChannel)
            (hKept.trans hUpgrade) (hKnown.trans hCounterparty)
            (hStill (by rw [hChannel])
              (by rw [hCounterparty]; rfl) hSent)
      | drained _ _ hDone hKept _ =>
          exact .done (by rw [hDone, hChannel])
            (hKept.trans hUpgrade)
  | done hChannel hUpgrade =>
      cases hRests with
      | same hSame hKept _ _ _ _ =>
          exact .done (hSame.trans hChannel)
            (hKept.trans hUpgrade)
      | drained hState _ _ _ _ =>
          rw [hChannel] at hState
          simp at hState

/- An end that drains has its proposal. -/
theorem Records.Drains.upgrade
    {c : ChannelEnd}
    {u v : Upgrade}
    {r : Records}
    (hDrains : r.Drains c u v) :
    r.upgrade? = some u := by
  cases hDrains with
  | waits _ hUpgrade _ _ => exact hUpgrade
  | done _ hUpgrade => exact hUpgrade

namespace Mirror

/- The channel once a proposal is taken up. -/
def Proposal.upgraded (p : Proposal) (mirror : Mirror) :
    Mirror where
  key := mirror.key
  order := p.order
  version := p.version
  hop := p.hop
  connection := p.connection
  isSlashFree := mirror.isSlashFree
  isOpen := p.isOpen
  facesPeer := p.facesPeer

/- An end that knows no upgrade of the counterparty. -/
structure StandsAlone
    (mirror : Mirror)
    (side : Side)
    (c : Chains)
    (state : ChannelState)
    (n : Sequence)
    (u? : Option Upgrade) : Prop where
  stands : mirror.Stands side c state n u?
  unknown : (mirror.records side c).counterparty? = none
  sends : (mirror.records side c).next?.isSome

/- An end that is open, and holds nothing of an attempt. -/
structure Finished
    (mirror : Mirror)
    (side : Side)
    (c : Chains)
    (n : Sequence) : Prop where
  stands : mirror.Stands side c .open n none
  unknown : (mirror.records side c).counterparty? = none
  cleared : (mirror.records side c).receipt? = none

variable {mirror : Mirror} {side : Side} {c c' : Chains}
variable {state : ChannelState} {n : Sequence}
variable {u? : Option Upgrade}

/- An end that knows of no upgrade is the same at rest. -/
theorem StandsAlone.rests
    (hAlone : mirror.StandsAlone side c state n u?)
    (hRests :
      (mirror.records side c).Rests (mirror.records side c')) :
    mirror.StandsAlone side c' state n u? := by
  cases hRests with
  | same hChannel hUpgrade hCounterparty _ hSends _ =>
      exact
        ⟨⟨hChannel.trans hAlone.stands.channel,
            hUpgrade.trans hAlone.stands.upgrade⟩,
          hCounterparty.trans hAlone.unknown,
          hSends hAlone.sends⟩
  | drained _ hKnown _ _ _ =>
      rw [hAlone.unknown] at hKnown
      simp at hKnown

theorem Finished.rests
    (hFinished : mirror.Finished side c n)
    (hRests :
      (mirror.records side c).Rests (mirror.records side c')) :
    mirror.Finished side c' n := by
  cases hRests with
  | same hChannel hUpgrade hCounterparty hReceipt _ _ =>
      exact
        ⟨⟨hChannel.trans hFinished.stands.channel,
            hUpgrade.trans hFinished.stands.upgrade⟩,
          hCounterparty.trans hFinished.unknown,
          hReceipt.trans hFinished.cleared⟩
  | drained _ hKnown _ _ _ =>
      rw [hFinished.unknown] at hKnown
      simp at hKnown

end Mirror

end Interchain

------------------------------------------------------------
-- Steps of the Handshake
------------------------------------------------------------

namespace Interchain

namespace Mirror

/- An upgrade with the fields of a proposal, and a timeout that
   can elapse. -/
structure Proposal.IsAgreed
    (p : Proposal)
    (side : Side)
    (u : Upgrade) : Prop where
  fields : u.fields = p.fields side
  timeout :
    validateRequiredTimeout u.timeout = .ok ()

/- An end that knows the upgrade of the counterparty, and waits
   for its packets or is done flushing. -/
def Empties
    (mirror : Mirror)
    (side : Side)
    (c : Chains)
    (p : Proposal)
    (n : Sequence) : Prop :=
  ∃ u v, p.IsAgreed side u ∧
    (mirror.records side c).Drains
      (mirror.endAt side .flushing n) u v

variable {mirror : Mirror} {hash : Hash} {c : Chains}
variable {side : Side} {p : Proposal} {a b n : Sequence}
variable {timeout : Option UpgradeTimeout}

/- Such an end stands in one of two states. -/
theorem Empties.stands
    (hEmpties : mirror.Empties side c p n) :
    ∃ state u,
      (state = .flushing ∨ state = .flushComplete) ∧
        p.IsAgreed side u ∧
        mirror.Stands side c state n (some u) := by
  rcases hEmpties with ⟨u, v, hAgreed, hDrains⟩
  cases hDrains with
  | waits hChannel hUpgrade _ _ =>
      exact ⟨.flushing, u, Or.inl rfl, hAgreed,
        ⟨hChannel, hUpgrade⟩⟩
  | done hChannel hUpgrade =>
      exact ⟨.flushComplete, u, Or.inr rfl, hAgreed,
        ⟨hChannel, hUpgrade⟩⟩

/- Once its packets are resolved, it is done. -/
theorem Empties.done
    (hEmpties : mirror.Empties side c p n)
    (hEmpty : (mirror.records side c).inFlight = ∅) :
    ∃ u, p.IsAgreed side u ∧
      mirror.Stands side c .flushComplete n (some u) := by
  rcases hEmpties with ⟨u, v, hAgreed, hDrains⟩
  cases hDrains with
  | waits _ _ _ hSent => exact absurd hEmpty hSent
  | done hChannel hUpgrade =>
      exact ⟨u, hAgreed, ⟨hChannel, hUpgrade⟩⟩

/- An end that is done flushing and then finished has completed
   the attempt. -/
theorem Stands.completes
    {u : Upgrade}
    {c' : Chains}
    (hStands : mirror.Stands side c .flushComplete n (some u))
    (hAgreed : p.IsAgreed side u)
    (hFinished : (p.upgraded mirror).Finished side c' n) :
    Records.Completes n (mirror.records side c)
      (mirror.records side c') := by
  have hState :
      (mirror.records side c).channel.state =
        .flushComplete := by
    rw [hStands.channel]
    rfl
  refine ⟨⟨hStands.attempt, Or.inr hState⟩, u, hStands.upgrade,
    ?_, hFinished.stands.upgrade⟩
  rw [hStands.channel, hAgreed.fields]
  exact hFinished.stands.channel

/- The end that proposed is told of the answer, and starts to
   flush. -/
theorem Joins.acknowledges
    {v : Upgrade}
    {deadline : UpgradeTimeout}
    (hJoins : mirror.Joins hash c)
    (hOffered : p.IsOffered c)
    (hOwn :
      mirror.StandsAlone side c .open n
        (some (p.proposed side timeout)))
    (hPeer :
      mirror.Stands side.other c .flushing n (some v))
    (hAgreed : p.IsAgreed side.other v)
    (hDeadline :
      (c.host side).params.deadline (c.host side).height
        (c.host side).timestamp = .ok deadline)
    (hAhead :
      v.hasRunOut (c.host side).height
        (c.host side).timestamp = false)
    (signer : Signer) :
    Succeeds
        (mirror.answer hash side c
          (.ack (mirror.ackMessage hash side c signer v))) ∧
      ∃ sent,
        (mirror.records side
          (mirror.after hash side c
            (.ack
              (mirror.ackMessage hash side c signer v)))).Drains
          (mirror.endAt side .flushing n)
          ⟨p.fields side, some deadline, sent⟩ v := by
  rcases Option.isSome_iff_exists.mp hOwn.sends with
    ⟨next, hNext⟩
  have hVerified :=
    hJoins.verifies (hPeer.channels (by simp)) hPeer.upgrade
      .open n
  rw [← hPeer.attempt] at hVerified
  have hChannel :
      (mirror.informed hash side c).channels[mirror.key side]? =
        some (mirror.endAt side .open n) :=
    hOwn.stands.channels (by simp)
  have hUpgrade :
      (mirror.informed hash side c).upgrades[mirror.key side]? =
        some (p.proposed side timeout) :=
    hOwn.stands.upgrade
  have hVersion :
      (p.proposed side timeout).fields.version =
        v.fields.version := by
    rw [hAgreed.fields]
    rfl
  have hCompatible := hOffered.checkCompatible side
  rw [← (mirror.hasSameLinks_informed hash side
    c).checkCompatible_eq, ← hAgreed.fields] at hCompatible
  have hFlush :
      (mirror.informed hash side c).startFlushing
          (mirror.key side) (mirror.endAt side .open n)
          (p.proposed side timeout) =
        .ok (mirror.endAt side .flushing n,
          ⟨p.fields side, some deadline, next.previous⟩) :=
    Host.startFlushing_ok
      (hJoins.openConnection side .open n) hNext hDeadline
      (p.proposed side timeout)
  have hValid :
      (mirror.ackMessage hash side c signer v).validate =
        .ok () := by
    simp [AckMessage.validate, ackMessage, hAgreed.timeout,
      hAgreed.fields, p.validate_fields]
  rcases
      Host.processAck_ok
        (m := mirror.ackMessage hash side c signer v)
        hChannel rfl hVerified hUpgrade hPeer.attempt.symm
        hVersion hCompatible hFlush
        (Host.checkCounterpartyTimeout_eq_ok_iff.mpr hAhead) with
    ⟨report, hOk, hResult⟩
  have hDone :=
    Host.dispatch_ack_drains (c := mirror.endAt side .flushing n)
      hValid hOk hResult
  refine ⟨hDone.1, next.previous, ?_⟩
  rw [records_after_self]
  exact hDone.2

/- An end that opens takes the fields of the proposal, and drops
   the records of the attempt. -/
theorem Stands.finishes
    {state : ChannelState}
    {u : Upgrade}
    {after : Chains}
    (hStands : mirror.Stands side c state n (some u))
    (hAgreed : p.IsAgreed side u)
    (hRecords :
      mirror.records side after =
        (mirror.records side c).opened u) :
    (p.upgraded mirror).Finished side after n where
  stands := by
    constructor
    · change (mirror.records side after).channel = _
      rw [hRecords, Records.opened, hStands.channel,
        hAgreed.fields]
      rfl
    · change (mirror.records side after).upgrade? = _
      rw [hRecords, Records.opened]
  unknown := by
    change (mirror.records side after).counterparty? = _
    rw [hRecords, Records.opened]
  cleared := by
    change (mirror.records side after).receipt? = _
    rw [hRecords, Records.opened]

/- The end that answered is told that the other one flushes too,
   and opens right away if both are done. -/
theorem Joins.confirms
    {u v : Upgrade}
    {state : ChannelState}
    (hJoins : mirror.Joins hash c)
    (hOwn : mirror.StandsAlone side c .flushing n (some u))
    (hAgreed : p.IsAgreed side u)
    (hPeer : mirror.Stands side.other c state n (some v))
    (hState : state = .flushing ∨ state = .flushComplete)
    (hPeerAgreed : p.IsAgreed side.other v)
    (hAhead :
      v.hasRunOut (c.host side).height
        (c.host side).timestamp = false)
    (signer : Signer) :
    Succeeds
        (mirror.answer hash side c
          (.confirm
            (mirror.confirmMessage hash side c signer v))) ∧
      ((mirror.records side
          (mirror.after hash side c
            (.confirm
              (mirror.confirmMessage hash side c signer
                v)))).Drains
            (mirror.endAt side .flushing n) u v ∨
        (p.upgraded mirror).Finished side
          (mirror.after hash side c
            (.confirm
              (mirror.confirmMessage hash side c signer v)))
          n) := by
  have hPeerState : state ≠ .uninitialized := by
    rcases hState with rfl | rfl <;> simp
  have hVerified :=
    hJoins.verifies (hPeer.channels hPeerState) hPeer.upgrade
      .flushing n
  have hShown :
      (mirror.confirmMessage hash side c signer
        v).counterpartyState = state := by
    rw [confirmMessage, hPeer.channel]
    rfl
  have hAttempt :
      (mirror.confirmMessage hash side c signer
        v).counterpartySequence = n :=
    hPeer.attempt
  have hUpgrading : state.isUpgrading = true := by
    rcases hState with rfl | rfl <;> rfl
  have hConfirms :
      (mirror.informed hash side c).Confirms
        (mirror.confirmMessage hash side c signer v)
        (mirror.endAt side .flushing n) u :=
    { valid := by
        simp [ConfirmMessage.validate, hShown, hUpgrading]
        simp [confirmMessage, hPeerAgreed.timeout,
          hPeerAgreed.fields, p.validate_fields]
      channel := hOwn.stands.channels (by simp)
      state := rfl
      verified := by
        rw [hShown, hAttempt]
        exact hVerified
      upgrade := hOwn.stands.upgrade
      sequence := hAttempt.symm
      ahead := hAhead }
  have hDone := Host.dispatch_confirm_of_ok hConfirms
  refine ⟨hDone.1, ?_⟩
  rcases hDone.2 with hDrains | ⟨_, hOpened⟩
  · left
    rw [records_after_self]
    exact hDrains
  · right
    refine hOwn.stands.finishes hAgreed ?_
    rw [records_after_self]
    exact hOpened

/- What an end that is done flushing expects of the other one,
   and how the other one is. -/
theorem Proposal.IsOffered.expects
    {u : Upgrade}
    (hOffered : p.IsOffered c)
    (hAgreed : p.IsAgreed side u)
    (hPeer :
      (∃ v, mirror.Stands side.other c .flushComplete n v) ∨
        (p.upgraded mirror).Finished side.other c n)
    (signer : Signer) :
    (mirror.openMessage hash side c signer).validate = .ok () ∧
      (mirror.records side.other c).attempt = n ∧
      ∃ expected,
        (mirror.informed hash side c).expectedBeforeOpen
            (mirror.openMessage hash side c signer)
            (mirror.endAt side .flushComplete n) u
            (mirror.hop side) (mirror.connection side) =
          .ok expected ∧
        (c.host side.other).channels[mirror.key side.other]? =
          some expected := by
  rcases hPeer with ⟨v, hPeer⟩ | hPeer
  · have hShown :
        (mirror.openMessage hash side c signer).counterpartyState =
          .flushComplete := by
      rw [openMessage, hPeer.channel]
      rfl
    refine ⟨by rw [OpenMessage.validate, hShown],
      hPeer.attempt, _, ?_, hPeer.channels (by simp)⟩
    have hFaces := mirror.facesPeer side
    simp [Host.expectedBeforeOpen, hShown, hFaces]
    simp [ChannelEnd.mirrored, endAt, openMessage]
  · have hShown :
        (mirror.openMessage hash side c signer).counterpartyState =
          .open :=
      congrArg ChannelEnd.state hPeer.stands.channel
    refine ⟨by rw [OpenMessage.validate, hShown],
      hPeer.stands.attempt, _, ?_,
      hPeer.stands.channels (by simp)⟩
    have hAcross :
        (mirror.informed hash side c).across (p.hop side) =
          some (p.hop side.other) := by
      rw [Host.across_eq_some
        (h := mirror.informed hash side c) (hOffered side)]
      exact p.facesPeer side
    have hHop : u.fields.hop? = some (p.hop side) := by
      rw [hAgreed.fields]
      rfl
    rw [Host.expectedBeforeOpen, hShown]
    simp only
    rw [Host.expectedOpen_eq_ok hHop hAcross, hAgreed.fields]
    simp [ChannelEnd.mirrored, ChannelEnd.applyFields, endAt,
      openMessage, Proposal.upgraded, Proposal.fields]

/- An end that is done flushing opens when the other one is done
   or open already. -/
theorem Joins.opens
    {u : Upgrade}
    (hJoins : mirror.Joins hash c)
    (hOffered : p.IsOffered c)
    (hOwn :
      mirror.Stands side c .flushComplete n (some u))
    (hAgreed : p.IsAgreed side u)
    (hPeer :
      (∃ v, mirror.Stands side.other c .flushComplete n v) ∨
        (p.upgraded mirror).Finished side.other c n)
    (signer : Signer) :
    Succeeds
        (mirror.answer hash side c
          (.reopen (mirror.openMessage hash side c signer))) ∧
      (p.upgraded mirror).Finished side
        (mirror.after hash side c
          (.reopen (mirror.openMessage hash side c signer)))
        n := by
  rcases hOffered.expects hAgreed hPeer signer with
    ⟨hValid, hAttempt, expected, hExpected, hFound⟩
  have hOpen :
      ∃ report,
        (mirror.informed hash side c).processOpen
          (mirror.openMessage hash side c signer) =
          .ok report :=
    Host.processOpen_eq_ok_iff.mpr
      ⟨_, u, _, _, expected, hOwn.channels (by simp), rfl,
        hOwn.upgrade, hJoins.openConnection side _ n, hAttempt,
        hExpected, hJoins.verifiesChannel hFound _ n⟩
  rcases hOpen with ⟨report, hOk⟩
  have hDone := Host.dispatch_reopen_succeeds hValid hOk
  refine ⟨hDone.1, ?_⟩
  rcases hDone.2 with ⟨held, hHeld, hRecords⟩
  have hSame : held = u := by
    have hUpgrade :
        (mirror.informed hash side c).upgrades[
          mirror.key side]? = some u :=
      hOwn.upgrade
    exact Option.some.inj (hHeld.symm.trans hUpgrade)
  rw [hSame] at hRecords
  refine hOwn.finishes hAgreed ?_
  rw [records_after_self]
  exact hRecords

end Mirror

end Interchain
