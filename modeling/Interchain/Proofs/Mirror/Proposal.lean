import Interchain.Proofs.Handshake.Flushing
import Interchain.Proofs.Handshake.GivingUp
import Interchain.Proofs.Mirror.Ends

/-
  Proposals that both ends can take up.

  A proposal names a packet order, a version and a pair of open
  connections that lead to each other.  An answer to it passes
  every check but one: whether it is taken depends on the
  attempts that both ends are at.

  Main declarations:
    * `Mirror.Proposal`
    * `Mirror.Meets`

  Main statements:
    * `Mirror.Meets.takes`
    * `Mirror.Meets.is_stale`
-/

------------------------------------------------------------
-- Proposals
------------------------------------------------------------

namespace Interchain

namespace Mirror

/-
  New fields for both ends of a channel.  The connections are
  open, support the order and lead to each other.
-/
structure Proposal where
  order : ChannelOrder
  version : ChannelVersion
  hop : Side → ConnectionId
  connection : Side → ConnectionEnd
  isDefinite : order ≠ .uninitialized
  isNamed : version.isBlank = false
  isOpen : ∀ side, (connection side).isOpen = true
  facesPeer :
    ∀ side,
      (connection side).peer.connection =
        some (hop side.other)
  isSupported :
    ∀ side, ∃ v,
      (connection side).versions = [v] ∧
        v.supports order.name = true

namespace Proposal

variable (p : Proposal) (side : Side)

/- The fields that one end proposes. -/
def fields : UpgradeFields :=
  ⟨p.order, [p.hop side], p.version⟩

/- The upgrade of an end that has not started to flush. -/
def proposed (timeout : Option UpgradeTimeout) : Upgrade :=
  ⟨p.fields side, timeout, .zero⟩

/- Both chains have the connections that are proposed. -/
def IsOffered (c : Chains) : Prop :=
  ∀ side,
    (c.host side).connections[p.hop side]? =
      some (p.connection side)

variable {p} {side} {c : Chains} {h : Host}

theorem validate_fields (p : Proposal) (side : Side) :
    (p.fields side).validate = .ok () :=
  (UpgradeFields.validate_eq_ok_iff _).mpr
    ⟨p.isDefinite, rfl, p.isNamed⟩

/- Each chain supports them. -/
theorem IsOffered.checkSupport
    (hOffered : p.IsOffered c)
    (side : Side) :
    (c.host side).checkSupport (p.fields side) = .ok () := by
  rcases p.isSupported side with ⟨v, hVersions, hSupports⟩
  have hConnection :=
    Host.connectionEnd_eq_ok.mpr (hOffered side)
  simp [Host.checkSupport, UpgradeFields.hop?, fields,
    hConnection, p.isOpen side, hVersions, hSupports]

/- They are compatible with those of the other end. -/
theorem IsOffered.checkCompatible
    (hOffered : p.IsOffered c)
    (side : Side) :
    (c.host side).checkCompatible (p.fields side)
      (p.fields side.other) = .ok () := by
  have hConnection :=
    Host.connectionEnd_eq_ok.mpr (hOffered side)
  simp [Host.checkCompatible, Host.checkHops,
    UpgradeFields.hop?, fields, hConnection, p.isOpen side,
    p.facesPeer side]

/- A proposal can be taken up still, if the links are the same. -/
theorem IsOffered.replace
    (hOffered : p.IsOffered c)
    (hSame : h.HasSameLinks (c.host side)) :
    p.IsOffered (c.replace side h) := by
  intro other
  rcases Side.eq_or_eq_other other side with rfl | rfl
  · rw [Chains.host_replace_self, hSame.connections]
    exact hOffered other
  · rw [Chains.host_replace_other]
    exact hOffered side.other

/- So it can after any message. -/
theorem IsOffered.after
    {mirror : Mirror}
    {hash : Hash}
    (hOffered : p.IsOffered c)
    (side : Side)
    (m : UpgradeMessage) :
    p.IsOffered (mirror.after hash side c m) := by
  have hSame :=
    ((mirror.informed hash side c).hasSameSetting_dispatch
      m).links.1
  exact hOffered.replace
    ((mirror.hasSameLinks_informed hash side c).trans hSame)

/- A proposal that changes one end changes the other one, as
   connections lead back to where they come from. -/
theorem IsOffered.changes_other
    {mirror : Mirror}
    {hash : Hash}
    (hOffered : p.IsOffered c)
    (hJoins : mirror.Joins hash c)
    (hChange :
      (mirror.endAt side .open .zero).fields ≠ p.fields side) :
    (mirror.endAt side.other .open .zero).fields ≠
      p.fields side.other := by
  intro hSame
  apply hChange
  simp only [ChannelEnd.fields, endAt, fields,
    UpgradeFields.mk.injEq, List.cons.injEq, and_true]
    at hSame ⊢
  rcases hSame with ⟨hOrder, hHop, hVersion⟩
  have hConnection := hJoins.connection side.other
  rw [hHop, hOffered side.other, Option.some.injEq]
    at hConnection
  have hPeer := p.facesPeer side.other
  rw [hConnection, mirror.facesPeer side.other, Side.other_other,
    Option.some.injEq] at hPeer
  exact ⟨hOrder, hPeer, hVersion⟩

end Proposal

end Mirror

end Interchain

------------------------------------------------------------
-- Answers
------------------------------------------------------------

namespace Interchain

namespace Mirror

variable {mirror : Mirror} {hash : Hash} {c : Chains}
variable {side : Side} {p : Proposal} {b n : Sequence}
variable {timeout : Option UpgradeTimeout}

/- The message that answers a proposal. -/
def answering
    (mirror : Mirror)
    (hash : Hash)
    (side : Side)
    (c : Chains)
    (signer : Signer)
    (p : Proposal)
    (timeout : Option UpgradeTimeout) :
    TryMessage :=
  mirror.tryMessage hash side c signer (p.fields side).hops
    (p.proposed side.other timeout)

theorem validate_answering
    (signer : Signer)
    (hTimeout : validateOptionalTimeout timeout = .ok ()) :
    (mirror.answering hash side c signer p timeout).validate =
      .ok () := by
  simp [TryMessage.validate, answering, tryMessage,
    Proposal.proposed, p.validate_fields, hTimeout]
  rfl

/- The end on the other chain makes a proposal, and this end is
   open. -/
structure Meets
    (mirror : Mirror)
    (hash : Hash)
    (side : Side)
    (c : Chains)
    (p : Proposal)
    (timeout : Option UpgradeTimeout)
    (b n : Sequence)
    (own? : Option Upgrade) : Prop where
  joins : mirror.Joins hash c
  offered : p.IsOffered c
  change :
    (mirror.endAt side .open .zero).fields ≠ p.fields side
  isValid : validateOptionalTimeout timeout = .ok ()
  own : mirror.Stands side c .open b own?
  peer :
    mirror.Stands side.other c .open n
      (some (p.proposed side.other timeout))

/- An answer to a proposal, from an open end at any attempt,
   passes the checks of compatibility and the proofs. -/
theorem Meets.verifyProposal
    {own? : Option Upgrade}
    (hMeets : mirror.Meets hash side c p timeout b n own?)
    (signer : Signer)
    (k : Sequence)
    {u : Upgrade}
    (hFields : u.fields = p.fields side) :
    (mirror.informed hash side c).verifyProposal
      (mirror.answering hash side c signer p timeout)
      (mirror.endAt side .open k) u = .ok () := by
  have hCompatible := hMeets.offered.checkCompatible side
  rw [← hFields,
    ← (mirror.hasSameLinks_informed hash side
      c).checkCompatible_eq] at hCompatible
  refine Host.verifyProposal_ok rfl hCompatible ?_
  have hVerified :=
    hMeets.joins.verifies (hMeets.peer.channels (by simp))
      hMeets.peer.upgrade .open k
  rw [← hMeets.peer.attempt] at hVerified
  exact hVerified

/- An open end without a proposal stages one that answers. -/
theorem Meets.propose
    (hMeets : mirror.Meets hash side c p timeout b n none)
    (k : Sequence) :
    (mirror.informed hash side c).propose (mirror.key side)
        (mirror.endAt side .open k) (p.fields side) none =
      .ok ⟨mirror.key side, mirror.endAt side .open k.next,
        p.proposed side none⟩ := by
  have hSupported := hMeets.offered.checkSupport side
  rw [← (mirror.hasSameLinks_informed hash side
    c).checkSupport_eq] at hSupported
  exact Host.propose_ok (c := mirror.endAt side .open k) _ rfl
    (p.validate_fields side) hMeets.change hSupported none

/- An end can start to flush: it has a next sequence to send,
   and its chain can set a deadline. -/
structure CanFlush
    (mirror : Mirror)
    (side : Side)
    (c : Chains) : Prop where
  sends : ∃ next, (mirror.records side c).next? = some next
  setsDeadline :
    ∃ deadline,
      (c.host side).params.deadline (c.host side).height
        (c.host side).timestamp = .ok deadline

/- What does not touch the clock or the next sequence leaves both
   ends able to flush. -/
theorem CanFlush.replace
    {h : Host}
    (hCan : ∀ side, mirror.CanFlush side c)
    (hClock : h.HasSameClock (c.host side))
    (hNext :
      (h.records (mirror.key side)).next? =
        (mirror.records side c).next?)
    (other : Side) :
    mirror.CanFlush other (c.replace side h) := by
  rcases Side.eq_or_eq_other other side with rfl | rfl
  · rcases hCan other with ⟨hSends, hDeadline⟩
    constructor
    · rw [records, Chains.host_replace_self, hNext]
      exact hSends
    · rw [Chains.host_replace_self, hClock.params,
        hClock.height, hClock.timestamp]
      exact hDeadline
  · rcases hCan side.other with ⟨hSends, hDeadline⟩
    constructor
    · rw [records, Chains.host_replace_other]
      exact hSends
    · rw [Chains.host_replace_other]
      exact hDeadline

/- Ends that can flush can still do so after a message that
   sends nothing. -/
theorem CanFlush.after
    {m : UpgradeMessage}
    (hCan : ∀ side, mirror.CanFlush side c)
    (hNext :
      (mirror.records side
          (mirror.after hash side c m)).next? =
        (mirror.records side c).next?)
    (other : Side) :
    mirror.CanFlush other (mirror.after hash side c m) := by
  have hSame :=
    (mirror.informed hash side c).hasSameSetting_dispatch m
  rw [records_after_self] at hNext
  exact replace hCan
    ⟨hSame.height, hSame.timestamp, hSame.params⟩ hNext other

/- An answer to an attempt that is ahead is taken, and the end
   starts to flush. -/
theorem Meets.flushes
    {next : Sequence}
    {deadline : UpgradeTimeout}
    (hMeets : mirror.Meets hash side c p timeout b n none)
    (signer : Signer)
    (hAhead : b < n)
    (hNext : (mirror.records side c).next? = some next)
    (hDeadline :
      (c.host side).params.deadline (c.host side).height
        (c.host side).timestamp = .ok deadline) :
    Succeeds
        (mirror.answer hash side c
          (.attempt
            (mirror.answering hash side c signer p timeout))) ∧
      mirror.records side
          (mirror.after hash side c
            (.attempt
              (mirror.answering hash side c signer p
                timeout))) =
        { mirror.records side c with
          channel := mirror.endAt side .flushing n
          upgrade? :=
            some
              ⟨p.fields side, some deadline, next.previous⟩ } := by
  have hCaughtUp :
      (mirror.endAt side .open b).caughtUp n =
        mirror.endAt side .open n.previous := by
    simp [ChannelEnd.caughtUp, endAt, hAhead]
  have hAttempt :
      (mirror.answering hash side c signer p
        timeout).counterpartySequence = n :=
    hMeets.peer.attempt
  have hPropose := hMeets.propose n.previous
  rw [Sequence.next_previous hAhead, ← hCaughtUp, ← hAttempt]
    at hPropose
  have hFlush :
      (mirror.informed hash side c).startFlushing
          (mirror.key side) (mirror.endAt side .open n)
          (p.proposed side none) =
        .ok (mirror.endAt side .flushing n,
          ⟨p.fields side, some deadline, next.previous⟩) :=
    Host.startFlushing_ok
      (hMeets.joins.openConnection side .open n) hNext hDeadline
      (p.proposed side none)
  have hDone :=
    Host.dispatch_attempt_succeeds
      (h := mirror.informed hash side c)
      (validate_answering signer hMeets.isValid)
      hMeets.own.upgrade (hMeets.own.channels (by simp)) hPropose
      (hMeets.verifyProposal signer _ rfl) (le_refl _)
      (by rw [hAttempt]; exact hFlush)
  refine ⟨hDone.1, ?_⟩
  rw [records_after_self]
  exact hDone.2

/- So it is whenever the end can flush. -/
theorem Meets.takes
    (hMeets : mirror.Meets hash side c p timeout b n none)
    (signer : Signer)
    (hAhead : b < n)
    (hCan : mirror.CanFlush side c) :
    Succeeds
      (mirror.answer hash side c
        (.attempt
          (mirror.answering hash side c signer p timeout))) := by
  rcases hCan with ⟨⟨next, hNext⟩, ⟨deadline, hDeadline⟩⟩
  exact (hMeets.flushes signer hAhead hNext hDeadline).1

end Mirror

end Interchain

------------------------------------------------------------
-- Stale Answers
------------------------------------------------------------

namespace Interchain

/- The attempt that an open end answers at, if it is not
   behind: a new one, unless it has a proposal. -/
def answerAttempt (own? : Option Upgrade) (b : Sequence) : Sequence :=
  match own? with
  | none => b.next
  | some _ => b

namespace Mirror

variable {mirror : Mirror} {hash : Hash} {c : Chains}
variable {side : Side} {p : Proposal} {b n : Sequence}
variable {timeout : Option UpgradeTimeout}

/- An end with a proposal gives it up for one that lies
   behind. -/
theorem Meets.ends_stored
    {u : Upgrade}
    (hMeets :
      mirror.Meets hash side c p timeout b n (some u))
    (signer : Signer)
    (hFields : u.fields = p.fields side)
    (hBehind : n < b) :
    (mirror.informed hash side c).Ends
      (.attempt
        (mirror.answering hash side c signer p timeout))
      (staleError b n) [] (mirror.informed hash side c) := by
  have hUpgrade :
      (mirror.informed hash side c).upgrades[mirror.key side]? =
        some u :=
    hMeets.own.upgrade
  have hEnds :=
    Host.ends_of_behind
      (h := mirror.informed hash side c)
      (m := mirror.answering hash side c signer p timeout)
      (hMeets.own.channels (by simp)) hUpgrade
      (hMeets.verifyProposal signer b hFields)
      (hMeets.peer.attempt.trans_lt hBehind)
  have hSame :
      (mirror.answering hash side c signer p
        timeout).counterpartySequence = n :=
    hMeets.peer.attempt
  rw [hSame] at hEnds
  exact hEnds

/- An end without a proposal stages one to answer with. -/
theorem Meets.stages
    (hMeets : mirror.Meets hash side c p timeout b n none)
    (signer : Signer)
    (hBehind : n < b.next) :
    (mirror.informed hash side c).stageAnswer
        (mirror.answering hash side c signer p timeout) =
      .ok (some ⟨mirror.key side,
        mirror.endAt side .open b.next, p.proposed side none⟩) := by
  have hCaughtUp :
      (mirror.endAt side .open b).caughtUp n =
        mirror.endAt side .open b := by
    rw [ChannelEnd.caughtUp, if_neg]
    exact not_lt.mpr (Sequence.le_of_lt_next hBehind)
  have hPropose := hMeets.propose b
  rw [← hCaughtUp, ← hMeets.peer.attempt] at hPropose
  have hNone :
      (mirror.informed hash side c).upgrades[mirror.key side]? =
        none :=
    hMeets.own.upgrade
  have hChannel :
      (mirror.informed hash side c).channels[mirror.key side]? =
        some (mirror.endAt side .open b) :=
    hMeets.own.channels (by simp)
  simp only [Host.stageAnswer, bind_eq_ok, ite_eq_ok,
    pure_eq_ok, Host.channelEnd_eq_ok]
  exact Or.inr ⟨by simp [answering, tryMessage, hNone], _,
    hChannel, _, hPropose, rfl⟩

/- It gives that up for a proposal that lies behind. -/
theorem Meets.ends_staged
    (hMeets : mirror.Meets hash side c p timeout b n none)
    (signer : Signer)
    (hBehind : n < b.next) :
    ∃ events before,
      (mirror.informed hash side c).Ends
          (.attempt
            (mirror.answering hash side c signer p timeout))
          (staleError b.next n) events before ∧
        before.records (mirror.key side) =
          { mirror.records side c with
            channel := mirror.endAt side .open b.next
            upgrade? := some (p.proposed side none) } := by
  have hStaged := hMeets.stages signer hBehind
  have hStale :=
    checkAnswered_of_lt (c := mirror.endAt side .open b.next)
      true hBehind
  have hEnded :
      (mirror.informed hash side c).processTry
          (mirror.answering hash side c signer p timeout)
          (some ⟨mirror.key side,
            mirror.endAt side .open b.next,
            p.proposed side none⟩) =
        .error (.ended (staleError b.next n)) := by
    simp only [Host.processTry, bind_eq_error,
      endAttempt_eq_ended, refuse_eq_ok]
    refine Or.inr ⟨_, rfl, Or.inr ⟨(),
      hMeets.verifyProposal signer b.next rfl, Or.inl ?_⟩⟩
    rw [← hMeets.peer.attempt] at hStale ⊢
    exact hStale
  rcases
      Host.exists_stepPlan .upgradeInit
        ⟨mirror.key side, mirror.endAt side .open b.next,
          p.proposed side none⟩
        (h := mirror.informed hash side c)
        (hMeets.own.channels (by simp)) with
    ⟨q, hPlan⟩
  refine ⟨_, _, .staged hStaged hEnded hPlan, ?_⟩
  exact (Host.records_stepPlan hPlan).2

/- An answer to an attempt that lies behind gives up, and the
   receipt is for the attempt before. -/
theorem Meets.is_stale
    {own? : Option Upgrade}
    (hMeets : mirror.Meets hash side c p timeout b n own?)
    (signer : Signer)
    (hFields : ∀ u, own? = some u → u.fields = p.fields side)
    (hBehind : n < answerAttempt own? b) :
    IsStaleAnswer
        (mirror.answer hash side c
          (.attempt
            (mirror.answering hash side c signer p timeout)))
        (answerAttempt own? b) n ∧
      mirror.records side
          (mirror.after hash side c
            (.attempt
              (mirror.answering hash side c signer p
                timeout))) =
        (mirror.records side c).restored
          (answerAttempt own? b)
          (staleError (answerAttempt own? b) n).receipt := by
  have hValid :
      (UpgradeMessage.attempt
        (mirror.answering hash side c signer p
          timeout)).validate = .ok () :=
    validate_answering signer hMeets.isValid
  have hMax (q : Sequence) :
      max q (staleError q n).sequence = q :=
    max_eq_left (Sequence.previous_le q)
  cases own? with
  | some u =>
      have hEnds :=
        hMeets.ends_stored signer (hFields u rfl) hBehind
      have hDone := Host.dispatch_of_ends hValid hEnds
      refine ⟨hDone.1, ?_⟩
      rw [records_after_self]
      refine hDone.2.trans ?_
      change (mirror.records side c).givenUp (staleError b n) = _
      rw [Records.givenUp, hMeets.own.channel]
      exact congrArg
        (fun q => (mirror.records side c).restored q _) (hMax b)
  | none =>
      rcases hMeets.ends_staged signer hBehind with
        ⟨events, before, hEnds, hRecords⟩
      have hDone := Host.dispatch_of_ends hValid hEnds
      refine ⟨hDone.1, ?_⟩
      rw [records_after_self]
      refine hDone.2.trans ?_
      change (before.records (mirror.key side)).givenUp _ = _
      rw [hRecords, Records.givenUp]
      have hEnd :
          (mirror.endAt side .open b.next).restored
              (max b.next (staleError b.next n).sequence) =
            (mirror.records side c).channel.restored b.next := by
        rw [hMax, hMeets.own.channel]
        rfl
      simp only [Records.restored, answerAttempt]
      rw [← hEnd]
      rfl

end Mirror

end Interchain

------------------------------------------------------------
-- Sample Chains
------------------------------------------------------------

namespace Interchain

namespace Fixture

/- The channel of the sample chains. -/
def mirror : Mirror where
  key := key
  order := .unordered
  version := .ics20
  hop := hop
  connection := fun side => connection side (hop side.other)
  isSlashFree := (link id).isSlashFree
  isOpen := fun side => connection_isOpen side _
  facesPeer := by
    intro side
    cases side <;> rfl

/- Moving it to the second connections, with ordered packets. -/
def proposal : Mirror.Proposal where
  order := .ordered
  version := ⟨"ics20-2"⟩
  hop := upgradeHop
  connection := fun side =>
    connection side (upgradeHop side.other)
  isDefinite := by decide
  isNamed := by decide
  isOpen := fun side => connection_isOpen side _
  facesPeer := by
    intro side
    cases side <;> rfl
  isSupported := by
    intro side
    exact ⟨.standard, connection_versions side _, by decide⟩

/- The sample chains with other records of the channel. -/
def arranged (hash : Hash) (writes : Side → List Write) : Chains :=
  ⟨(host hash .left).applyAll (writes .left),
    (host hash .right).applyAll (writes .right)⟩

variable (hash : Hash) (writes : Side → List Write)

theorem host_arranged (side : Side) :
    (arranged hash writes).host side =
      (host hash side).applyAll (writes side) := by
  cases side <;> rfl

theorem hasSameSetting_arranged (side : Side) :
    ((arranged hash writes).host side).HasSameSetting
      (host hash side) := by
  rw [host_arranged]
  exact (host hash side).hasSameSetting_applyAll _

/- The chains are joined whatever is written. -/
theorem joins_arranged :
    mirror.Joins hash (arranged hash writes) where
  connection := by
    intro side
    rw [(hasSameSetting_arranged hash writes side).connections]
    exact connections_hop hash side
  storePrefix := by
    intro side
    rw [(hasSameSetting_arranged hash writes
      side.other).storePrefix]
    exact storePrefix_connection hash side _
  client := by
    intro side
    have hKind :
        (mirror.connection side).client.kind = .ok .mock := by
      cases side with
      | left =>
          change clientOnA.kind = _
          decide
      | right =>
          change clientOnB.kind = _
          decide
    have hClients := (link hash).clients side
    change (Chains.host (chains hash) side).clients = _
      at hClients
    rw [host_chains] at hClients
    refine ⟨.mock, hKind, ?_⟩
    rw [(hasSameSetting_arranged hash writes side).clients,
      hClients]
    simp [ClientRegistry.find, ClientRegistry.register,
      LightClient.ofStores]

/- They can move to the other connection. -/
theorem isOffered_arranged :
    proposal.IsOffered (arranged hash writes) := by
  intro side
  rw [(hasSameSetting_arranged hash writes side).connections,
    connections_host]
  exact if_pos rfl

/- Moving there is a change. -/
theorem changes_mirror (side : Side) :
    (mirror.endAt side .open .zero).fields ≠
      proposal.fields side :=
  upgradeFields_ne side

/- The records, with the writes made. -/
theorem records_arranged (side : Side) :
    mirror.records side (arranged hash writes) =
      ((host hash side).applyAll (writes side)).records
        (key side) := by
  rw [Mirror.records, host_arranged]
  rfl

/- What both chains hold for the channel before the writes. -/
theorem records_host (side : Side) :
    (host hash side).records (key side) =
      { channel := mirror.endAt side .open .zero
        upgrade? := none
        counterparty? := none
        receipt? := none
        inFlight := ∅
        next? := some ⟨1⟩ } := by
  have hStart := records_link hash side
  rw [Link.records, link, host_chains] at hStart
  exact hStart

/- Each chain can set the sample deadline. -/
theorem setsDeadline_arranged (side : Side) :
    ((arranged hash writes).host side).params.deadline
        ((arranged hash writes).host side).height
        ((arranged hash writes).host side).timestamp =
      .ok sampleDeadline := by
  have hSame := hasSameSetting_arranged hash writes side
  rw [hSame.params, hSame.height, hSame.timestamp]
  exact setsDeadline_host hash side

end Fixture

end Interchain
