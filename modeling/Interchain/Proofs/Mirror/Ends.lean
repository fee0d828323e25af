import Interchain.Proofs.Handshake.Progress
import Interchain.Proofs.Link.Offer

/-
  One channel between two chains.

  Both chains have an open connection for their end of the
  channel, the connections lead to each other, and the clients
  behind them take stores for proofs.  Nothing is asked of what
  the clients remember: a relayer tells a chain how the other
  one is, and then delivers a message with what the other chain
  holds.

  Main declarations:
    * `Mirror`
    * `Mirror.Joins`
    * `Mirror.informed`
    * `Mirror.answer`, `Mirror.after`
    * `Mirror.Stands`

  Main statements:
    * `Mirror.Joins.verifies`
    * `Mirror.Joins.verifiesReceipt`
    * `Mirror.Joins.after`
    * `Mirror.Joins.cancels`
    * `Link.Run.after`
-/

------------------------------------------------------------
-- Ends
------------------------------------------------------------

namespace Interchain

namespace Chains

@[simp] theorem host_replace_of_other
    (c : Chains)
    (side : Side)
    (h : Host) :
    (c.replace side.other h).host side = c.host side := by
  cases side <;> rfl

end Chains

/-
  What the two ends of a channel have in common, and the
  connection that each of them runs over.
-/
structure Mirror where
  key : Side → ChannelKey
  order : ChannelOrder
  version : ChannelVersion
  hop : Side → ConnectionId
  connection : Side → ConnectionEnd
  isSlashFree : ∀ side, (key side).isSlashFree
  isOpen : ∀ side, (connection side).isOpen = true
  facesPeer :
    ∀ side,
      (connection side).peer.connection =
        some (hop side.other)

namespace Mirror

variable (mirror : Mirror)

/- The end on one chain, in a state and at an attempt. -/
def endAt
    (side : Side)
    (state : ChannelState)
    (n : Sequence) :
    ChannelEnd where
  state := state
  order := mirror.order
  peer := (mirror.key side.other).peer
  hops := [mirror.hop side]
  version := mirror.version
  upgradeSequence := n

/- The records of the channel on one of the chains. -/
def records (side : Side) (c : Chains) : Records :=
  (c.host side).records (mirror.key side)

/- Both chains have the connections of the channel, with a
   client that takes stores for proofs. -/
structure Joins (hash : Hash) (c : Chains) : Prop where
  connection :
    ∀ side,
      (c.host side).connections[mirror.hop side]? =
        some (mirror.connection side)
  storePrefix :
    ∀ side,
      (mirror.connection side).peer.storePrefix =
        (c.host side.other).storePrefix
  client :
    ∀ side, ∃ kind,
      (mirror.connection side).client.kind = .ok kind ∧
        (c.host side).clients.find kind =
          .ok (LightClient.ofStores hash)

variable {mirror} {hash : Hash} {c : Chains} {side : Side}

/- The links of the chains never change. -/
theorem Joins.replace
    (hJoins : mirror.Joins hash c)
    {h : Host}
    (hSame : h.HasSameLinks (c.host side)) :
    mirror.Joins hash (c.replace side h) where
  connection := by
    intro other
    rcases Side.eq_or_eq_other other side with rfl | rfl
    · rw [Chains.host_replace_self, hSame.connections]
      exact hJoins.connection other
    · rw [Chains.host_replace_other]
      exact hJoins.connection side.other
  storePrefix := by
    intro other
    rcases Side.eq_or_eq_other other side with rfl | rfl
    · rw [Chains.host_replace_other]
      exact hJoins.storePrefix other
    · have hPrefix := hJoins.storePrefix side.other
      rw [Side.other_other] at hPrefix
      rw [Side.other_other, Chains.host_replace_self,
        hSame.storePrefix, hPrefix]
  client := by
    intro other
    rcases Side.eq_or_eq_other other side with rfl | rfl
    · rw [Chains.host_replace_self, hSame.clients]
      exact hJoins.client other
    · rw [Chains.host_replace_other]
      exact hJoins.client side.other

theorem channels_eq
    (hState :
      (mirror.records side c).channel.state ≠
        .uninitialized) :
    (c.host side).channels[mirror.key side]? =
      some (mirror.records side c).channel :=
  Host.channels_eq_of_state_ne hState

end Mirror

end Interchain

------------------------------------------------------------
-- Telling and Asking
------------------------------------------------------------

namespace Interchain

namespace Mirror

variable (mirror : Mirror) (hash : Hash) (side : Side)
variable (c : Chains) (m : UpgradeMessage)

/- A chain that was told how the other one is. -/
def informed : Host :=
  (c.host side).updateClient hash
    (mirror.connection side).client (c.host side.other)

/- What a chain answers to a message right after that. -/
def answer :
    Except DispatchError (EventReport UpgradeOutcome) :=
  ((mirror.informed hash side c).dispatch m).1

/- Both chains once the message is handled. -/
def after : Chains :=
  c.replace side ((mirror.informed hash side c).dispatch m).2

/- Being told does not touch the records. -/
theorem records_informed (key : ChannelKey) :
    (mirror.informed hash side c).records key =
      (c.host side).records key := rfl

/- So an end is as it was once its chain is told. -/
theorem records_told :
    mirror.records side
        (c.replace side (mirror.informed hash side c)) =
      mirror.records side c := by
  rw [records, Chains.host_replace_self, records_informed, records]

theorem hasSameLinks_informed :
    (mirror.informed hash side c).HasSameLinks
      (c.host side) :=
  ⟨rfl, rfl, rfl⟩

/- A message is answered by a chain that was told. -/
theorem records_after_self :
    mirror.records side (mirror.after hash side c m) =
      ((mirror.informed hash side c).dispatch m).2.records
        (mirror.key side) := by
  rw [records, after, Chains.host_replace_self]

@[simp] theorem host_after_other :
    (mirror.after hash side c m).host side.other =
      c.host side.other := by
  rw [after, Chains.host_replace_other]

@[simp] theorem host_after_of_other :
    (mirror.after hash side.other c m).host side =
      c.host side := by
  rw [after, Chains.host_replace_of_other]

@[simp] theorem records_after_other :
    mirror.records side.other (mirror.after hash side c m) =
      mirror.records side.other c := by
  rw [records, host_after_other, records]

@[simp] theorem records_after_of_other :
    mirror.records side (mirror.after hash side.other c m) =
      mirror.records side c := by
  rw [records, host_after_of_other, records]

variable {mirror hash side c}

/- The ends are joined after any message. -/
theorem Joins.after
    (hJoins : mirror.Joins hash c)
    (side : Side)
    (m : UpgradeMessage) :
    mirror.Joins hash (mirror.after hash side c m) := by
  have hSame :=
    ((mirror.informed hash side c).hasSameSetting_dispatch
      m).links.1
  exact hJoins.replace
    ((mirror.hasSameLinks_informed hash side c).trans hSame)

end Mirror

namespace Link

variable {hash : Hash} {link : Link hash}
variable {now : Chains} {past : List Chains}

/- A run goes on with any message. -/
theorem Run.dispatch
    (hRun : link.Run Action.IsOrdinary (now :: past))
    (side : Side)
    (m : UpgradeMessage) :
    link.Run Action.IsOrdinary
      (now.replace side ((now.host side).dispatch m).2 ::
        now :: past) :=
  hRun.act side (.dispatch m) trivial

/- It goes on with a block. -/
theorem Run.advance
    (hRun : link.Run Action.IsOrdinary (now :: past))
    (side : Side) :
    link.Run Action.IsOrdinary
      (now.replace side (now.host side).advance ::
        now :: past) :=
  hRun.act side .advance trivial

/- A chain can be told how the other one is. -/
theorem Run.inform
    (hRun : link.Run Action.IsOrdinary (now :: past))
    (mirror : Mirror)
    (side : Side) :
    link.Run Action.IsOrdinary
      (now.replace side (mirror.informed hash side now) ::
        now :: past) :=
  hRun.learn side _ now List.mem_cons_self

/- So a message can come to a chain that was just told. -/
theorem Run.after
    (hRun : link.Run Action.IsOrdinary (now :: past))
    (mirror : Mirror)
    (side : Side)
    (m : UpgradeMessage) :
    link.Run Action.IsOrdinary
      (mirror.after hash side now m ::
        now.replace side (mirror.informed hash side now) ::
          now :: past) := by
  have hNext := (hRun.inform mirror side).dispatch side m
  rw [Chains.host_replace_self, Chains.replace_replace] at hNext
  exact hNext

end Link

end Interchain

------------------------------------------------------------
-- Proofs That Are Accepted
------------------------------------------------------------

namespace Interchain

namespace Mirror

variable {mirror : Mirror} {hash : Hash} {c : Chains}
variable {side : Side}

/- The connection of the channel is open. -/
theorem Joins.openConnection
    (hJoins : mirror.Joins hash c)
    (side : Side)
    (state : ChannelState)
    (n : Sequence) :
    (mirror.informed hash side c).openConnection
        (mirror.endAt side state n) =
      .ok (mirror.hop side, mirror.connection side) :=
  Host.openConnection_eq_ok.mpr
    ⟨rfl, hJoins.connection side, mirror.isOpen side⟩

/- A chain remembers what it was just told. -/
theorem Joins.remembers
    (hJoins : mirror.Joins hash c)
    (side : Side) :
    (mirror.informed hash side c).Remembers hash
      (mirror.connection side) (c.host side.other).height
      (c.host side.other) := by
  rcases hJoins.client side with ⟨kind, hKind, hFind⟩
  simp only [Host.Remembers, Host.counterpartyClient,
    bind_eq_ok, wrapError_eq_ok, Host.consensusState_eq_ok,
    pure_eq_ok]
  refine ⟨kind, hKind, _, hFind, _, ?_, rfl⟩
  simp [informed, Host.updateClient, Host.remember]

/- So what the other chain holds can be proven to it. -/
theorem Joins.verifiesChannel
    (hJoins : mirror.Joins hash c)
    {expected : ChannelEnd}
    (hExpected :
      (c.host side.other).channels[mirror.key side.other]? =
        some expected)
    (state : ChannelState)
    (n : Sequence) :
    (mirror.informed hash side c).verifyChannel
        (mirror.endAt side state n) (mirror.connection side)
        expected ((c.host side.other).commitmentProof hash)
        (c.host side.other).height = .ok () :=
  (hJoins.remembers side).verifyChannel_of_channel
    (hJoins.storePrefix side) (mirror.isSlashFree side.other) rfl
    hExpected

/- A receipt of the other end can be proven. -/
theorem Joins.verifiesReceipt
    (hJoins : mirror.Joins hash c)
    {receipt : ErrorReceipt}
    (hReceipt :
      (mirror.records side.other c).receipt? = some receipt)
    (state : ChannelState)
    (n : Sequence) :
    (mirror.informed hash side c).verifyReceipt
        (mirror.endAt side state n) (mirror.connection side)
        receipt ((c.host side.other).commitmentProof hash)
        (c.host side.other).height = .ok () :=
  (hJoins.remembers side).verifyReceipt_of_receipt
    (hJoins.storePrefix side) (mirror.isSlashFree side.other) rfl
    hReceipt

/- An end of the other chain, with an upgrade, is proven by the
   whole store of that chain. -/
theorem Joins.verifies
    (hJoins : mirror.Joins hash c)
    {peerState : ChannelState}
    {n : Sequence}
    {v : Upgrade}
    (hChannel :
      (c.host side.other).channels[mirror.key side.other]? =
        some (mirror.endAt side.other peerState n))
    (hUpgrade :
      (mirror.records side.other c).upgrade? = some v)
    (state : ChannelState)
    (k : Sequence) :
    (mirror.informed hash side c).verifyCounterparty
        (mirror.key side) (mirror.endAt side state k) peerState
        n v ((c.host side.other).commitmentProof hash)
        ((c.host side.other).commitmentProof hash)
        (c.host side.other).height = .ok () := by
  have hExpected :
      (c.host side.other).channels[mirror.key side.other]? =
        some ((mirror.endAt side state k).mirrored peerState
          (mirror.key side) (mirror.hop side.other) n) := by
    rw [hChannel]
    simp [endAt, ChannelEnd.mirrored]
  exact Host.verifyCounterparty_eq_ok_iff.mpr
    ⟨_, _, _, hJoins.openConnection side state k,
      mirror.facesPeer side,
      hJoins.verifiesChannel hExpected state k,
      (hJoins.remembers side).verifyUpgrade_of_upgrade
        (hJoins.storePrefix side)
        (mirror.isSlashFree side.other) rfl hUpgrade⟩

end Mirror

end Interchain

------------------------------------------------------------
-- Messages of a Relayer
------------------------------------------------------------

namespace Interchain

namespace Mirror

variable (mirror : Mirror) (hash : Hash) (side : Side)
variable (c : Chains) (signer : Signer)

/- The message that answers the upgrade of the other end, over
   connections of this chain. -/
def tryMessage
    (hops : List ConnectionId)
    (u : Upgrade) :
    TryMessage where
  key := mirror.key side
  hops := hops
  counterpartyFields := u.fields
  counterpartyTimeout := u.timeout
  counterpartySequence := (mirror.records side.other c).attempt
  channelProof := (c.host side.other).commitmentProof hash
  upgradeProof := (c.host side.other).commitmentProof hash
  proofHeight := (c.host side.other).height
  signer := signer

/- The message that acknowledges the answer of the other
   end. -/
def ackMessage (u : Upgrade) : AckMessage where
  key := mirror.key side
  counterpartyUpgrade := u
  counterpartySequence := (mirror.records side.other c).attempt
  channelProof := (c.host side.other).commitmentProof hash
  upgradeProof := (c.host side.other).commitmentProof hash
  proofHeight := (c.host side.other).height
  signer := signer

/- The message that confirms that the other end flushes. -/
def confirmMessage (u : Upgrade) : ConfirmMessage where
  key := mirror.key side
  counterpartyState :=
    (mirror.records side.other c).channel.state
  counterpartyUpgrade := u
  counterpartySequence := (mirror.records side.other c).attempt
  channelProof := (c.host side.other).commitmentProof hash
  upgradeProof := (c.host side.other).commitmentProof hash
  proofHeight := (c.host side.other).height
  signer := signer

/- The message that the other end is ready to open, or is open
   already. -/
def openMessage : OpenMessage where
  key := mirror.key side
  counterpartyState :=
    (mirror.records side.other c).channel.state
  counterpartySequence := (mirror.records side.other c).attempt
  channelProof := (c.host side.other).commitmentProof hash
  proofHeight := (c.host side.other).height
  signer := signer

/- The message that shows a receipt of the other end. -/
def cancelMessage (receipt : ErrorReceipt) : CancelMessage where
  key := mirror.key side
  receipt := receipt
  receiptProof :=
    some ((c.host side.other).commitmentProof hash)
  proofHeight := (c.host side.other).height
  signer := signer

end Mirror

end Interchain

------------------------------------------------------------
-- Standings
------------------------------------------------------------

namespace Interchain

namespace Mirror

/- An end is in a state and at an attempt, with a proposal or
   without one. -/
structure Stands
    (mirror : Mirror)
    (side : Side)
    (c : Chains)
    (state : ChannelState)
    (n : Sequence)
    (u? : Option Upgrade) : Prop where
  channel :
    (mirror.records side c).channel =
      mirror.endAt side state n
  upgrade : (mirror.records side c).upgrade? = u?

variable {mirror : Mirror} {hash : Hash} {c : Chains}
variable {side : Side} {state : ChannelState} {n : Sequence}
variable {u? : Option Upgrade}

theorem Stands.channels
    (hStands : mirror.Stands side c state n u?)
    (hState : state ≠ .uninitialized) :
    (c.host side).channels[mirror.key side]? =
      some (mirror.endAt side state n) := by
  rw [← hStands.channel]
  apply channels_eq
  rw [hStands.channel]
  exact hState

theorem Stands.attempt
    (hStands : mirror.Stands side c state n u?) :
    (mirror.records side c).attempt = n := by
  rw [Records.attempt, hStands.channel]
  rfl

/- An end stands where it stood when its chain stays as it
   is. -/
theorem Stands.of_host_eq
    {after : Chains}
    (hStands : mirror.Stands side c state n u?)
    (hHost : after.host side = c.host side) :
    mirror.Stands side after state n u? where
  channel := by
    rw [records, hHost]
    exact hStands.channel
  upgrade := by
    rw [records, hHost]
    exact hStands.upgrade

/- An end that is restored is open, without a proposal. -/
theorem Stands.restored
    {after : Chains}
    {receipt : ErrorReceipt}
    (hStands : mirror.Stands side c state n u?)
    {k : Sequence}
    (hRecords :
      mirror.records side after =
        (mirror.records side c).restored k receipt) :
    mirror.Stands side after .open k none where
  channel := by
    rw [hRecords, Records.restored, hStands.channel]
    rfl
  upgrade := by
    rw [hRecords, Records.restored]

end Mirror

end Interchain

------------------------------------------------------------
-- Cancelling
------------------------------------------------------------

namespace Interchain

namespace Mirror

variable {mirror : Mirror} {hash : Hash} {c : Chains}
variable {side : Side} {state : ChannelState} {n : Sequence}

/- An end cancels its attempt on a receipt of the other end that
   is not of an earlier one. -/
theorem Joins.cancels
    {u : Upgrade}
    {receipt : ErrorReceipt}
    (hJoins : mirror.Joins hash c)
    (hStands : mirror.Stands side c state n (some u))
    (hState : state ≠ .uninitialized)
    (hReceipt :
      (mirror.records side.other c).receipt? = some receipt)
    (hLe : n ≤ receipt.sequence)
    (signer : Signer) :
    Succeeds
        (mirror.answer hash side c
          (.cancel
            (mirror.cancelMessage hash side c signer
              receipt))) ∧
      mirror.records side
          (mirror.after hash side c
            (.cancel
              (mirror.cancelMessage hash side c signer
                receipt))) =
        (mirror.records side c).restored receipt.sequence
          receipt := by
  have hCancel :
      ∃ report,
        (mirror.informed hash side c).processCancel
          (mirror.cancelMessage hash side c signer receipt) =
          .ok report :=
    Host.processCancel_eq_ok_iff.mpr
      ⟨_, u, hStands.channels hState, hStands.upgrade, hLe,
        Or.inr (Host.verifyCancel_eq_ok_iff.mpr
          ⟨_, _, _, hJoins.openConnection side state n, rfl,
            hJoins.verifiesReceipt hReceipt state n⟩)⟩
  rcases hCancel with ⟨report, hOk⟩
  have hDone := Host.dispatch_cancel_succeeds hOk
  refine ⟨hDone.1, ?_⟩
  rw [records_after_self]
  exact hDone.2

end Mirror

end Interchain
