import Interchain.Proofs.Handshake.Acceptance
import Interchain.Proofs.Link.History

/-
  How a run can go on.

  A chain can always be told a state of the other one, and a
  message that is taken then moves its records.  A standing
  says what both chains of a run hold for the channel, and
  carries over from step to step.

  Main declarations:
    * `Link.told`
    * `Link.Standing`

  Main statements:
    * `Link.Run.told_verifies`
    * `Link.Standing.dispatch`
    * `Link.Standing.propose`
    * `Link.Standing.withdraw`
-/

------------------------------------------------------------
-- Telling a Chain
------------------------------------------------------------

namespace Interchain

namespace Link

variable {hash : Hash}

/- A chain once its client knows a state of the other one. -/
def told
    (_ : Link hash)
    (side : Side)
    (c : Chains)
    (client : ClientId)
    (seen : Chains) :
    Host :=
  (c.host side).updateClient hash client
    (seen.host side.other)

variable {link : Link hash} {allowed : Action → Prop}
variable {now seen : Chains} {past : List Chains}
variable {side : Side}

/- What a client was just told can be proven to the chain with
   the whole store of the other one. -/
theorem Run.told_remembers
    (hRun : link.Run allowed (now :: past))
    (hSeen : seen ∈ now :: past)
    {connection : ConnectionEnd}
    (hHears : (now.host side).Hears connection) :
    (link.told side now connection.client seen).Remembers hash
      connection (seen.host side.other).height
      (seen.host side.other) := by
  have hNext : link.Run allowed _ :=
    .learn side connection.client seen hRun hSeen
  have hFollows := hNext.follows _ List.mem_cons_self side
  rw [Chains.host_replace_self] at hFollows
  apply Host.Follows.remembers_of_stored hFollows hHears
  simp [Host.updateClient, Host.remember]

/- The end across can be proven to a chain that was just told. -/
theorem Run.told_verifies
    (hRun : link.Run allowed (now :: past))
    {c expected : ChannelEnd}
    {id : ConnectionId}
    {connection : ConnectionEnd}
    (hConnection :
      (now.host side).openConnection c = .ok (id, connection))
    (hHears : (now.host side).Hears connection)
    (hPeer : c.peer = (link.key side.other).peer)
    (hExpected :
      (now.host side.other).channels[link.key side.other]? =
        some expected) :
    (link.told side now connection.client now).verifyChannel c
        connection expected
        ((now.host side.other).commitmentProof hash)
        (now.host side.other).height = .ok () := by
  rcases Host.openConnection_eq_ok.mp hConnection with
    ⟨_, hFound, hOpen⟩
  have hRemembers :=
    hRun.told_remembers List.mem_cons_self hHears
  exact hRemembers.verifyChannel_of_channel
    (hRun.storePrefix_eq List.mem_cons_self List.mem_cons_self
      hFound hOpen)
    (link.isSlashFree side.other) hPeer hExpected

/- So can the upgrade that is stored there. -/
theorem Run.told_verifies_upgrade
    (hRun : link.Run allowed (now :: past))
    {c : ChannelEnd}
    {id : ConnectionId}
    {connection : ConnectionEnd}
    {expected : Upgrade}
    (hConnection :
      (now.host side).openConnection c = .ok (id, connection))
    (hHears : (now.host side).Hears connection)
    (hPeer : c.peer = (link.key side.other).peer)
    (hExpected :
      (now.host side.other).upgrades[link.key side.other]? =
        some expected) :
    (link.told side now connection.client now).verifyUpgrade c
        connection expected
        ((now.host side.other).commitmentProof hash)
        (now.host side.other).height = .ok () := by
  rcases Host.openConnection_eq_ok.mp hConnection with
    ⟨_, hFound, hOpen⟩
  have hRemembers :=
    hRun.told_remembers List.mem_cons_self hHears
  exact hRemembers.verifyUpgrade_of_upgrade
    (hRun.storePrefix_eq List.mem_cons_self List.mem_cons_self
      hFound hOpen)
    (link.isSlashFree side.other) hPeer hExpected

end Link

end Interchain

------------------------------------------------------------
-- Standings
------------------------------------------------------------

namespace Interchain

/- The time and the parameters of a chain. -/
structure Host.HasSameClock (h before : Host) : Prop where
  height : h.height = before.height
  timestamp : h.timestamp = before.timestamp
  params : h.params = before.params

namespace Link

variable {hash : Hash}

/- A run, without a block more, has led to records on both
   chains. -/
structure Standing
    (link : Link hash)
    (now : Chains)
    (past : List Chains)
    (side : Side)
    (own peer : Records) : Prop where
  run : link.Run Action.IsOrdinary (now :: past)
  limit : link.BelowLimit (now :: past)
  own : link.records side now = own
  peer : link.records side.other now = peer
  clock :
    ∀ side, (now.host side).HasSameClock (link.start.host side)

variable {link : Link hash}
variable {now : Chains} {past : List Chains}
variable {side : Side} {own peer own' : Records}

/- The standing of one end, as the other one sees it. -/
theorem Standing.flip
    (hStands : link.Standing now past side own peer) :
    link.Standing now past side.other peer own where
  run := hStands.run
  limit := hStands.limit
  own := hStands.peer
  peer := by
    rw [Side.other_other]
    exact hStands.own
  clock := hStands.clock

/- An end runs over the links of the start. -/
theorem Standing.links
    (hStands : link.Standing now past side own peer) :
    (now.host side).HasSameLinks (link.start.host side) :=
  hStands.run.hasSameLinks now List.mem_cons_self side

/- A run stands where it stood when one chain changes in a
   step, up to the records of that chain. -/
theorem Standing.step
    (hStands : link.Standing now past side own peer)
    {h : Host}
    (hRun :
      link.Run Action.IsOrdinary
        (now.replace side h :: now :: past))
    (hRecords : h.records (link.key side) = own')
    (hLimit : own'.attempt.number ≠ Word.greatest)
    (hClock : h.HasSameClock (now.host side)) :
    link.Standing (now.replace side h) (now :: past) side own'
      peer where
  run := hRun
  limit := by
    apply hStands.limit.replace
    rw [records, Chains.host_replace_self, hRecords]
    exact hLimit
  own := by
    rw [records, Chains.host_replace_self, hRecords]
  peer := by
    rw [records, Chains.host_replace_other]
    exact hStands.peer
  clock := by
    intro other
    rcases Side.eq_or_eq_other other side with rfl | rfl
    · rw [Chains.host_replace_self]
      have hBefore := hStands.clock other
      exact ⟨hClock.height.trans hBefore.height,
        hClock.timestamp.trans hBefore.timestamp,
        hClock.params.trans hBefore.params⟩
    · rw [Chains.host_replace_other]
      exact hStands.clock side.other

/- A chain can be told a state of the other one. -/
theorem Standing.tell
    (hStands : link.Standing now past side own peer)
    (client : ClientId)
    {seen : Chains}
    (hSeen : seen ∈ now :: past) :
    link.Standing
      (now.replace side (link.told side now client seen))
      (now :: past) side own peer :=
  hStands.step (.learn side client seen hStands.run hSeen)
    hStands.own
    (by
      rw [← hStands.own]
      exact hStands.limit now List.mem_cons_self side)
    ⟨rfl, rfl, rfl⟩

/- A message leads to the records that it leaves. -/
theorem Standing.dispatch
    (hStands : link.Standing now past side own peer)
    (m : UpgradeMessage)
    (hRecords :
      ((now.host side).dispatch m).2.records (link.key side) =
        own')
    (hLimit : own'.attempt.number ≠ Word.greatest) :
    link.Standing
      (now.replace side ((now.host side).dispatch m).2)
      (now :: past) side own' peer := by
  have hSame := (now.host side).hasSameSetting_dispatch m
  exact hStands.step
    (.act side (.dispatch m) hStands.run trivial) hRecords
    hLimit ⟨hSame.height, hSame.timestamp, hSame.params⟩

/- A message to a chain that was just told how the other one
   is. -/
theorem Standing.tell_dispatch
    (hStands : link.Standing now past side own peer)
    (client : ClientId)
    (m : UpgradeMessage)
    (hRecords :
      ((link.told side now client now).dispatch m).2.records
        (link.key side) = own')
    (hLimit : own'.attempt.number ≠ Word.greatest) :
    ∃ next before,
      link.Standing next (before :: now :: past) side own' peer ∧
        link.Standing before (now :: past) side own peer := by
  have hTold := hStands.tell client List.mem_cons_self
  refine ⟨_, _, hTold.dispatch m ?_ hLimit, hTold⟩
  rw [Chains.host_replace_self]
  exact hRecords

end Link

end Interchain

------------------------------------------------------------
-- Proposing and Withdrawing
------------------------------------------------------------

namespace Interchain

namespace Host

variable {h before : Host}

/- Chains with the same links support the same fields. -/
theorem HasSameLinks.checkSupport_eq
    (hSame : h.HasSameLinks before)
    (fields : UpgradeFields) :
    h.checkSupport fields = before.checkSupport fields := by
  unfold checkSupport connectionEnd
  rw [hSame.connections]

/- A valid change that is supported can be proposed. -/
theorem propose_ok
    {c : ChannelEnd}
    {fields : UpgradeFields}
    (key : ChannelKey)
    (hState : c.state = .open)
    (hValid : fields.validate = .ok ())
    (hChange : c.fields ≠ fields)
    (hSupported : h.checkSupport fields = .ok ())
    (timeout : Option UpgradeTimeout) :
    h.propose key c fields timeout =
      .ok ⟨key,
        { c with upgradeSequence := c.upgradeSequence.next },
        ⟨fields, timeout, .zero⟩⟩ := by
  simp [propose, checkProposal, hState, hValid, hChange,
    hSupported]

end Host

namespace Link

variable {hash : Hash} {link : Link hash}
variable {now : Chains} {past : List Chains}
variable {side : Side} {own peer : Records}

theorem Standing.channel
    (hStands : link.Standing now past side own peer)
    (hState : own.channel.state ≠ .uninitialized) :
    (now.host side).channels[link.key side]? =
      some own.channel := by
  rw [← hStands.own] at hState ⊢
  exact channels_eq hState

/- An open end can propose what its chain supports. -/
theorem Standing.propose
    (hStands : link.Standing now past side own peer)
    {fields : UpgradeFields}
    (hState : own.channel.state = .open)
    (hValid : fields.validate = .ok ())
    (hChange : own.channel.fields ≠ fields)
    (hSupported :
      (link.start.host side).checkSupport fields = .ok ())
    (hLimit : own.attempt.next.number ≠ Word.greatest) :
    ∃ next,
      link.Standing next (now :: past) side
        { own with
          channel :=
            { own.channel with
              upgradeSequence := own.attempt.next }
          upgrade? := some ⟨fields, none, .zero⟩ }
        peer := by
  have hChannel :=
    hStands.channel (by rw [hState]; simp)
  rw [← hStands.links.checkSupport_eq] at hSupported
  have hMessage :
      (InitMessage.mk (link.key side) fields none
        ⟨""⟩).validate = .ok () := by
    simp [InitMessage.validate, hValid, validateOptionalTimeout]
  have hDone :=
    Host.dispatch_init_succeeds hMessage hChannel
      (Host.propose_ok (link.key side) hState hValid hChange
        hSupported none)
  refine ⟨_, hStands.dispatch _ (hDone.2.trans ?_) hLimit⟩
  rw [← hStands.own]
  rfl

/- The authority can withdraw a proposal before the end is done
   flushing, and leaves any receipt that is not of an earlier
   attempt. -/
theorem Standing.withdraw
    (hStands : link.Standing now past side own peer)
    {signer : Signer}
    {receipt : ErrorReceipt}
    (hAuthority :
      (link.start.host side).params.isAuthority signer = true)
    (hState : own.channel.state = .open)
    (hUpgrade : own.upgrade?.isSome)
    (hLe : own.attempt ≤ receipt.sequence)
    (hLimit : receipt.sequence.number ≠ Word.greatest) :
    ∃ next,
      link.Standing next (now :: past) side
        (own.restored receipt.sequence receipt) peer := by
  have hChannel :=
    hStands.channel (by rw [hState]; simp)
  rcases Option.isSome_iff_exists.mp hUpgrade with ⟨u, hHeld⟩
  rw [← hStands.own] at hHeld
  rw [← (hStands.clock side).params] at hAuthority
  have hCancel :
      ∃ report,
        (now.host side).processCancel
          ⟨link.key side, receipt, none,
            (now.host side).height, signer⟩ = .ok report :=
    Host.processCancel_eq_ok_iff.mpr
      ⟨_, u, hChannel, hHeld, hLe,
        Or.inl ⟨hAuthority, by rw [hState]; simp⟩⟩
  rcases hCancel with ⟨report, hOk⟩
  have hDone := Host.dispatch_cancel_succeeds hOk
  refine ⟨_, hStands.dispatch _ (hDone.2.trans ?_) hLimit⟩
  rw [← hStands.own]
  rfl

end Link

end Interchain
