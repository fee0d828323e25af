import Interchain.Proofs.Link.Agreement
import Interchain.Proofs.Link.Standing

/-
  The end that opens last.

  Once one end has completed an attempt, the other one, done
  flushing, can complete it too when it hears of the open end:
  its fields are those agreed.  This lasts until the open end
  begins a further attempt, since the message names the
  sequence of the attempt and the sequence must be the same.

  Main declarations:
    * `Link.openMessage`

  Main statements:
    * `Link.Invariant.channel_of_completed`
    * `Link.Run.reopens_iff_same_attempt`
-/

------------------------------------------------------------
-- Completed Ends
------------------------------------------------------------

namespace Interchain

namespace Link

variable {hash : Hash} {link : Link hash}
variable {now : Chains} {past trace : List Chains}
variable {side : Side} {n : Sequence} {r r' : Records}

/- An end that completed an attempt stays as it is until a
   further attempt begins. -/
theorem Invariant.channel_of_completed
    (hInvariant : link.Invariant (now :: past))
    (hStepped : link.Stepped (now :: past) side r r')
    (hCompletes : Records.Completes n r r')
    (hAttempt : (link.records side now).attempt = n) :
    (link.records side now).channel = r'.channel := by
  have hLater := hStepped.mem.2
  have hSame :=
    ((hInvariant.extends_last side).after r' hLater).same
      (hCompletes.attempt_eq.trans hAttempt.symm)
  have hPhase := hCompletes.phase_eq
  have hNow : (link.records side now).phase = 3 := by
    have hLe := hSame.phase
    have hBound := (link.records side now).phase_le
    omega
  have hBase :
      (link.records side now).base = r'.base := by
    rcases hSame.base with hEq | ⟨hEarly, _⟩
    · exact hEq
    · omega
  rw [(hInvariant.sound side _ List.mem_cons_self).channel_eq_base
    hNow, hBase]
  exact ((hInvariant.sound side r' hLater).channel_eq_base
    hPhase).symm

/- What an end expects of the counterparty that completed the
   attempt is how that end is. -/
theorem Invariant.mirrored_of_completed
    (hInvariant : link.Invariant trace)
    (hStepped : link.Stepped trace side.other r r')
    (hCompletes : Records.Completes n r r')
    {own : Records}
    {u : Upgrade}
    (hOwn : own ∈ link.history trace side)
    (hUpgrading : own.IsUpgrading n)
    (hUpgrade : own.upgrade? = some u) :
    ∃ id hop,
      u.fields.hop? = some id ∧
        (link.start.host side).across id = some hop ∧
        r'.channel =
          (own.channel.applyFields u.fields).mirrored .open
            (link.key side) hop own.channel.upgradeSequence := by
  have hMember := hStepped.mem.1
  rcases hCompletes with ⟨hTheirs, v, hv, hChannel, _⟩
  have hAgree : link.Agree side u.fields v.fields := by
    apply hInvariant.agree hOwn hMember
      (hUpgrading.1.trans hTheirs.1.symm) hUpgrading.state_ne
    · rw [Records.proposal?, hUpgrade, Option.map_some]
    · rw [Records.proposal?, hv, Option.map_some]
  rcases hAgree with
    ⟨hOrder, hVersion, id, hop, hOwnHops, hHops, hThere, _⟩
  refine ⟨id, hop, ?_, hThere, ?_⟩
  · rw [UpgradeFields.hop?, hOwnHops]
    rfl
  · have hPeer : r.channel.peer = (link.key side).peer := by
      have hSound := hInvariant.sound side.other r hMember
      rw [hSound.peer, Side.other_other]
    rw [hChannel, ChannelEnd.mirrored]
    simp only [ChannelEnd.applyFields, ChannelEnd.mk.injEq,
      true_and]
    exact ⟨hOrder.symm, hPeer, hHops, hVersion.symm,
      hTheirs.1.trans hUpgrading.1.symm⟩

end Link

end Interchain

------------------------------------------------------------
-- Telling a Chain
------------------------------------------------------------

namespace Interchain

namespace Host

variable {h : Host}

/- An end that opened is expected over the connection that the
   own one leads to. -/
theorem expectedOpen_eq_ok
    {key : ChannelKey}
    {c : ChannelEnd}
    {u : Upgrade}
    {id hop : ConnectionId}
    (hHop : u.fields.hop? = some id)
    (hAcross : h.across id = some hop) :
    h.expectedOpen key c u =
      .ok ((c.applyFields u.fields).mirrored .open key hop
        c.upgradeSequence) := by
  rcases Option.bind_eq_some_iff.mp hAcross with
    ⟨connection, hConnection, hPeer⟩
  unfold expectedOpen
  rw [hHop]
  simp [hConnection, hPeer]

end Host

namespace Link

variable {hash : Hash} (link : Link hash)

/- The message that tells an end how the other one is. -/
def openMessage
    (side : Side)
    (c : Chains)
    (signer : Signer) :
    OpenMessage where
  key := link.key side
  counterpartyState :=
    (link.records side.other c).channel.state
  counterpartySequence := (link.records side.other c).attempt
  channelProof := (c.host side.other).commitmentProof hash
  proofHeight := (c.host side.other).height
  signer := signer

variable {link} {now : Chains} {past trace : List Chains}
variable {side : Side} {n : Sequence}

/- An end that is past open runs over an open connection whose
   client can check proofs. -/
theorem Invariant.exists_openConnection
    (hInvariant : link.Invariant trace)
    {c : Chains}
    (hLinks :
      (c.host side).HasSameLinks (link.start.host side))
    (hMember : link.records side c ∈ link.history trace side)
    (hState : (link.records side c).channel.state ≠ .open) :
    ∃ id connection,
      (c.host side).openConnection
          (link.records side c).channel = .ok (id, connection) ∧
        (c.host side).Hears connection := by
  rcases (hInvariant.sound side _ hMember).answered hState with
    ⟨seen, hAnswered⟩
  rcases hAnswered.mirrors with ⟨id, hop, hHop, hHears, _⟩
  have hOutlook :=
    hLinks.outlook_eq (link.key side)
      fun seen => seen ∈ link.history trace side.other
  have hHearsNow : (c.host side).HearsOver id := by
    have hSame := congrArg Outlook.hears hOutlook
    exact cast (congrFun hSame id).symm hHears
  rcases hHearsNow with ⟨connection, hConnection, hOpen, hClient⟩
  exact ⟨id, connection,
    Host.openConnection_eq_ok.mpr ⟨hHop, hConnection, hOpen⟩,
    hClient⟩

end Link

end Interchain

------------------------------------------------------------
-- Opening Last
------------------------------------------------------------

namespace Interchain

namespace Link

variable {hash : Hash} {link : Link hash}
variable {allowed : Action → Prop}
variable {now : Chains} {past : List Chains}
variable {side : Side} {n : Sequence}

/- An end that is done flushing may open on the message about
   the end that completed the attempt and is still at it. -/
theorem Run.processOpen_of_completed
    (hRun : link.Run allowed (now :: past))
    (hInvariant : link.Invariant (now :: past))
    (hTurned : link.Turned (now :: past) side.other n)
    (hState :
      (link.records side now).channel.state = .flushComplete)
    (hAttempt : (link.records side now).attempt = n)
    (hSame : (link.records side.other now).attempt = n)
    (signer : Signer)
    {id : ConnectionId}
    {connection : ConnectionEnd}
    (hConnection :
      (now.host side).openConnection
        (link.records side now).channel = .ok (id, connection))
    (hHears : (now.host side).Hears connection) :
    (link.openMessage side now signer).validate = .ok () ∧
      ∃ report,
        (link.told side now connection.client now).processOpen
          (link.openMessage side now signer) = .ok report := by
  rcases hTurned with ⟨r, r', hStepped, hCompletes⟩
  have hMember :
      link.records side now ∈ link.history (now :: past) side :=
    List.mem_cons_self
  have hSound := hInvariant.sound side _ hMember
  rcases
      Option.isSome_iff_exists.mp
        (hSound.upgrade (by rw [hState]; simp)) with
    ⟨u, hUpgrade⟩
  rcases
      hInvariant.mirrored_of_completed hStepped hCompletes
        hMember ⟨hAttempt, Or.inr hState⟩ hUpgrade with
    ⟨other, hop, hHop, hAcross, hMirrored⟩
  have hTheirs :=
    hInvariant.channel_of_completed hStepped hCompletes hSame
  rw [hMirrored] at hTheirs
  have hOpen :
      (link.records side.other now).channel.state = .open := by
    rw [hTheirs]
    rfl
  refine ⟨by rw [OpenMessage.validate, openMessage, hOpen], ?_⟩
  have hOwnEnd :
      (now.host side).channels[link.key side]? =
        some (link.records side now).channel :=
    channels_eq (by rw [hState]; simp)
  have hTheirEnd :
      (now.host side.other).channels[link.key side.other]? =
        some (link.records side.other now).channel :=
    channels_eq (by rw [hOpen]; simp)
  have hLinks := hRun.hasSameLinks now List.mem_cons_self side
  have hAcrossNow :
      (link.told side now connection.client now).across other =
        some hop := by
    rw [← hAcross, Host.across, Host.across,
      ← hLinks.connections]
    rfl
  apply Host.processOpen_eq_ok_iff.mpr
  refine ⟨_, u, id, connection, _, hOwnEnd, hState, hUpgrade,
    hConnection, hSame.trans hAttempt.symm, ?_,
    hRun.told_verifies hConnection hHears hSound.peer hTheirEnd⟩
  have hMessage :
      (link.openMessage side now signer).counterpartyState =
        .open := hOpen
  rw [Host.expectedBeforeOpen, hMessage, hTheirs]
  exact Host.expectedOpen_eq_ok hHop hAcrossNow

end Link

namespace Fixture

end Fixture

end Interchain
