import Interchain.Proofs.Link.Invariant
import Interchain.Proofs.Link.Offer

/-
  Agreement on what is proposed.

  An end that is past open has seen an answer to its proposal,
  and the chain that answered holds no other proposal at that
  attempt.  So two ends at one attempt agree as soon as one of
  them is past open, and what they switch to agrees as well.

  Main declarations:
    * `Link.Agree`

  Main statements:
    * `Link.Invariant.agree`
    * `Link.Run.proposals_agree`
-/

------------------------------------------------------------
-- Agreement
------------------------------------------------------------

namespace Interchain

namespace Link

variable {hash : Hash} {link : Link hash}
variable {trace : List Chains} {side : Side}

/- Fields for both ends of the channel that fit together: the
   connections of the ends lead to each other. -/
structure Agree
    (link : Link hash)
    (side : Side)
    (own peer : UpgradeFields) : Prop where
  order : own.order = peer.order
  version : own.version = peer.version
  hops :
    ∃ id hop,
      own.hops = [id] ∧ peer.hops = [hop] ∧
        (link.start.host side).across id = some hop ∧
        (link.start.host side.other).across hop = some id

/- Agreement looks the same from both ends. -/
theorem Agree.symm
    {own peer : UpgradeFields}
    (hAgree : link.Agree side own peer) :
    link.Agree side.other peer own where
  order := hAgree.order.symm
  version := hAgree.version.symm
  hops := by
    rcases hAgree.hops with ⟨id, hop, hOwn, hPeer, hThere, hBack⟩
    refine ⟨hop, id, hPeer, hOwn, hBack, ?_⟩
    rwa [Side.other_other]

/- The first of several hops is the only one. -/
theorem hops_eq_of_hop?_eq
    {fields : UpgradeFields}
    {id : ConnectionId}
    (hLength : fields.hops.length = 1)
    (hHop : fields.hop? = some id) :
    fields.hops = [id] := by
  rcases List.length_eq_one_iff.mp hLength with ⟨only, hOnly⟩
  rw [UpgradeFields.hop?, hOnly] at hHop
  rw [hOnly, Option.some.inj hHop]

/- Compatible proposals agree, since connections lead back. -/
theorem agree_of_compatible
    {own peer : UpgradeFields}
    (hCompatible :
      (link.outlook trace side).Compatible own peer)
    (hOwn : own.hops.length = 1)
    (hPeer : peer.hops.length = 1) :
    link.Agree side own peer := by
  rcases hCompatible with ⟨hOrder, hVersion, id, hId, hAcross⟩
  rcases List.length_eq_one_iff.mp hPeer with ⟨hop, hHops⟩
  have hThere :
      (link.start.host side).across id = some hop := by
    rw [UpgradeFields.hop?, hHops] at hAcross
    exact hAcross
  exact ⟨hOrder, hVersion, id, hop,
    hops_eq_of_hop?_eq hOwn hId, hHops, hThere,
    link.leadsBack side id hop hThere⟩

/- Each chain has one proposal at an attempt. -/
theorem Invariant.proposal_unique
    (hInvariant : link.Invariant trace)
    {a b : Records}
    (ha : a ∈ link.history trace side)
    (hb : b ∈ link.history trace side)
    (hAttempt : a.attempt = b.attempt)
    {p q : UpgradeFields}
    (hp : a.proposal? = some p)
    (hq : b.proposal? = some q) :
    p = q := by
  have hEarly
      {r : Records}
      {fields : UpgradeFields}
      (hr : r ∈ link.history trace side)
      (hFields : r.proposal? = some fields) :
      r.phase ≤ 2 :=
    (hInvariant.sound side r hr).phase_le_two_iff.mpr
      (Records.upgrade?_of_proposal? hFields)
  rcases hInvariant.comparable ha hb with hFirst | hFirst
  · have hSame :=
      (hFirst.same hAttempt).proposal (hEarly hb hq)
    rw [hp, hq] at hSame
    exact (Option.some.inj hSame).symm
  · have hSame :=
      (hFirst.same hAttempt.symm).proposal (hEarly ha hp)
    rw [hp, hq] at hSame
    exact Option.some.inj hSame

/- The proposals of two ends at one attempt agree once one of
   the ends is past open, whenever the ends held them. -/
theorem Invariant.agree
    (hInvariant : link.Invariant trace)
    {a b : Records}
    (ha : a ∈ link.history trace side)
    (hb : b ∈ link.history trace side.other)
    (hAttempt : a.attempt = b.attempt)
    (hState : a.channel.state ≠ .open)
    {p q : UpgradeFields}
    (hp : a.proposal? = some p)
    (hq : b.proposal? = some q) :
    link.Agree side p q := by
  have hSound := hInvariant.sound side a ha
  rcases hSound.answered hState with ⟨seen, hAnswered⟩
  rcases hAnswered.compatible with
    ⟨own, answer, hOwn, hAnswer, hCompatible⟩
  have hSeenAttempt : seen.attempt = b.attempt := by
    rw [← hAttempt]
    exact hAnswered.mirrors.attempt_eq
  have hSame : answer = q :=
    hInvariant.proposal_unique hAnswered.proven hb
      hSeenAttempt hAnswer hq
  rw [hp, Option.some.injEq] at hOwn
  rw [hSame, ← hOwn] at hCompatible
  exact agree_of_compatible hCompatible
    (hSound.proposal p hp).1
    ((hInvariant.sound side.other b hb).proposal q hq).1

end Link

end Interchain

------------------------------------------------------------
-- Agreement in Runs
------------------------------------------------------------

namespace Interchain

namespace Link

variable {hash : Hash} {link : Link hash}
variable {allowed : Action → Prop} {trace : List Chains}
variable {side : Side}

theorem Stepped.mem
    {before after : Records}
    (hStepped : link.Stepped trace side before after) :
    before ∈ link.history trace side ∧
      after ∈ link.history trace side := by
  rcases hStepped with ⟨newer, q, p, older, rfl, rfl, rfl⟩
  exact ⟨mem_history side (by simp), mem_history side (by simp)⟩

/-
  Proposals of one attempt agree when either end is past open,
  and the fields that both ends switch to in one attempt agree
  too.
-/
theorem Run.proposals_agree
    (hRun : link.Run allowed trace)
    (hOrdinary : ∀ a, allowed a → a.IsOrdinary)
    (hFree : CollisionFree hash allowed trace)
    (hLimit : link.BelowLimit trace) :
    (∀ c ∈ trace, ∀ n u v,
        (link.records .left c).attempt = n →
        (link.records .right c).attempt = n →
        (link.records .left c).upgrade? = some u →
        (link.records .right c).upgrade? = some v →
        (∃ side, (link.records side c).IsUpgrading n) →
        link.Agree .left u.fields v.fields) ∧
      ∀ n before after before' after',
        link.Stepped trace .left before after →
        Records.Completes n before after →
        link.Stepped trace .right before' after' →
        Records.Completes n before' after' →
        link.Agree .left after.channel.fields
          after'.channel.fields := by
  have hInvariant := hRun.invariant hOrdinary hFree hLimit
  constructor
  · rintro c hc n u v hLeft hRight hu hv ⟨side, hUpgrading⟩
    have hOwn :
        (link.records .left c).proposal? = some u.fields := by
      rw [Records.proposal?, hu, Option.map_some]
    have hPeer :
        (link.records .right c).proposal? = some v.fields := by
      rw [Records.proposal?, hv, Option.map_some]
    cases side with
    | left =>
        exact hInvariant.agree (mem_history .left hc)
          (mem_history .right hc) (hLeft.trans hRight.symm)
          hUpgrading.state_ne hOwn hPeer
    | right =>
        exact (hInvariant.agree (mem_history .right hc)
          (mem_history .left hc) (hRight.trans hLeft.symm)
          hUpgrading.state_ne hPeer hOwn).symm
  · intro n before after before' after' hLeft hCompletes
      hRight hCompletes'
    rcases hCompletes with ⟨hUpgrading, u, hu, hChannel, _⟩
    rcases hCompletes' with ⟨hUpgrading', v, hv, hChannel', _⟩
    have hAgree :
        link.Agree .left u.fields v.fields := by
      apply hInvariant.agree hLeft.mem.1 hRight.mem.1
        (hUpgrading.1.trans hUpgrading'.1.symm)
        hUpgrading.state_ne
      · rw [Records.proposal?, hu, Option.map_some]
      · rw [Records.proposal?, hv, Option.map_some]
    rw [hChannel, hChannel']
    exact hAgree

end Link

namespace Fixture

/- The sample chains agree on their offer as soon as one of
   them is done flushing. -/
theorem sample_proposals_agree :
    ∃ c trace,
      (link id).Run Action.IsOrdinary (c :: trace) ∧
        (link id).BelowLimit (c :: trace) ∧
        ((link id).records .left c).channel.state =
          .flushComplete ∧
        ((link id).records .right c).channel.state =
          .flushing ∧
        (link id).Agree .left
          (upgradeFields upgradeConnectionA)
          (upgradeFields upgradeConnectionB) := by
  rcases (offer id).confirmed .left (le_refl _) (by decide) with
    ⟨_, before, past, _, hStands⟩
  have hLeft := hStands.own
  have hRight : (link id).records .right before = _ :=
    hStands.peer
  have hAgree :=
    (hStands.run.proposals_agree (fun _ h => h)
      (Link.collisionFree_of_injective Function.injective_id)
      hStands.limit).1 before List.mem_cons_self
      Sequence.zero.next ((offer id).flushing .left)
      ((offer id).flushing .right)
  rw [hLeft, hRight] at hAgree
  refine ⟨before, _, hStands.run, hStands.limit, ?_, ?_, ?_⟩
  · rw [hLeft]
    rfl
  · rw [hRight]
    rfl
  · apply hAgree rfl rfl rfl rfl
    refine ⟨.left, ?_⟩
    rw [hLeft]
    exact ⟨rfl, Or.inr rfl⟩

end Fixture

end Interchain
