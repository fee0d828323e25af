import Interchain.Proofs.Mirror.Steps

/-
  A handshake that goes through.

  One end makes a proposal that both can take up, and a relayer
  carries the messages.  Each message succeeds when its turn has
  come, whatever quiet actions pass in between; and once nothing
  is in flight the ends open, whichever goes first.

  Main declarations:
    * `Mirror.Course`
    * `Mirror.IsAt`
    * `Mirror.Relayed`
    * `Mirror.Completes`

  Main statements:
    * `Mirror.Course.isAt`
    * `Mirror.Relayed.exists_run`
    * `Mirror.Starts.exists_course`
    * `Mirror.handshake_completes`
-/

------------------------------------------------------------
-- Courses
------------------------------------------------------------

namespace Interchain

/- A chain can set a deadline for an upgrade. -/
def Host.SetsDeadline (h : Host) : Prop :=
  ∃ deadline,
    h.params.deadline h.height h.timestamp = .ok deadline

namespace Mirror

/- How far a handshake has come. -/
inductive Milestone where
  | idle
  | proposed
  | answered
  | acknowledged
  | confirmed
  deriving DecidableEq

/-
  The handshake from the proposal of one end on.  Between its
  messages each chain takes quiet actions, and learns of any
  state of any chain.  A message is delivered after its chain
  was told how the other one is; no deadline has run out by
  then, and a chain that starts to flush can set one.
-/
inductive Course
    (mirror : Mirror)
    (hash : Hash)
    (side : Side)
    (p : Proposal)
    (timeout : Option UpgradeTimeout)
    (start : Chains) :
    Milestone → Chains → Prop
  | start : Course mirror hash side p timeout start .idle start
  | rest
      {k : Milestone}
      {c : Chains}
      (s : Side)
      (a : Action)
      (hCourse : Course mirror hash side p timeout start k c)
      (hQuiet : a.IsQuiet (mirror.key s) (c.host s)) :
      Course mirror hash side p timeout start k
        (c.replace s ((c.host s).perform hash a))
  | learn
      {k : Milestone}
      {c : Chains}
      (s : Side)
      (client : ClientId)
      (seen : Host)
      (hCourse : Course mirror hash side p timeout start k c) :
      Course mirror hash side p timeout start k
        (c.replace s
          ((c.host s).updateClient hash client seen))
  | propose
      {c : Chains}
      (signer : Signer)
      (hCourse :
        Course mirror hash side p timeout start .idle c) :
      Course mirror hash side p timeout start .proposed
        (mirror.proposing side c signer p timeout)
  | answer
      {c : Chains}
      (signer : Signer)
      (hCourse :
        Course mirror hash side p timeout start .proposed c)
      (hDeadline : (c.host side.other).SetsDeadline) :
      Course mirror hash side p timeout start .answered
        (mirror.after hash side.other c
          (.attempt
            (mirror.answering hash side.other c signer p
              timeout)))
  | acknowledge
      {c : Chains}
      {v : Upgrade}
      (signer : Signer)
      (hCourse :
        Course mirror hash side p timeout start .answered c)
      (hUpgrade :
        (mirror.records side.other c).upgrade? = some v)
      (hDeadline : (c.host side).SetsDeadline)
      (hAhead :
        v.hasRunOut (c.host side).height
          (c.host side).timestamp = false) :
      Course mirror hash side p timeout start .acknowledged
        (mirror.after hash side c
          (.ack (mirror.ackMessage hash side c signer v)))
  | confirm
      {c : Chains}
      {u : Upgrade}
      (signer : Signer)
      (hCourse :
        Course mirror hash side p timeout start .acknowledged c)
      (hUpgrade : (mirror.records side c).upgrade? = some u)
      (hAhead :
        u.hasRunOut (c.host side.other).height
          (c.host side.other).timestamp = false) :
      Course mirror hash side p timeout start .confirmed
        (mirror.after hash side.other c
          (.confirm
            (mirror.confirmMessage hash side.other c signer u)))
  | reopen
      {c : Chains}
      (signer : Signer)
      (s : Side)
      (hCourse :
        Course mirror hash side p timeout start .confirmed c)
      (hState :
        (mirror.records s c).channel.state = .flushComplete)
      (hPeer :
        (mirror.records s.other c).channel.state ≠
          .flushing) :
      Course mirror hash side p timeout start .confirmed
        (mirror.after hash s c
          (.reopen (mirror.openMessage hash s c signer)))

end Mirror

end Interchain

------------------------------------------------------------
-- Milestones
------------------------------------------------------------

namespace Interchain

namespace Mirror

/- How both ends stand at a milestone. -/
inductive Arrives
    (mirror : Mirror)
    (side : Side)
    (p : Proposal)
    (timeout : Option UpgradeTimeout)
    (a b : Sequence)
    (c : Chains) :
    Milestone → Prop
  | idle
      (hOwn : mirror.StandsAlone side c .open a none)
      (hPeer : mirror.StandsAlone side.other c .open b none) :
      Arrives mirror side p timeout a b c .idle
  | proposed
      (hOwn :
        mirror.StandsAlone side c .open a.next
          (some (p.proposed side timeout)))
      (hPeer : mirror.StandsAlone side.other c .open b none) :
      Arrives mirror side p timeout a b c .proposed
  | answered
      {v : Upgrade}
      (hOwn :
        mirror.StandsAlone side c .open a.next
          (some (p.proposed side timeout)))
      (hAgreed : p.IsAgreed side.other v)
      (hPeer :
        mirror.StandsAlone side.other c .flushing a.next
          (some v)) :
      Arrives mirror side p timeout a b c .answered
  | acknowledged
      {v : Upgrade}
      (hOwn : mirror.Empties side c p a.next)
      (hAgreed : p.IsAgreed side.other v)
      (hPeer :
        mirror.StandsAlone side.other c .flushing a.next
          (some v)) :
      Arrives mirror side p timeout a b c .acknowledged
  | confirmed
      (hEnds :
        ∀ s, mirror.Empties s c p a.next ∨
          (p.upgraded mirror).Finished s c a.next) :
      Arrives mirror side p timeout a b c .confirmed

variable {mirror : Mirror} {hash : Hash} {c c' : Chains}
variable {side s : Side} {p : Proposal} {a b n : Sequence}
variable {timeout : Option UpgradeTimeout} {k : Milestone}
variable {h : Host}

/- Being about to be done survives what leaves the end at rest. -/
theorem Empties.rests
    (hEmpties : mirror.Empties side c p n)
    (hRests :
      (mirror.records side c).Rests (mirror.records side c')) :
    mirror.Empties side c' p n := by
  rcases hEmpties with ⟨u, v, hAgreed, hDrains⟩
  exact ⟨u, v, hAgreed, hDrains.rests hRests⟩

/- When one chain changes and the records of the channel rest,
   those on both chains do. -/
theorem rests_replace
    (hRests :
      (mirror.records s c).Rests (h.records (mirror.key s)))
    (side : Side) :
    (mirror.records side c).Rests
      (mirror.records side (c.replace s h)) := by
  rcases Side.eq_or_eq_other side s with rfl | rfl
  · rw [records, records, Chains.host_replace_self]
    exact hRests
  · refine .of_eq ?_
    rw [records, Chains.host_replace_other, records]

/- Ends that rest stay at their milestone. -/
theorem Arrives.rests
    (hArrives : mirror.Arrives side p timeout a b c k)
    (hRests :
      ∀ side,
        (mirror.records side c).Rests
          (mirror.records side c')) :
    mirror.Arrives side p timeout a b c' k := by
  cases hArrives with
  | idle hOwn hPeer =>
      exact .idle (hOwn.rests (hRests side))
        (hPeer.rests (hRests side.other))
  | proposed hOwn hPeer =>
      exact .proposed (hOwn.rests (hRests side))
        (hPeer.rests (hRests side.other))
  | answered hOwn hAgreed hPeer =>
      exact .answered (hOwn.rests (hRests side)) hAgreed
        (hPeer.rests (hRests side.other))
  | acknowledged hOwn hAgreed hPeer =>
      exact .acknowledged (hOwn.rests (hRests side)) hAgreed
        (hPeer.rests (hRests side.other))
  | confirmed hEnds =>
      refine .confirmed fun s => ?_
      rcases hEnds s with hEmpties | hFinished
      · exact Or.inl (hEmpties.rests (hRests s))
      · exact Or.inr (hFinished.rests (hRests s))

/- Once the flushing is confirmed, both ends are at the attempt
   after the one that it started from. -/
theorem Arrives.attempt
    (hArrives : mirror.Arrives side p timeout a b c .confirmed)
    (s : Side) :
    (mirror.records s c).attempt = a.next := by
  cases hArrives with
  | confirmed hEnds =>
      rcases hEnds s with hEmpties | hFinished
      · rcases hEmpties.stands with ⟨_, _, _, _, hStands⟩
        exact hStands.attempt
      · exact hFinished.stands.attempt

end Mirror

end Interchain

------------------------------------------------------------
-- From Milestone to Milestone
------------------------------------------------------------

namespace Interchain

namespace Mirror

/-
  What a handshake starts from: a proposal that both ends can
  take up, and two open ends without a proposal, where the one
  that proposes is not behind.
-/
structure Starts
    (mirror : Mirror)
    (hash : Hash)
    (side : Side)
    (p : Proposal)
    (timeout : Option UpgradeTimeout)
    (a b : Sequence)
    (c : Chains) : Prop where
  joins : mirror.Joins hash c
  offered : p.IsOffered c
  change :
    (mirror.endAt side .open .zero).fields ≠ p.fields side
  isValid : validateOptionalTimeout timeout = .ok ()
  own : mirror.StandsAlone side c .open a none
  peer : mirror.StandsAlone side.other c .open b none
  ahead : b ≤ a
  limit : a.number ≠ Word.greatest

/- The chains at a milestone, with the links that they had. -/
structure IsAt
    (mirror : Mirror)
    (hash : Hash)
    (side : Side)
    (p : Proposal)
    (timeout : Option UpgradeTimeout)
    (a b : Sequence)
    (k : Milestone)
    (c : Chains) : Prop where
  joins : mirror.Joins hash c
  offered : p.IsOffered c
  arrives : mirror.Arrives side p timeout a b c k

variable {mirror : Mirror} {hash : Hash} {c start : Chains}
variable {side s : Side} {p : Proposal} {a b : Sequence}
variable {timeout : Option UpgradeTimeout} {k : Milestone}
variable {h : Host} {u v : Upgrade}

/- A handshake stays where it is while an end is at rest. -/
theorem IsAt.rests
    (hAt : mirror.IsAt hash side p timeout a b k c)
    (hLinks : h.HasSameLinks (c.host s))
    (hRests :
      (mirror.records s c).Rests (h.records (mirror.key s))) :
    mirror.IsAt hash side p timeout a b k (c.replace s h) where
  joins := hAt.joins.replace hLinks
  offered := hAt.offered.replace hLinks
  arrives := hAt.arrives.rests (rests_replace hRests)

/- The first message makes the proposal. -/
theorem IsAt.proposes
    (hAt : mirror.IsAt hash side p timeout a b .idle c)
    (hStarts : mirror.Starts hash side p timeout a b start)
    (signer : Signer) :
    Succeeds
        ((c.host side).dispatch
          (.init
            (mirror.initMessage side signer p timeout))).1 ∧
      mirror.IsAt hash side p timeout a b .proposed
        (mirror.proposing side c signer p timeout) := by
  cases hAt.arrives with
  | idle hOwn hPeer =>
      have hDone :=
        hOwn.stands.proposes hAt.offered hStarts.change
          hStarts.isValid signer
      refine ⟨hDone.1, hAt.joins.proposing signer,
        hAt.offered.proposing signer, .proposed ?_ ?_⟩
      · exact
          ⟨hOwn.stands.proposing hAt.offered hStarts.change
              hStarts.isValid signer,
            (congrArg Records.counterparty? hDone.2).trans
              hOwn.unknown,
            by rw [hDone.2]; exact hOwn.sends⟩
      · exact hPeer.rests
          (.of_eq (by rw [records, host_proposing_other, records]))

/- The second one answers it. -/
theorem IsAt.answers
    {deadline : UpgradeTimeout}
    (hAt : mirror.IsAt hash side p timeout a b .proposed c)
    (hStarts : mirror.Starts hash side p timeout a b start)
    (hDeadline :
      (c.host side.other).params.deadline
          (c.host side.other).height
          (c.host side.other).timestamp = .ok deadline)
    (signer : Signer) :
    Succeeds
        (mirror.answer hash side.other c
          (.attempt
            (mirror.answering hash side.other c signer p
              timeout))) ∧
      mirror.IsAt hash side p timeout a b .answered
        (mirror.after hash side.other c
          (.attempt
            (mirror.answering hash side.other c signer p
              timeout))) ∧
      ∃ v,
        v.timeout = some deadline ∧
          (mirror.records side.other
            (mirror.after hash side.other c
              (.attempt
                (mirror.answering hash side.other c signer p
                  timeout)))).upgrade? = some v := by
  cases hAt.arrives with
  | proposed hOwn hPeer =>
      rcases Option.isSome_iff_exists.mp hPeer.sends with
        ⟨next, hNext⟩
      have hMeets :
          mirror.Meets hash side.other c p timeout b a.next
            none :=
        { joins := hAt.joins
          offered := hAt.offered
          change :=
            hStarts.offered.changes_other hStarts.joins
              hStarts.change
          isValid := hStarts.isValid
          own := hPeer.stands
          peer := by
            rw [Side.other_other]
            exact hOwn.stands }
      have hAhead : b < a.next :=
        lt_of_le_of_lt hStarts.ahead
          (Sequence.lt_next_of_ne_greatest hStarts.limit)
      have hDone :=
        hMeets.flushes signer hAhead hNext hDeadline
      have hUpgrade := congrArg Records.upgrade? hDone.2
      refine
        ⟨hDone.1,
          ⟨hAt.joins.after side.other _,
            hAt.offered.after side.other _,
            .answered ?_ ⟨rfl, ?_⟩
              ⟨⟨by rw [hDone.2], hUpgrade⟩, ?_, ?_⟩⟩,
          _, rfl, hUpgrade⟩
      · exact hOwn.rests
          (.of_eq (records_after_of_other ..))
      · exact Params.validate_of_deadline hDeadline
      · exact
          (congrArg Records.counterparty? hDone.2).trans
            hPeer.unknown
      · rw [hDone.2]
        exact hPeer.sends

/- The third one acknowledges the answer. -/
theorem IsAt.acknowledges
    {deadline : UpgradeTimeout}
    (hAt : mirror.IsAt hash side p timeout a b .answered c)
    (hUpgrade :
      (mirror.records side.other c).upgrade? = some v)
    (hDeadline :
      (c.host side).params.deadline (c.host side).height
        (c.host side).timestamp = .ok deadline)
    (hAhead :
      v.hasRunOut (c.host side).height
        (c.host side).timestamp = false)
    (signer : Signer) :
    Succeeds
        (mirror.answer hash side c
          (.ack (mirror.ackMessage hash side c signer v))) ∧
      mirror.IsAt hash side p timeout a b .acknowledged
        (mirror.after hash side c
          (.ack (mirror.ackMessage hash side c signer v))) ∧
      ∃ u,
        u.timeout = some deadline ∧
          (mirror.records side
            (mirror.after hash side c
              (.ack
                (mirror.ackMessage hash side c signer
                  v)))).Drains
            (mirror.endAt side .flushing a.next) u v := by
  cases hAt.arrives with
  | @answered held hOwn hAgreed hPeer =>
      have hHeld : held = v :=
        Option.some.inj
          (hPeer.stands.upgrade.symm.trans hUpgrade)
      subst hHeld
      rcases
          hAt.joins.acknowledges hAt.offered hOwn hPeer.stands
            hAgreed hDeadline hAhead signer with
        ⟨hSucceeds, sent, hDrains⟩
      refine
        ⟨hSucceeds,
          ⟨hAt.joins.after side _, hAt.offered.after side _,
            .acknowledged ⟨_, held, ⟨rfl, ?_⟩, hDrains⟩ hAgreed
              ?_⟩,
          _, rfl, hDrains⟩
      · exact Params.validate_of_deadline hDeadline
      · exact hPeer.rests (.of_eq (records_after_other ..))

/- The fourth one confirms, and the ends are ready to open. -/
theorem IsAt.confirms
    (hAt : mirror.IsAt hash side p timeout a b .acknowledged c)
    (hUpgrade : (mirror.records side c).upgrade? = some u)
    (hAhead :
      u.hasRunOut (c.host side.other).height
        (c.host side.other).timestamp = false)
    (signer : Signer) :
    Succeeds
        (mirror.answer hash side.other c
          (.confirm
            (mirror.confirmMessage hash side.other c signer
              u))) ∧
      mirror.IsAt hash side p timeout a b .confirmed
        (mirror.after hash side.other c
          (.confirm
            (mirror.confirmMessage hash side.other c signer
              u))) ∧
      ((∃ v,
          (mirror.records side.other
            (mirror.after hash side.other c
              (.confirm
                (mirror.confirmMessage hash side.other c signer
                  u)))).Drains
            (mirror.endAt side.other .flushing a.next) v u) ∨
        (p.upgraded mirror).Finished side.other
          (mirror.after hash side.other c
            (.confirm
              (mirror.confirmMessage hash side.other c signer
                u)))
          a.next) := by
  cases hAt.arrives with
  | @acknowledged held hOwn hAgreed hPeer =>
      rcases hOwn.stands with
        ⟨state, own, hState, hOwnAgreed, hStands⟩
      have hHeld : own = u :=
        Option.some.inj (hStands.upgrade.symm.trans hUpgrade)
      subst hHeld
      have hDone :=
        hAt.joins.confirms hPeer hAgreed
          (by rw [Side.other_other]; exact hStands) hState
          (by rw [Side.other_other]; exact hOwnAgreed) hAhead
          signer
      refine
        ⟨hDone.1,
          ⟨hAt.joins.after side.other _,
            hAt.offered.after side.other _,
            .confirmed fun s => ?_⟩,
          hDone.2.imp_left fun hDrains => ⟨held, hDrains⟩⟩
      rcases Side.eq_or_eq_other s side with rfl | rfl
      · exact Or.inl
          (hOwn.rests (.of_eq (records_after_of_other ..)))
      · exact hDone.2.imp_left fun hDrains =>
          ⟨held, own, hAgreed, hDrains⟩

/- An end that is done flushing opens, unless the other one
   still flushes. -/
theorem IsAt.opens
    (hAt : mirror.IsAt hash side p timeout a b .confirmed c)
    (hState :
      (mirror.records s c).channel.state = .flushComplete)
    (hPeer :
      (mirror.records s.other c).channel.state ≠ .flushing)
    (signer : Signer) :
    Succeeds
        (mirror.answer hash s c
          (.reopen (mirror.openMessage hash s c signer))) ∧
      (p.upgraded mirror).Finished s
        (mirror.after hash s c
          (.reopen (mirror.openMessage hash s c signer)))
        a.next ∧
      mirror.IsAt hash side p timeout a b .confirmed
        (mirror.after hash s c
          (.reopen (mirror.openMessage hash s c signer))) := by
  cases hAt.arrives with
  | confirmed hEnds =>
      have hOwn :
          ∃ u, p.IsAgreed s u ∧
            mirror.Stands s c .flushComplete a.next
              (some u) := by
        rcases hEnds s with hEmpties | hFinished
        · rcases hEmpties.stands with
            ⟨state, u, _, hAgreed, hStands⟩
          rw [hStands.channel] at hState
          have hSame : state = .flushComplete := hState
          rw [hSame] at hStands
          exact ⟨u, hAgreed, hStands⟩
        · have hOpen :
              (mirror.records s c).channel.state = .open :=
            congrArg ChannelEnd.state hFinished.stands.channel
          rw [hState] at hOpen
          simp at hOpen
      have hOther :
          (∃ v,
              mirror.Stands s.other c .flushComplete a.next v) ∨
            (p.upgraded mirror).Finished s.other c a.next := by
        rcases hEnds s.other with hEmpties | hFinished
        · rcases hEmpties.stands with
            ⟨state, v, rfl | rfl, _, hStands⟩
          · rw [hStands.channel] at hPeer
            exact absurd rfl hPeer
          · exact Or.inl ⟨_, hStands⟩
        · exact Or.inr hFinished
      rcases hOwn with ⟨u, hAgreed, hStands⟩
      have hDone :=
        hAt.joins.opens hAt.offered hStands hAgreed hOther
          signer
      refine ⟨hDone.1, hDone.2, hAt.joins.after s _,
        hAt.offered.after s _, .confirmed fun t => ?_⟩
      rcases Side.eq_or_eq_other t s with rfl | rfl
      · exact Or.inr hDone.2
      · have hRests :=
          Records.Rests.of_eq
            (mirror.records_after_other hash s c
              (.reopen (mirror.openMessage hash s c signer)))
        rcases hEnds s.other with hEmpties | hFinished
        · exact Or.inl (hEmpties.rests hRests)
        · exact Or.inr (hFinished.rests hRests)

/- Whatever course a handshake takes, its ends stand as they
   should. -/
theorem Course.isAt
    (hCourse : mirror.Course hash side p timeout start k c)
    (hStarts : mirror.Starts hash side p timeout a b start) :
    mirror.IsAt hash side p timeout a b k c := by
  induction hCourse with
  | start =>
      exact ⟨hStarts.joins, hStarts.offered,
        .idle hStarts.own hStarts.peer⟩
  | rest s action _ hQuiet ih =>
      exact ih.rests
        (Host.hasSameLinks_perform hash _ action).1
        (Host.rests_perform hash _ action hQuiet)
  | learn s client seen _ ih =>
      exact ih.rests ⟨rfl, rfl, rfl⟩ (.of_eq rfl)
  | propose signer _ ih =>
      exact (ih.proposes hStarts signer).2
  | answer signer _ hDeadline ih =>
      rcases hDeadline with ⟨deadline, hDeadline⟩
      exact (ih.answers hStarts hDeadline signer).2.1
  | acknowledge signer _ hUpgrade hDeadline hAhead ih =>
      rcases hDeadline with ⟨deadline, hDeadline⟩
      exact
        (ih.acknowledges hUpgrade hDeadline hAhead signer).2.1
  | confirm signer _ hUpgrade hAhead ih =>
      exact (ih.confirms hUpgrade hAhead signer).2.1
  | reopen signer s _ hState hPeer ih =>
      exact (ih.opens hState hPeer signer).2.2

end Mirror

end Interchain

------------------------------------------------------------
-- A Course That Leads There
------------------------------------------------------------

namespace Interchain

/- An end that drains looks in time, until the upgrade that it
   knows of runs out. -/
theorem Host.knowsAhead_of_drains
    {h : Host}
    {key : ChannelKey}
    {c : ChannelEnd}
    {u v : Upgrade}
    (hDrains : (h.records key).Drains c u v)
    (hAhead : v.hasRunOut h.height h.timestamp = false) :
    h.KnowsAhead key := by
  intro hState w hw
  cases hDrains with
  | waits _ _ hCounterparty _ =>
      rw [hCounterparty, Option.some.injEq] at hw
      rw [← hw]
      exact hAhead
  | done hChannel _ =>
      rw [hChannel] at hState
      simp at hState

theorem Host.HasSameClock.trans
    {a b c : Host}
    (hab : b.HasSameClock a)
    (hbc : c.HasSameClock b) :
    c.HasSameClock a where
  height := hbc.height.trans hab.height
  timestamp := hbc.timestamp.trans hab.timestamp
  params := hbc.params.trans hab.params

namespace Mirror

variable {mirror : Mirror} {hash : Hash} {c start : Chains}
variable {side : Side} {p : Proposal} {a b : Sequence}
variable {timeout : Option UpgradeTimeout}

/- No block went by on either chain, and the same packets are in
   flight. -/
structure Stays
    (mirror : Mirror)
    (start c : Chains) : Prop where
  clock : ∀ s, (c.host s).HasSameClock (start.host s)
  inFlight :
    ∀ s,
      (mirror.records s c).inFlight =
        (mirror.records s start).inFlight

theorem Stays.refl (mirror : Mirror) (c : Chains) :
    mirror.Stays c c :=
  ⟨fun _ => ⟨rfl, rfl, rfl⟩, fun _ => rfl⟩

/- What takes no time, and leaves the packets, does not matter
   to that. -/
theorem Stays.replace
    {h : Host}
    (hStays : mirror.Stays start c)
    (hClock : h.HasSameClock (c.host side))
    (hSent :
      (h.records (mirror.key side)).inFlight =
        (mirror.records side c).inFlight) :
    mirror.Stays start (c.replace side h) where
  clock := by
    intro s
    rcases Side.eq_or_eq_other s side with rfl | rfl
    · rw [Chains.host_replace_self]
      exact (hStays.clock s).trans hClock
    · rw [Chains.host_replace_other]
      exact hStays.clock side.other
  inFlight := by
    intro s
    rcases Side.eq_or_eq_other s side with rfl | rfl
    · rw [records, Chains.host_replace_self, hSent]
      exact hStays.inFlight s
    · rw [records, Chains.host_replace_other]
      exact hStays.inFlight side.other

/-
  Chains that a relayer leads to: nothing happens but messages,
  and that a chain is told how the other one is.
-/
inductive Relayed
    (mirror : Mirror)
    (hash : Hash)
    (start : Chains) :
    Chains → Prop
  | start : Relayed mirror hash start start
  | tell
      {c : Chains}
      (side : Side)
      (hRelayed : Relayed mirror hash start c) :
      Relayed mirror hash start
        (c.replace side (mirror.informed hash side c))
  | dispatch
      {c : Chains}
      (side : Side)
      (m : UpgradeMessage)
      (hRelayed : Relayed mirror hash start c) :
      Relayed mirror hash start
        (c.replace side ((c.host side).dispatch m).2)

/- A message to a chain that was just told. -/
theorem Relayed.after
    (hRelayed : mirror.Relayed hash start c)
    (side : Side)
    (m : UpgradeMessage) :
    mirror.Relayed hash start (mirror.after hash side c m) := by
  have hTold := (hRelayed.tell side).dispatch side m
  rw [Chains.host_replace_self, Chains.replace_replace] at hTold
  exact hTold

/- A relayer sets no clock. -/
theorem Relayed.stays
    (hRelayed : mirror.Relayed hash start c) :
    mirror.Stays start c := by
  induction hRelayed with
  | start => exact .refl mirror start
  | tell side _ ih =>
      exact ih.replace ⟨rfl, rfl, rfl⟩ rfl
  | @dispatch c side m _ ih =>
      have hSame := (c.host side).hasSameSetting_dispatch m
      exact ih.replace
        ⟨hSame.height, hSame.timestamp, hSame.params⟩
        (Host.inFlight_dispatch _ m _)

/- What a relayer does are steps of a run. -/
theorem Relayed.exists_run
    (link : Link hash)
    (hRelayed : mirror.Relayed hash link.start c) :
    ∃ past, link.Run Action.IsOrdinary (c :: past) := by
  induction hRelayed with
  | start => exact ⟨[], .start⟩
  | tell side _ ih =>
      rcases ih with ⟨past, hRun⟩
      exact ⟨_, hRun.inform mirror side⟩
  | dispatch side m _ ih =>
      rcases ih with ⟨past, hRun⟩
      exact ⟨_, hRun.dispatch side m⟩

/- A chain that sets a deadline now set the same one before. -/
theorem Stays.deadline_eq
    {deadline : UpgradeTimeout}
    {s : Side}
    (hStays : mirror.Stays start c)
    (hDeadline :
      (start.host s).params.deadline (start.host s).height
        (start.host s).timestamp = .ok deadline) :
    (c.host s).params.deadline (c.host s).height
      (c.host s).timestamp = .ok deadline := by
  have hClock := hStays.clock s
  rw [hClock.params, hClock.height, hClock.timestamp]
  exact hDeadline

/- A deadline that lay ahead lies ahead still. -/
theorem Stays.hasRunOut_eq
    {deadline : UpgradeTimeout}
    {s : Side}
    {v : Upgrade}
    (hStays : mirror.Stays start c)
    (hTimeout : v.timeout = some deadline)
    (hAhead :
      deadline.hasElapsed (start.host s).height
        (start.host s).timestamp = false) :
    v.hasRunOut (c.host s).height (c.host s).timestamp =
      false := by
  have hClock := hStays.clock s
  rw [Upgrade.hasRunOut, hTimeout, hClock.height,
    hClock.timestamp]
  exact hAhead

/- An answer, with the deadline that the other chain sets. -/
theorem Starts.exists_answered
    {deadline : UpgradeTimeout}
    (hStarts : mirror.Starts hash side p timeout a b start)
    (hDeadline :
      (start.host side.other).params.deadline
          (start.host side.other).height
          (start.host side.other).timestamp =
        .ok deadline)
    (signer : Signer) :
    ∃ c v,
      mirror.Course hash side p timeout start .answered c ∧
        mirror.Relayed hash start c ∧
        v.timeout = some deadline ∧
        (mirror.records side.other c).upgrade? = some v := by
  have hCourse :
      mirror.Course hash side p timeout start .proposed
        (mirror.proposing side start signer p timeout) :=
    .propose signer .start
  have hRelayed :
      mirror.Relayed hash start
        (mirror.proposing side start signer p timeout) :=
    .dispatch side _ .start
  have hSets := hRelayed.stays.deadline_eq hDeadline
  rcases (hCourse.isAt hStarts).answers hStarts hSets signer
    with ⟨_, _, v, hTimeout, hUpgrade⟩
  exact ⟨_, v, .answer signer hCourse ⟨_, hSets⟩,
    hRelayed.after side.other _, hTimeout, hUpgrade⟩

/- An acknowledgement, with the deadlines that both set. -/
theorem Starts.exists_acknowledged
    {d : Side → UpgradeTimeout}
    (hStarts : mirror.Starts hash side p timeout a b start)
    (hDeadline :
      ∀ s,
        (start.host s).params.deadline (start.host s).height
          (start.host s).timestamp = .ok (d s))
    (hAhead :
      (d side.other).hasElapsed (start.host side).height
        (start.host side).timestamp = false)
    (signer : Signer) :
    ∃ c u v,
      mirror.Course hash side p timeout start .acknowledged c ∧
        mirror.Relayed hash start c ∧
        u.timeout = some (d side) ∧
        v.timeout = some (d side.other) ∧
        (mirror.records side c).Drains
          (mirror.endAt side .flushing a.next) u v := by
  rcases
      hStarts.exists_answered (hDeadline side.other) signer with
    ⟨c, v, hCourse, hRelayed, hTimeout, hUpgrade⟩
  have hSets := hRelayed.stays.deadline_eq (hDeadline side)
  have hLasts := hRelayed.stays.hasRunOut_eq hTimeout hAhead
  rcases
      (hCourse.isAt hStarts).acknowledges hUpgrade hSets hLasts
        signer with
    ⟨_, _, u, hOwn, hDrains⟩
  exact ⟨_, u, v,
    .acknowledge signer hCourse hUpgrade ⟨_, hSets⟩ hLasts,
    hRelayed.after side _, hOwn, hTimeout, hDrains⟩

/-
  A relayer leads two chains that can set deadlines, each ahead
  of the other chain's clock, to a confirmation.  The end that
  proposed then only waits for its packets, and both ends have
  learnt of each other in time.
-/
theorem Starts.exists_course
    {d : Side → UpgradeTimeout}
    (hStarts : mirror.Starts hash side p timeout a b start)
    (hDeadline :
      ∀ s,
        (start.host s).params.deadline (start.host s).height
          (start.host s).timestamp = .ok (d s))
    (hAhead :
      ∀ s,
        (d s.other).hasElapsed (start.host s).height
          (start.host s).timestamp = false)
    (signer : Signer) :
    ∃ c,
      mirror.Course hash side p timeout start .confirmed c ∧
        mirror.Relayed hash start c ∧
        mirror.Empties side c p a.next ∧
        ∀ s, (c.host s).KnowsAhead (mirror.key s) := by
  rcases
      hStarts.exists_acknowledged hDeadline (hAhead side) signer
    with ⟨c, u, v, hCourse, hRelayed, hOwn, hTimeout, hDrains⟩
  have hPeerAhead := hAhead side.other
  rw [Side.other_other] at hPeerAhead
  have hLasts := hRelayed.stays.hasRunOut_eq hOwn hPeerAhead
  rcases
      (hCourse.isAt hStarts).confirms hDrains.upgrade hLasts
        signer with
    ⟨_, _, hConfirmed⟩
  have hAfter := hRelayed.after side.other
    (.confirm
      (mirror.confirmMessage hash side.other c signer u))
  have hEmpties : mirror.Empties side c p a.next := by
    cases (hCourse.isAt hStarts).arrives with
    | acknowledged hEmpties _ _ => exact hEmpties
  refine ⟨_, .confirm signer hCourse hDrains.upgrade hLasts,
    hAfter,
    hEmpties.rests (.of_eq (records_after_of_other ..)),
    fun s => ?_⟩
  rcases Side.eq_or_eq_other s side with rfl | rfl
  · refine
      Host.knowsAhead_of_drains (u := u)
        (c := mirror.endAt s .flushing a.next) ?_
        (hAfter.stays.hasRunOut_eq hTimeout (hAhead s))
    rw [host_after_of_other]
    exact hDrains
  · rcases hConfirmed with ⟨w, hDrains'⟩ | hFinished
    · exact Host.knowsAhead_of_drains hDrains'
        (hAfter.stays.hasRunOut_eq hOwn hPeerAhead)
    · intro hState
      have hOpen := congrArg ChannelEnd.state
        hFinished.stands.channel
      exact absurd (hState.symm.trans hOpen) (by simp [endAt])

end Mirror

end Interchain

------------------------------------------------------------
-- Completion
------------------------------------------------------------

namespace Interchain

namespace Mirror

/- An end opens, unless it is open already. -/
inductive Opening
    (mirror : Mirror)
    (hash : Hash)
    (side : Side)
    (signer : Signer)
    (c : Chains) :
    Chains → Prop
  | already
      (hState : (mirror.records side c).channel.state = .open) :
      Opening mirror hash side signer c c
  | opens
      (hSucceeds :
        Succeeds
          (mirror.answer hash side c
            (.reopen
              (mirror.openMessage hash side c signer)))) :
      Opening mirror hash side signer c
        (mirror.after hash side c
          (.reopen (mirror.openMessage hash side c signer)))

/-
  Every message of the handshake succeeds when its turn has
  come, on every course that leads there.  Once both ends have
  learnt of each other and nothing is in flight, they open in
  either order, and are left with the fields of the proposal at
  the attempt, and nothing else.
-/
structure Completes
    (mirror : Mirror)
    (hash : Hash)
    (side : Side)
    (p : Proposal)
    (timeout : Option UpgradeTimeout)
    (n : Sequence)
    (start : Chains) : Prop where
  proposes :
    ∀ c signer,
      mirror.Course hash side p timeout start .idle c →
      Succeeds
        ((c.host side).dispatch
          (.init
            (mirror.initMessage side signer p timeout))).1
  answers :
    ∀ c signer,
      mirror.Course hash side p timeout start .proposed c →
      (c.host side.other).SetsDeadline →
      Succeeds
        (mirror.answer hash side.other c
          (.attempt
            (mirror.answering hash side.other c signer p
              timeout)))
  acknowledges :
    ∀ c signer,
      mirror.Course hash side p timeout start .answered c →
      (c.host side).SetsDeadline →
      ∃ v,
        (mirror.records side.other c).upgrade? = some v ∧
          (v.hasRunOut (c.host side).height
              (c.host side).timestamp = false →
            Succeeds
              (mirror.answer hash side c
                (.ack
                  (mirror.ackMessage hash side c signer v))))
  confirms :
    ∀ c signer,
      mirror.Course hash side p timeout start .acknowledged c →
      ∃ u,
        (mirror.records side c).upgrade? = some u ∧
          (u.hasRunOut (c.host side.other).height
              (c.host side.other).timestamp = false →
            Succeeds
              (mirror.answer hash side.other c
                (.confirm
                  (mirror.confirmMessage hash side.other c
                    signer u))))
  opens :
    ∀ c first s₁ s₂,
      mirror.Course hash side p timeout start .confirmed c →
      (∀ s, (mirror.records s c).inFlight = ∅) →
      ∃ c₁ c₂,
        mirror.Opening hash first s₁ c c₁ ∧
          mirror.Opening hash first.other s₂ c₁ c₂ ∧
          ∀ s, (p.upgraded mirror).Finished s c₂ n

variable {mirror : Mirror} {hash : Hash} {c start : Chains}
variable {side s : Side} {p : Proposal} {a b : Sequence}
variable {timeout : Option UpgradeTimeout}

/- With nothing in flight, an end that is not open opens. -/
theorem IsAt.finishes
    (hAt : mirror.IsAt hash side p timeout a b .confirmed c)
    (hEmpty : ∀ s, (mirror.records s c).inFlight = ∅)
    (s : Side)
    (signer : Signer) :
    ∃ c',
      mirror.Opening hash s signer c c' ∧
        (p.upgraded mirror).Finished s c' a.next ∧
        c'.host s.other = c.host s.other ∧
        (∀ s, (mirror.records s c').inFlight = ∅) ∧
        mirror.IsAt hash side p timeout a b .confirmed c' := by
  cases hAt.arrives with
  | confirmed hEnds =>
      rcases hEnds s with hEmpties | hFinished
      · rcases hEmpties.done (hEmpty s) with ⟨u, _, hStands⟩
        have hPeer :
            (mirror.records s.other c).channel.state ≠
              .flushing := by
          rcases hEnds s.other with hEmpties' | hFinished
          · rcases hEmpties'.done (hEmpty s.other) with
              ⟨v, _, hDone⟩
            rw [hDone.channel]
            simp [endAt]
          · have hOpen :
                (mirror.records s.other c).channel.state =
                  .open :=
              congrArg ChannelEnd.state hFinished.stands.channel
            rw [hOpen]
            simp
        have hDone :=
          hAt.opens (by rw [hStands.channel]; rfl) hPeer signer
        have hRelayed :
            mirror.Relayed hash c
              (mirror.after hash s c
                (.reopen
                  (mirror.openMessage hash s c signer))) :=
          Relayed.start.after s _
        exact ⟨_, .opens hDone.1, hDone.2.1,
          host_after_other ..,
          fun t => (hRelayed.stays.inFlight t).trans (hEmpty t),
          hDone.2.2⟩
      · exact ⟨c,
          .already
            (congrArg ChannelEnd.state hFinished.stands.channel),
          hFinished, rfl, hEmpty, hAt⟩

/- A handshake whose ends can take up the proposal goes through,
   with the attempt after the one that it started from. -/
theorem handshake_completes
    (hStarts : mirror.Starts hash side p timeout a b start) :
    mirror.Completes hash side p timeout a.next start where
  proposes := by
    intro c signer hCourse
    exact ((hCourse.isAt hStarts).proposes hStarts signer).1
  answers := by
    intro c signer hCourse hDeadline
    rcases hDeadline with ⟨deadline, hDeadline⟩
    exact
      ((hCourse.isAt hStarts).answers hStarts hDeadline
        signer).1
  acknowledges := by
    intro c signer hCourse hDeadline
    rcases hDeadline with ⟨deadline, hDeadline⟩
    have hAt := hCourse.isAt hStarts
    cases hAt.arrives with
    | @answered v _ _ hPeer =>
        exact ⟨v, hPeer.stands.upgrade, fun hAhead =>
          (hAt.acknowledges hPeer.stands.upgrade hDeadline
            hAhead signer).1⟩
  confirms := by
    intro c signer hCourse
    have hAt := hCourse.isAt hStarts
    cases hAt.arrives with
    | acknowledged hOwn _ _ =>
        rcases hOwn.stands with ⟨_, u, _, _, hStands⟩
        exact ⟨u, hStands.upgrade, fun hAhead =>
          (hAt.confirms hStands.upgrade hAhead signer).1⟩
  opens := by
    intro c first s₁ s₂ hCourse hEmpty
    have hAt := hCourse.isAt hStarts
    rcases hAt.finishes hEmpty first s₁ with
      ⟨c₁, hFirst, hFinished, _, hEmpty₁, hAt₁⟩
    rcases hAt₁.finishes hEmpty₁ first.other s₂ with
      ⟨c₂, hSecond, hFinished₂, hHost, _⟩
    rw [Side.other_other] at hHost
    refine ⟨c₁, c₂, hFirst, hSecond, fun s => ?_⟩
    rcases Side.eq_or_eq_other s first with rfl | rfl
    · refine hFinished.rests (.of_eq ?_)
      rw [records, hHost, records]
    · exact hFinished₂

end Mirror

end Interchain

------------------------------------------------------------
-- Sample Chains
------------------------------------------------------------

namespace Interchain

namespace Fixture

/- The sample chains, each with a packet in flight. -/
def laden (hash : Hash) : Chains :=
  arranged hash fun side =>
    [ .commitment ⟨key side, ⟨1⟩⟩ ⟨[]⟩,
      .nextSequence (key side) ⟨2⟩ ]

/- Each end is open, with a packet in flight. -/
theorem records_laden (hash : Hash) (side : Side) :
    mirror.records side (laden hash) =
      { channel := mirror.endAt side .open .zero
        upgrade? := none
        counterparty? := none
        receipt? := none
        inFlight := {⟨1⟩}
        next? := some ⟨2⟩ } := by
  rw [laden, records_arranged]
  simp [records_host]

theorem standsAlone_laden (hash : Hash) (side : Side) :
    mirror.StandsAlone side (laden hash) .open .zero none := by
  refine ⟨⟨?_, ?_⟩, ?_, ?_⟩ <;> rw [records_laden]
  rfl

/- A can start the handshake. -/
theorem starts_laden (hash : Hash) :
    mirror.Starts hash .left proposal none .zero .zero
      (laden hash) where
  joins := joins_arranged hash _
  offered := isOffered_arranged hash _
  change := changes_mirror .left
  isValid := rfl
  own := standsAlone_laden hash .left
  peer := standsAlone_laden hash .right
  ahead := le_refl _
  limit := by decide

/- The chains once their packets are resolved. -/
def resolved (hash : Hash) (c : Chains) : Chains :=
  (c.replace .left
      ((c.host .left).perform hash
        (.resolve ⟨key .left, ⟨1⟩⟩))).replace .right
    ((c.host .right).perform hash
      (.resolve ⟨key .right, ⟨1⟩⟩))

/- On each chain, its packet is resolved. -/
theorem host_resolved
    (hash : Hash)
    (c : Chains)
    (side : Side) :
    (resolved hash c).host side =
      (c.host side).perform hash (.resolve ⟨key side, ⟨1⟩⟩) := by
  cases side <;> rfl

/- A relayer leads the chains to a confirmation, with a packet
   in flight on each.  Then both packets can be resolved. -/
theorem exists_resolved (hash : Hash) :
    ∃ c,
      mirror.Relayed hash (laden hash) c ∧
        mirror.Course hash .left proposal none (laden hash)
          .confirmed (resolved hash c) ∧
        mirror.Empties .left (resolved hash c) proposal
          Sequence.zero.next ∧
        ∀ side,
          (mirror.records side (resolved hash c)).inFlight =
            ∅ := by
  have hAhead (side : Side) :
      sampleDeadline.hasElapsed
          ((laden hash).host side).height
          ((laden hash).host side).timestamp = false := by
    have hSame := hasSameSetting_arranged hash
      (fun side =>
        [ .commitment ⟨key side, ⟨1⟩⟩ ⟨[]⟩,
          .nextSequence (key side) ⟨2⟩ ]) side
    rw [laden, hSame.height, hSame.timestamp]
    exact hasElapsed_sampleDeadline hash side
  rcases
      (starts_laden hash).exists_course
        (fun side => setsDeadline_arranged hash _ side) hAhead
        signer with
    ⟨c, hCourse, hRelayed, hEmpties, hKnows⟩
  have hFirst :=
    Mirror.Course.rest .left (.resolve ⟨key .left, ⟨1⟩⟩)
      hCourse fun _ => hKnows .left
  have hSecond :=
    Mirror.Course.rest .right (.resolve ⟨key .right, ⟨1⟩⟩)
      hFirst fun _ => hKnows .right
  have hRests (side : Side) :
      (mirror.records side c).Rests
        (mirror.records side (resolved hash c)) := by
    rw [Mirror.records, Mirror.records, host_resolved]
    exact Host.rests_perform hash _ _ fun _ => hKnows side
  refine ⟨c, hRelayed, hSecond, hEmpties.rests (hRests .left),
    fun side => ?_⟩
  -- each packet is the only one of its channel
  have hSent :
      (mirror.records side c).inFlight = {⟨1⟩} :=
    (hRelayed.stays.inFlight side).trans
      (congrArg Records.inFlight (records_laden hash side))
  rw [Mirror.records, host_resolved]
  exact Host.resolves_last (hKnows side) hSent

/- Both chains resolve their packets once they have learnt of
   each other, and then open. -/
theorem sample_handshake_completes :
    mirror.Starts id .left proposal none .zero .zero
        (laden id) ∧
      (∀ side,
        (mirror.records side (laden id)).inFlight = {⟨1⟩}) ∧
      ∃ c,
        mirror.Course id .left proposal none (laden id)
            .confirmed c ∧
          (∀ side, (mirror.records side c).inFlight = ∅) ∧
          ∃ c₁ c₂,
            mirror.Opening id .left signer c c₁ ∧
              mirror.Opening id .right signer c₁ c₂ ∧
              ∀ side,
                (proposal.upgraded mirror).Finished side c₂
                  Sequence.zero.next := by
  have hStarts := starts_laden id
  rcases exists_resolved id with ⟨c, _, hCourse, _, hEmpty⟩
  rcases
      (Mirror.handshake_completes hStarts).opens _ .left signer
        signer hCourse hEmpty with
    ⟨c₁, c₂, hOpens, hFinished⟩
  exact
    ⟨hStarts,
      fun side => congrArg Records.inFlight (records_laden id side),
      _, hCourse, hEmpty, c₁, c₂, hOpens, hFinished⟩

end Fixture

end Interchain
