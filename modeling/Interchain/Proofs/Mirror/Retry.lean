import Interchain.Proofs.Mirror.Proposal
import Mathlib.Logic.Relation

/-
  Retrying a proposal that was stale.

  A proposal whose attempt lies behind the one that the other
  end answers at is given up there, and then cancelled by the
  end that made it.  The receipt is for the attempt before the
  other end's, so the end that retries has not caught up: it is
  one attempt behind, and its next proposal is stale again, in
  every further round.  It is answered once the end has proposed
  twice in a row.

  Main declarations:
    * `Mirror.proposing`
    * `Mirror.StaleRound`
    * `Mirror.GaveWay`

  Main statements:
    * `Mirror.Stands.proposes`
    * `Mirror.StaleRound.trails`
    * `Mirror.stale_rounds_trail`
    * `Fixture.sample_stale_again`
-/

------------------------------------------------------------
-- Proposing
------------------------------------------------------------

namespace Interchain

namespace Mirror

/- The message that makes a proposal. -/
def initMessage
    (mirror : Mirror)
    (side : Side)
    (signer : Signer)
    (p : Proposal)
    (timeout : Option UpgradeTimeout) :
    InitMessage where
  key := mirror.key side
  fields := p.fields side
  timeout := timeout
  signer := signer

/- The chains once an end was asked to make a proposal. -/
def proposing
    (mirror : Mirror)
    (side : Side)
    (c : Chains)
    (signer : Signer)
    (p : Proposal)
    (timeout : Option UpgradeTimeout) :
    Chains :=
  c.replace side
    ((c.host side).dispatch
      (.init (mirror.initMessage side signer p timeout))).2

variable {mirror : Mirror} {hash : Hash} {c : Chains}
variable {side : Side} {p : Proposal} {n : Sequence}
variable {u? : Option Upgrade} {timeout : Option UpgradeTimeout}

/- An open end makes a proposal that its chain supports, also in
   place of one that it has. -/
theorem Stands.proposes
    (hStands : mirror.Stands side c .open n u?)
    (hOffered : p.IsOffered c)
    (hChange :
      (mirror.endAt side .open .zero).fields ≠ p.fields side)
    (hTimeout : validateOptionalTimeout timeout = .ok ())
    (signer : Signer) :
    Succeeds
        ((c.host side).dispatch
          (.init
            (mirror.initMessage side signer p timeout))).1 ∧
      mirror.records side
          (mirror.proposing side c signer p timeout) =
        { mirror.records side c with
          channel := mirror.endAt side .open n.next
          upgrade? := some (p.proposed side timeout) } := by
  have hValid :
      (UpgradeMessage.init
        (mirror.initMessage side signer p timeout)).validate =
          .ok () := by
    simp [UpgradeMessage.validate, InitMessage.validate,
      initMessage, p.validate_fields, hTimeout]
  have hDone :=
    Host.dispatch_init_succeeds hValid
      (hStands.channels (by simp))
      (Host.propose_ok (c := mirror.endAt side .open n)
        (mirror.key side) rfl (p.validate_fields side) hChange
        (hOffered.checkSupport side) timeout)
  refine ⟨hDone.1, ?_⟩
  rw [records, proposing, Chains.host_replace_self]
  exact hDone.2

/- What is left of an end by its proposal. -/
theorem Stands.proposing
    (hStands : mirror.Stands side c .open n u?)
    (hOffered : p.IsOffered c)
    (hChange :
      (mirror.endAt side .open .zero).fields ≠ p.fields side)
    (hTimeout : validateOptionalTimeout timeout = .ok ())
    (signer : Signer) :
    mirror.Stands side
      (mirror.proposing side c signer p timeout) .open n.next
      (some (p.proposed side timeout)) := by
  have hRecords :=
    (hStands.proposes hOffered hChange hTimeout signer).2
  exact ⟨by rw [hRecords], by rw [hRecords]⟩

/- A proposal does not touch the other chain. -/
@[simp] theorem host_proposing_other (signer : Signer) :
    (mirror.proposing side c signer p timeout).host side.other =
      c.host side.other := by
  rw [proposing, Chains.host_replace_other]

@[simp] theorem host_proposing_of_other (signer : Signer) :
    (mirror.proposing side.other c signer p timeout).host side =
      c.host side := by
  rw [proposing, Chains.host_replace_of_other]

/- The ends are joined after a proposal. -/
theorem Joins.proposing
    (hJoins : mirror.Joins hash c)
    (signer : Signer) :
    mirror.Joins hash
      (mirror.proposing side c signer p timeout) :=
  hJoins.replace
    ((c.host side).hasSameSetting_dispatch _).links.1

theorem Proposal.IsOffered.proposing
    (hOffered : p.IsOffered c)
    (signer : Signer) :
    p.IsOffered (mirror.proposing side c signer p timeout) :=
  hOffered.replace
    ((c.host side).hasSameSetting_dispatch _).links.1

/- A proposal leaves both ends able to flush. -/
theorem CanFlush.proposing
    (hCan : ∀ side, mirror.CanFlush side c)
    (hStands : mirror.Stands side c .open n u?)
    (hOffered : p.IsOffered c)
    (hChange :
      (mirror.endAt side .open .zero).fields ≠ p.fields side)
    (hTimeout : validateOptionalTimeout timeout = .ok ())
    (signer : Signer)
    (other : Side) :
    mirror.CanFlush other
      (mirror.proposing side c signer p timeout) := by
  have hRecords :=
    (hStands.proposes hOffered hChange hTimeout signer).2
  rw [records, Mirror.proposing, Chains.host_replace_self]
    at hRecords
  have hSame :=
    (c.host side).hasSameSetting_dispatch
      (.init (mirror.initMessage side signer p timeout))
  have hNext := congrArg Records.next? hRecords
  exact CanFlush.replace hCan
    ⟨hSame.height, hSame.timestamp, hSame.params⟩ hNext other

end Mirror

end Interchain

------------------------------------------------------------
-- Stale Rounds
------------------------------------------------------------

namespace Interchain

namespace Mirror

/-
  The end on one side makes a proposal that lies behind; the
  other end gives its answer up; and the first one cancels on
  the receipt that it is shown for that.
-/
inductive StaleRound
    (mirror : Mirror)
    (hash : Hash)
    (side : Side)
    (p : Proposal)
    (c : Chains) :
    Chains → Prop
  | round
      {timeout : Option UpgradeTimeout}
      {n q : Sequence}
      {receipt : ErrorReceipt}
      {proposed answered : Chains}
      (s₁ s₂ s₃ : Signer)
      (hTimeout : validateOptionalTimeout timeout = .ok ())
      (hInit :
        Succeeds
          ((c.host side).dispatch
            (.init (mirror.initMessage side s₁ p timeout))).1)
      (hProposed :
        proposed = mirror.proposing side c s₁ p timeout)
      (hOwn : n = (mirror.records side proposed).attempt)
      (hPeer :
        q =
          answerAttempt
            (mirror.records side.other proposed).upgrade?
            (mirror.records side.other proposed).attempt)
      (hBehind : n < q)
      (hStale :
        IsStaleAnswer
          (mirror.answer hash side.other proposed
            (.attempt
              (mirror.answering hash side.other proposed s₂ p
                timeout))) q n)
      (hAnswered :
        answered =
          mirror.after hash side.other proposed
            (.attempt
              (mirror.answering hash side.other proposed s₂ p
                timeout)))
      (hReceipt :
        (mirror.records side.other answered).receipt? =
          some receipt)
      (hCancel :
        Succeeds
          (mirror.answer hash side answered
            (.cancel
              (mirror.cancelMessage hash side answered s₃
                receipt)))) :
      StaleRound mirror hash side p c
        (mirror.after hash side answered
          (.cancel
            (mirror.cancelMessage hash side answered s₃
              receipt)))

/- The chains can take up a proposal, and both ends are open:
   the one on the side without a proposal, and the other one
   without a proposal or with the one that answers. -/
structure Awaits
    (mirror : Mirror)
    (hash : Hash)
    (side : Side)
    (p : Proposal)
    (c : Chains)
    (a b : Sequence)
    (other? : Option Upgrade) : Prop where
  joins : mirror.Joins hash c
  offered : p.IsOffered c
  change :
    (mirror.endAt side .open .zero).fields ≠ p.fields side
  own : mirror.Stands side c .open a none
  peer : mirror.Stands side.other c .open b other?
  answers :
    ∀ u, other? = some u → u.fields = p.fields side.other
  flushes : ∀ side, mirror.CanFlush side c

variable {mirror : Mirror} {hash : Hash} {c c' : Chains}
variable {side : Side} {p : Proposal} {a b n : Sequence}
variable {other? : Option Upgrade}
variable {timeout : Option UpgradeTimeout}

/- Once the end has made its proposal, the other one can
   answer. -/
theorem Awaits.meets
    {u? : Option Upgrade}
    (hAwaits : mirror.Awaits hash side p c a b other?)
    (hOwn : mirror.Stands side c' .open n u?)
    (hPeer : mirror.Stands side.other c' .open b other?)
    (hJoins : mirror.Joins hash c')
    (hOffered : p.IsOffered c')
    (hTimeout : validateOptionalTimeout timeout = .ok ())
    (signer : Signer) :
    mirror.Meets hash side.other
      (mirror.proposing side c' signer p timeout) p timeout b
      n.next other? where
  joins := hJoins.proposing signer
  offered := hOffered.proposing signer
  change :=
    hAwaits.offered.changes_other hAwaits.joins hAwaits.change
  isValid := hTimeout
  own := hPeer.of_host_eq (host_proposing_other signer)
  peer := by
    rw [Side.other_other]
    exact
      hOwn.proposing hOffered hAwaits.change hTimeout signer

/- The chains once a stale proposal was put to the other end: the
   proposal stands, and the other end gave its answer up for a
   receipt. -/
structure GaveWay
    (mirror : Mirror)
    (hash : Hash)
    (side : Side)
    (p : Proposal)
    (timeout : Option UpgradeTimeout)
    (n q : Sequence)
    (c : Chains) : Prop where
  joins : mirror.Joins hash c
  offered : p.IsOffered c
  own :
    mirror.Stands side c .open n
      (some (p.proposed side timeout))
  peer : mirror.Stands side.other c .open q none
  receipt :
    (mirror.records side.other c).receipt? =
      some (staleError q n).receipt
  flushes : ∀ s, mirror.CanFlush s c

/- A proposal that lies behind makes the other end give up. -/
theorem Awaits.gives_way
    (hAwaits : mirror.Awaits hash side p c a b other?)
    (hBehind : a.next < answerAttempt other? b)
    (hTimeout : validateOptionalTimeout timeout = .ok ())
    (s₁ s₂ : Signer) :
    IsStaleAnswer
        (mirror.answer hash side.other
          (mirror.proposing side c s₁ p timeout)
          (.attempt
            (mirror.answering hash side.other
              (mirror.proposing side c s₁ p timeout) s₂ p
              timeout)))
        (answerAttempt other? b) a.next ∧
      mirror.GaveWay hash side p timeout a.next
        (answerAttempt other? b)
        (mirror.after hash side.other
          (mirror.proposing side c s₁ p timeout)
          (.attempt
            (mirror.answering hash side.other
              (mirror.proposing side c s₁ p timeout) s₂ p
              timeout))) := by
  have hMeets :=
    hAwaits.meets hAwaits.own hAwaits.peer hAwaits.joins
      hAwaits.offered hTimeout s₁
  have hOwn :=
    hAwaits.own.proposing hAwaits.offered hAwaits.change hTimeout
      s₁
  have hFlushes :=
    CanFlush.proposing hAwaits.flushes hAwaits.own
      hAwaits.offered hAwaits.change hTimeout s₁
  rcases hMeets.is_stale s₂ hAwaits.answers hBehind with
    ⟨hStale, hRecords⟩
  have hSends := congrArg Records.next? hRecords
  refine ⟨hStale, ?_⟩
  exact {
    joins := hMeets.joins.after side.other _
    offered := hMeets.offered.after side.other _
    own := hOwn.of_host_eq (host_after_of_other ..)
    peer := hMeets.own.restored hRecords
    receipt := congrArg Records.receipt? hRecords
    flushes := CanFlush.after hFlushes hSends }

/- The receipt is for the attempt before, and cancels the
   proposal. -/
theorem GaveWay.cancels
    {q : Sequence}
    (hGaveWay : mirror.GaveWay hash side p timeout n q c)
    (hChange :
      (mirror.endAt side .open .zero).fields ≠ p.fields side)
    (hBehind : n < q)
    (signer : Signer) :
    Succeeds
        (mirror.answer hash side c
          (.cancel
            (mirror.cancelMessage hash side c signer
              (staleError q n).receipt))) ∧
      mirror.Awaits hash side p
        (mirror.after hash side c
          (.cancel
            (mirror.cancelMessage hash side c signer
              (staleError q n).receipt)))
        q.previous q.previous.next none := by
  rcases
      hGaveWay.joins.cancels hGaveWay.own (by simp)
        hGaveWay.receipt (Sequence.le_previous_of_lt hBehind)
        signer with
    ⟨hSucceeds, hRecords⟩
  have hSends := congrArg Records.next? hRecords
  refine ⟨hSucceeds, ?_⟩
  exact {
    joins := hGaveWay.joins.after side _
    offered := hGaveWay.offered.after side _
    change := hChange
    own := hGaveWay.own.restored hRecords
    peer := by
      rw [Sequence.next_previous hBehind]
      exact hGaveWay.peer.of_host_eq (host_after_other ..)
    answers := by simp
    flushes := CanFlush.after hGaveWay.flushes hSends }

/- So there is a round that ends without an upgrade. -/
theorem Awaits.exists_round
    (hAwaits : mirror.Awaits hash side p c a b other?)
    (hBehind : a.next < answerAttempt other? b) :
    ∃ c', mirror.StaleRound hash side p c c' := by
  have hTimeout : validateOptionalTimeout none = .ok () := rfl
  have hInit :=
    hAwaits.own.proposes hAwaits.offered hAwaits.change hTimeout
      ⟨""⟩
  have hOwn :=
    hAwaits.own.proposing hAwaits.offered hAwaits.change hTimeout
      ⟨""⟩
  have hPeer :
      mirror.Stands side.other
        (mirror.proposing side c ⟨""⟩ p none) .open b other? :=
    hAwaits.peer.of_host_eq (host_proposing_other ⟨""⟩)
  rcases hAwaits.gives_way hBehind hTimeout ⟨""⟩ ⟨""⟩ with
    ⟨hStale, hGaveWay⟩
  have hCancel :=
    hGaveWay.cancels hAwaits.change hBehind ⟨""⟩
  refine ⟨_, .round ⟨""⟩ ⟨""⟩ ⟨""⟩ hTimeout hInit.1 rfl
    hOwn.attempt.symm ?_ hBehind hStale rfl hGaveWay.receipt
    hCancel.1⟩
  rw [hPeer.upgrade, hPeer.attempt]

/-
  After a stale round the end that retries is exactly one
  attempt behind the one that the other end answered at, and
  neither has a proposal.
-/
theorem StaleRound.trails
    (hRound : mirror.StaleRound hash side p c c')
    (hAwaits : mirror.Awaits hash side p c a b other?) :
    ∃ q,
      q.next = answerAttempt other? b ∧
        mirror.Awaits hash side p c' q q.next none := by
  cases hRound with
  | @round timeout n q receipt proposed answered s₁ s₂ s₃
      hTimeout hInit hProposed hOwn hPeer hBehind hStale
      hAnswered hReceipt hCancel =>
      subst hProposed hAnswered
      have hEnd :=
        hAwaits.own.proposing hAwaits.offered hAwaits.change
          hTimeout s₁
      have hOther :
          mirror.Stands side.other
            (mirror.proposing side c s₁ p timeout) .open b
            other? :=
        hAwaits.peer.of_host_eq (host_proposing_other s₁)
      rw [hEnd.attempt] at hOwn
      rw [hOther.upgrade, hOther.attempt] at hPeer
      subst hOwn hPeer
      have hGaveWay :=
        (hAwaits.gives_way hBehind hTimeout s₁ s₂).2
      have hSame :
          (staleError (answerAttempt other? b)
            a.next).receipt = receipt :=
        Option.some.inj (hGaveWay.receipt.symm.trans hReceipt)
      subst hSame
      exact
        ⟨(answerAttempt other? b).previous,
          Sequence.next_previous hBehind,
          (hGaveWay.cancels hAwaits.change hBehind s₃).2⟩

end Mirror

end Interchain

------------------------------------------------------------
-- Falling Behind
------------------------------------------------------------

namespace Interchain

namespace Mirror

variable {mirror : Mirror} {hash : Hash} {c c' : Chains}
variable {side : Side} {p : Proposal} {a b q : Sequence}
variable {other? : Option Upgrade}
variable {timeout : Option UpgradeTimeout}

/- Any number of stale rounds ends like the last one. -/
theorem Awaits.trails
    (hAwaits : mirror.Awaits hash side p c a b other?)
    (hRounds :
      Relation.TransGen (mirror.StaleRound hash side p) c c') :
    ∃ q, mirror.Awaits hash side p c' q q.next none := by
  induction hRounds with
  | single hRound =>
      rcases hRound.trails hAwaits with ⟨q, _, hTrails⟩
      exact ⟨q, hTrails⟩
  | tail _ hRound ih =>
      rcases ih with ⟨q, hAwaits⟩
      rcases hRound.trails hAwaits with ⟨q', _, hTrails⟩
      exact ⟨q', hTrails⟩

/- An end that is one attempt behind makes a stale proposal. -/
theorem Awaits.is_stale_again
    (hAwaits : mirror.Awaits hash side p c q q.next none)
    (hLimit : q.next.number ≠ Word.greatest)
    (hTimeout : validateOptionalTimeout timeout = .ok ())
    (s₁ s₂ : Signer) :
    IsStaleAnswer
      (mirror.answer hash side.other
        (mirror.proposing side c s₁ p timeout)
        (.attempt
          (mirror.answering hash side.other
            (mirror.proposing side c s₁ p timeout) s₂ p
            timeout)))
      q.next.next q.next := by
  have hMeets :=
    hAwaits.meets hAwaits.own hAwaits.peer hAwaits.joins
      hAwaits.offered hTimeout s₁
  exact
    (hMeets.is_stale s₂ hAwaits.answers
      (Sequence.lt_next_of_ne_greatest hLimit)).1

/- The proposal that it makes on top of that is answered. -/
theorem Awaits.takes_second
    (hAwaits : mirror.Awaits hash side p c q q.next none)
    (hLimit : q.next.number ≠ Word.greatest)
    (hTimeout : validateOptionalTimeout timeout = .ok ())
    (s₁ s₂ : Signer) :
    Succeeds
      (mirror.answer hash side.other
        (mirror.proposing side
          (mirror.proposing side c s₁ p timeout) s₁ p timeout)
        (.attempt
          (mirror.answering hash side.other
            (mirror.proposing side
              (mirror.proposing side c s₁ p timeout) s₁ p
              timeout)
            s₂ p timeout))) := by
  have hFirst :=
    hAwaits.own.proposing hAwaits.offered hAwaits.change hTimeout
      s₁
  have hFlushes :=
    CanFlush.proposing hAwaits.flushes hAwaits.own
      hAwaits.offered hAwaits.change hTimeout s₁
  have hMeets :=
    hAwaits.meets hFirst
      (hAwaits.peer.of_host_eq (host_proposing_other s₁))
      (hAwaits.joins.proposing s₁) (hAwaits.offered.proposing s₁)
      hTimeout s₁
  have hCan :=
    CanFlush.proposing hFlushes hFirst
      (hAwaits.offered.proposing s₁) hAwaits.change hTimeout s₁
  exact
    hMeets.takes s₂ (Sequence.lt_next_of_ne_greatest hLimit)
      (hCan side.other)

/- So is a proposal of the other end. -/
theorem Awaits.takes_other
    (hAwaits : mirror.Awaits hash side p c q q.next none)
    (hLimit : q.next.number ≠ Word.greatest)
    (hTimeout : validateOptionalTimeout timeout = .ok ())
    (s₁ s₂ : Signer) :
    Succeeds
      (mirror.answer hash side
        (mirror.proposing side.other c s₁ p timeout)
        (.attempt
          (mirror.answering hash side
            (mirror.proposing side.other c s₁ p timeout) s₂ p
            timeout))) := by
  have hChange :=
    hAwaits.offered.changes_other hAwaits.joins hAwaits.change
  have hMeets :
      mirror.Meets hash side
        (mirror.proposing side.other c s₁ p timeout) p timeout q
        q.next.next none :=
    { joins := hAwaits.joins.proposing s₁
      offered := hAwaits.offered.proposing s₁
      change := hAwaits.change
      isValid := hTimeout
      own := hAwaits.own.of_host_eq (host_proposing_of_other s₁)
      peer :=
        hAwaits.peer.proposing hAwaits.offered hChange hTimeout
          s₁ }
  have hAhead : q < q.next.next :=
    lt_of_le_of_lt q.le_next
      (Sequence.lt_next_of_ne_greatest hLimit)
  exact
    hMeets.takes s₂ hAhead
      (CanFlush.proposing hAwaits.flushes hAwaits.peer
        hAwaits.offered hChange hTimeout s₁ side)

/-
  From open ends where the next proposal of one of them is
  stale, a stale round can be gone through.  However many there
  have been, the end that retries is one attempt behind: its
  next proposal is given up for its sequence again.  A proposal
  gets through if the end makes two in a row, or if the other
  end makes it.
-/
theorem stale_rounds_trail
    (hAwaits : mirror.Awaits hash side p c a b other?)
    (hBehind : a.next < answerAttempt other? b) :
    (∃ c', mirror.StaleRound hash side p c c') ∧
      ∀ c',
        Relation.TransGen (mirror.StaleRound hash side p) c c' →
        ∃ q,
          mirror.Stands side c' .open q none ∧
            mirror.Stands side.other c' .open q.next none ∧
            (q.next.number ≠ Word.greatest →
              ∀ timeout,
                validateOptionalTimeout timeout = .ok () →
                ∀ s₁ s₂,
                  mirror.Stands side
                      (mirror.proposing side c' s₁ p timeout)
                      .open q.next
                      (some (p.proposed side timeout)) ∧
                    IsStaleAnswer
                      (mirror.answer hash side.other
                        (mirror.proposing side c' s₁ p timeout)
                        (.attempt
                          (mirror.answering hash side.other
                            (mirror.proposing side c' s₁ p
                              timeout)
                            s₂ p timeout)))
                      q.next.next q.next ∧
                    Succeeds
                      (mirror.answer hash side.other
                        (mirror.proposing side
                          (mirror.proposing side c' s₁ p timeout)
                          s₁ p timeout)
                        (.attempt
                          (mirror.answering hash side.other
                            (mirror.proposing side
                              (mirror.proposing side c' s₁ p
                                timeout)
                              s₁ p timeout)
                            s₂ p timeout))) ∧
                    Succeeds
                      (mirror.answer hash side
                        (mirror.proposing side.other c' s₁ p
                          timeout)
                        (.attempt
                          (mirror.answering hash side
                            (mirror.proposing side.other c' s₁ p
                              timeout)
                            s₂ p timeout)))) := by
  refine ⟨hAwaits.exists_round hBehind, ?_⟩
  intro c' hRounds
  rcases hAwaits.trails hRounds with ⟨q, hTrails⟩
  refine ⟨q, hTrails.own, hTrails.peer, ?_⟩
  intro hLimit timeout hTimeout s₁ s₂
  exact
    ⟨hTrails.own.proposing hTrails.offered hTrails.change
        hTimeout s₁,
      hTrails.is_stale_again hLimit hTimeout s₁ s₂,
      hTrails.takes_second hLimit hTimeout s₁ s₂,
      hTrails.takes_other hLimit hTimeout s₁ s₂⟩

end Mirror

end Interchain

------------------------------------------------------------
-- Sample Chains
------------------------------------------------------------

namespace Interchain

namespace Fixture

/- The sample chains, with B at a later attempt than A. -/
def staggered (hash : Hash) (n : Sequence) : Chains :=
  arranged hash fun side =>
    match side with
    | .left => []
    | .right =>
        [.channel (key .right) (mirror.endAt .right .open n)]

/- A waits to propose, with B at a later attempt. -/
theorem awaits_staggered (hash : Hash) (n : Sequence) :
    mirror.Awaits hash .left proposal (staggered hash n) .zero n
      none where
  joins := joins_arranged hash _
  offered := isOffered_arranged hash _
  change := changes_mirror .left
  own := by
    constructor <;>
      rw [staggered, records_arranged] <;>
      simp [records_host]
  peer := by
    constructor <;>
      rw [staggered, records_arranged] <;>
      simp [records_host, Side.other, mirror]
  answers := by simp
  flushes := by
    intro side
    refine ⟨⟨⟨1⟩, ?_⟩, ⟨_, setsDeadline_arranged hash _ side⟩⟩
    rw [staggered, records_arranged]
    cases side <;> simp [records_host]

/- With A at no attempt and B at its third one, a stale round
   leaves A behind. -/
theorem sample_stale_rounds_trail :
    mirror.Awaits id .left proposal (staggered id ⟨3⟩) .zero ⟨3⟩
        none ∧
      Sequence.zero.next < answerAttempt none ⟨3⟩ ∧
      ∃ c' q,
        mirror.StaleRound id .left proposal (staggered id ⟨3⟩)
            c' ∧
          mirror.Stands .left c' .open q none ∧
          mirror.Stands .right c' .open q.next none := by
  have hAwaits := awaits_staggered id ⟨3⟩
  have hBehind : Sequence.zero.next < answerAttempt none ⟨3⟩ := by
    decide
  rcases Mirror.stale_rounds_trail hAwaits hBehind with
    ⟨⟨c', hRound⟩, hRounds⟩
  rcases hRounds c' (.single hRound) with
    ⟨q, hOwn, hPeer, _⟩
  exact ⟨hAwaits, hBehind, c', q, hRound, hOwn, hPeer⟩

/-
  A is at no attempt and B at its third one.  A proposes, B
  gives that up for its sequence, and A cancels.  When A then
  proposes again, and B is asked with the new sequence of A, B
  gives that up for its sequence too.
-/
theorem sample_stale_again :
    ∃ c',
      mirror.StaleRound id .left proposal (staggered id ⟨3⟩) c' ∧
        mirror.Stands .left
          (mirror.proposing .left c' signer proposal none) .open
          ⟨4⟩ (some (proposal.proposed .left none)) ∧
        IsStaleAnswer
          (mirror.answer id .right
            (mirror.proposing .left c' signer proposal none)
            (.attempt
              (mirror.answering id .right
                (mirror.proposing .left c' signer proposal none)
                signer proposal none)))
          ⟨5⟩ ⟨4⟩ := by
  have hAwaits := awaits_staggered id ⟨3⟩
  rcases hAwaits.exists_round (by decide) with ⟨c', hRound⟩
  rcases hRound.trails hAwaits with ⟨q, hLast, hTrails⟩
  have hNext : q.next = ⟨4⟩ := hLast.trans (by decide)
  have hOwn :
      mirror.Stands .left
        (mirror.proposing .left c' signer proposal none) .open
        q.next (some (proposal.proposed .left none)) :=
    hTrails.own.proposing hTrails.offered hTrails.change rfl
      signer
  have hStale :
      IsStaleAnswer
        (mirror.answer id .right
          (mirror.proposing .left c' signer proposal none)
          (.attempt
            (mirror.answering id .right
              (mirror.proposing .left c' signer proposal none)
              signer proposal none)))
        q.next.next q.next :=
    hTrails.is_stale_again (by rw [hNext]; decide) rfl signer
      signer
  rw [hNext] at hOwn hStale
  exact ⟨c', hRound, hOwn, hStale⟩

end Fixture

end Interchain
