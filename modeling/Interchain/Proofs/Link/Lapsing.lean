import Interchain.Proofs.Handshake.TimingOut
import Interchain.Proofs.Link.Limits
import Interchain.Proofs.Link.Restoring
import Interchain.Proofs.Mirror.Retry

/-
  What becomes of a proposal that its end gives up for time.

  The end gives up once the deadline has passed on the other
  chain, and never flushes for the attempt.  The other end does
  not look at the deadline: it takes the proposal up at any
  height, from a state in which it stood.  It is then alone in
  the attempt, which neither end completes, and it can cancel
  for the receipt that the first end left.

  Main declarations:
    * `Link.TimesOut`
    * `Link.Lapses`

  Main statements:
    * `Link.Invariant.not_isUpgrading_of_gaveUp`
    * `Link.Run.takes_up_recalled`
    * `Link.Run.not_completes_of_gaveUp`
    * `Link.Run.lapses`
    * `Fixture.sample_taken_up_late`
-/

------------------------------------------------------------
-- Giving Up
------------------------------------------------------------

namespace Interchain

namespace Link

variable {hash : Hash}

/- An end gives up its proposal of an attempt for time. -/
structure TimesOut
    (link : Link hash)
    (side : Side)
    (m : TimeoutMessage)
    (n : Sequence)
    (before now : Chains) : Prop where
  key : m.key = link.key side
  attempt : (link.records side before).attempt = n
  succeeds :
    Succeeds ((before.host side).dispatch (.timeout m)).1
  step :
    now =
      before.replace side
        ((before.host side).dispatch (.timeout m)).2

/- An end is open with a proposal, at an attempt. -/
structure Proposes
    (link : Link hash)
    (side : Side)
    (n : Sequence)
    (c : Chains) : Prop where
  isOpen : (link.records side c).channel.state = .open
  attempt : (link.records side c).attempt = n
  upgrade : (link.records side c).upgrade?.isSome

/- An end went from a proposal back to the channel that it had,
   within an attempt. -/
structure GaveUp
    (link : Link hash)
    (side : Side)
    (n : Sequence)
    (before now : Chains) : Prop where
  proposes : link.Proposes side n before
  attempt : (link.records side now).attempt = n
  phase : (link.records side now).phase = 3

variable {link : Link hash} {side : Side} {n : Sequence}
variable {before now c : Chains} {m : TimeoutMessage}

/- A proposal that is made lies before its attempt. -/
theorem Proposes.phase
    (hProposes : link.Proposes side n c) :
    (link.records side c).phase = 0 := by
  rw [Records.phase_of_open hProposes.isOpen,
    if_pos hProposes.upgrade]

/- Giving up for time restores the end, with a receipt for the
   attempt. -/
theorem TimesOut.restored
    (hTimesOut : link.TimesOut side m n before now) :
    link.Proposes side n before ∧
      ∃ receipt : ErrorReceipt,
        receipt.sequence = n ∧
          link.records side now =
            (link.records side before).restored n receipt := by
  rcases Host.givesUp_of_succeeds hTimesOut.succeeds with
    ⟨hOpen, hUpgrade, receipt, hSequence, hRecords⟩
  rw [hTimesOut.key] at hOpen hUpgrade hSequence hRecords
  have hSequence : receipt.sequence = n :=
    hSequence.trans hTimesOut.attempt
  refine
    ⟨⟨hOpen, hTimesOut.attempt, hUpgrade⟩, receipt, hSequence,
      ?_⟩
  rw [records, hTimesOut.step, Chains.host_replace_self,
    hRecords, hSequence]
  rfl

/- So the end gave the proposal up. -/
theorem TimesOut.gaveUp
    (hTimesOut : link.TimesOut side m n before now) :
    link.GaveUp side n before now := by
  rcases hTimesOut.restored with
    ⟨hProposes, receipt, _, hRecords⟩
  refine ⟨hProposes, ?_, ?_⟩
  · rw [hRecords]
    rfl
  · rw [hRecords, Records.phase_restored]

end Link

end Interchain

------------------------------------------------------------
-- Attempts That Were Given Up
------------------------------------------------------------

namespace Interchain

namespace Link

variable {hash : Hash} {link : Link hash}
variable {newer older past : List Chains}
variable {before now c d : Chains} {side : Side} {n : Sequence}

/- The records of a chain before and after a moment. -/
theorem Invariant.precedes
    (hInvariant : link.Invariant (newer ++ c :: older)) :
    (∀ d ∈ newer,
        Records.Precedes
          (link.Turned (newer ++ c :: older) side)
          (link.records side c) (link.records side d)) ∧
      ∀ d ∈ older,
        Records.Precedes
          (link.Turned (newer ++ c :: older) side)
          (link.records side d) (link.records side c) := by
  have hOrdered := hInvariant.ordered side
  rw [history, List.map_append, List.map_cons] at hOrdered
  rcases List.pairwise_append.mp hOrdered with
    ⟨_, hOlder, hAcross⟩
  constructor
  · intro d hd
    exact hAcross _ (List.mem_map_of_mem hd) _
      List.mem_cons_self
  · intro d hd
    exact (List.pairwise_cons.mp hOlder).1 _
      (List.mem_map_of_mem hd)

/- Before an end gave up an attempt, it was open with the
   proposal whenever it was at the attempt. -/
theorem Invariant.phase_before
    (hInvariant :
      link.Invariant (newer ++ now :: before :: past))
    (hGaveUp : link.GaveUp side n before now)
    (hd : d ∈ before :: past)
    (hAttempt : (link.records side d).attempt = n) :
    (link.records side d).phase = 0 := by
  have hPhase := hGaveUp.proposes.phase
  rcases List.mem_cons.mp hd with rfl | hPast
  · exact hPhase
  · have hSplit : newer ++ now :: before :: past =
        (newer ++ [now]) ++ before :: past := by simp
    rw [hSplit] at hInvariant
    have hContinues :=
      (hInvariant.precedes.2 d hPast).same
        (hAttempt.trans hGaveUp.proposes.attempt.symm)
    exact Nat.le_zero.mp (hPhase ▸ hContinues.phase)

/- Once it gave up, it held no proposal at the attempt. -/
theorem Invariant.phase_since
    (hInvariant :
      link.Invariant (newer ++ now :: before :: past))
    (hGaveUp : link.GaveUp side n before now)
    (hd : d ∈ newer ++ [now])
    (hAttempt : (link.records side d).attempt = n) :
    (link.records side d).phase = 3 := by
  rcases List.mem_append.mp hd with hNewer | hNow
  · have hContinues :=
      (hInvariant.precedes.1 d hNewer).same
        (hGaveUp.attempt.trans hAttempt.symm)
    exact le_antisymm (Records.phase_le _)
      (hGaveUp.phase ▸ hContinues.phase)
  · rw [List.mem_singleton.mp hNow]
    exact hGaveUp.phase

/- A state of the run is from before the step, or since. -/
theorem mem_since_or_before
    (hd : d ∈ newer ++ now :: before :: past) :
    d ∈ newer ++ [now] ∨ d ∈ before :: past := by
  simp only [List.mem_append, List.mem_cons,
    List.not_mem_nil, or_false] at hd ⊢
  tauto

/- An end never flushes for an attempt that it gave up from
   its proposal. -/
theorem Invariant.not_isUpgrading_of_gaveUp
    (hInvariant :
      link.Invariant (newer ++ now :: before :: past))
    (hGaveUp : link.GaveUp side n before now)
    (hd : d ∈ newer ++ now :: before :: past) :
    ¬ (link.records side d).IsUpgrading n := by
  rintro ⟨hAttempt, hState⟩
  have hPhase :
      (link.records side d).phase = 1 ∨
        (link.records side d).phase = 2 :=
    hState.imp Records.phase_of_flushing
      Records.phase_of_flushComplete
  rcases mem_since_or_before hd with hSince | hBefore
  · have := hInvariant.phase_since hGaveUp hSince hAttempt
    omega
  · have := hInvariant.phase_before hGaveUp hBefore hAttempt
    omega

/- The counterparty can flush for such an attempt only on a
   state from before the end gave up. -/
theorem Invariant.answered_before
    (hInvariant :
      link.Invariant (newer ++ now :: before :: past))
    (hGaveUp : link.GaveUp side n before now)
    (hc : c ∈ newer ++ now :: before :: past)
    (hUpgrading : (link.records side.other c).IsUpgrading n) :
    ∃ seen ∈ before :: past,
      link.Proposes side n seen ∧
        (link.outlook (newer ++ now :: before :: past)
          side.other).Answered
            (link.records side.other c)
            (link.records side seen) := by
  have hSound :=
    hInvariant.sound side.other _ (mem_history side.other hc)
  rcases hSound.answered hUpgrading.state_ne with
    ⟨shown, hAnswered⟩
  have hMember := hAnswered.proven
  change shown ∈ link.history _ side.other.other at hMember
  rw [Side.other_other] at hMember
  rcases List.mem_map.mp hMember with ⟨seen, hSeen, rfl⟩
  have hAttempt : (link.records side seen).attempt = n :=
    hAnswered.mirrors.attempt_eq.trans hUpgrading.1
  have hOpen :
      (link.records side seen).channel.state = .open :=
    hAnswered.state.resolve_right fun hFlushing =>
      hInvariant.not_isUpgrading_of_gaveUp hGaveUp hSeen
        ⟨hAttempt, Or.inl hFlushing⟩
  rcases hAnswered.compatible with ⟨_, answer, _, hAnswer, _⟩
  have hUpgrade := Records.upgrade?_of_proposal? hAnswer
  refine
    ⟨seen, (mem_since_or_before hSeen).resolve_left ?_,
      ⟨hOpen, hAttempt, hUpgrade⟩, hAnswered⟩
  intro hSince
  have hPhase := hInvariant.phase_since hGaveUp hSince hAttempt
  rw [Records.phase_of_open hOpen, if_pos hUpgrade] at hPhase
  omega

end Link

end Interchain

------------------------------------------------------------
-- Attempts That Nobody Completes
------------------------------------------------------------

namespace Interchain

namespace Link

variable {hash : Hash} {link : Link hash}
variable {allowed : Action → Prop}
variable {newer past : List Chains}
variable {before now : Chains} {side s : Side} {n : Sequence}

/- Once an end gave up, neither completes the attempt. -/
theorem Run.not_completes_of_gaveUp
    (hRun : link.Run allowed (newer ++ now :: before :: past))
    (hOrdinary : ∀ a, allowed a → a.IsOrdinary)
    (hFree :
      CollisionFree hash allowed (newer ++ now :: before :: past))
    (hLimit :
      link.BelowLimit (newer ++ now :: before :: past))
    (hGaveUp : link.GaveUp side n before now)
    {r r' : Records}
    (hStepped :
      link.Stepped (newer ++ now :: before :: past) s r r') :
    ¬ Records.Completes n r r' := by
  intro hCompletes
  have hInvariant := hRun.invariant hOrdinary hFree hLimit
  -- whichever end completes it, the end that gave up flushed
  have hFlushed :
      ∃ d ∈ newer ++ now :: before :: past,
        (link.records side d).IsUpgrading n := by
    rcases hStepped with ⟨later, q, p, older, hTrace, rfl, rfl⟩
    rcases Side.eq_or_eq_other s side with rfl | rfl
    · refine ⟨p, ?_, hCompletes.1⟩
      rw [hTrace]
      simp
    · rw [hTrace] at hRun hFree hLimit
      rcases
          hRun.of_append.flushed_when_completed hOrdinary
            hFree.of_append hLimit.of_append hCompletes with
        ⟨shown, hShown, hUpgrading, _⟩
      rw [Side.other_other] at hShown
      rcases List.mem_map.mp hShown with ⟨d, hd, rfl⟩
      refine ⟨d, ?_, hUpgrading⟩
      rw [hTrace]
      exact List.mem_append_right _
        (List.mem_cons_of_mem _ hd)
  rcases hFlushed with ⟨d, hd, hUpgrading⟩
  exact hInvariant.not_isUpgrading_of_gaveUp hGaveUp hd
    hUpgrading

end Link

end Interchain

------------------------------------------------------------
-- Late Answers
------------------------------------------------------------

namespace Interchain

/- The chains, where one of them is as it was before. -/
def Chains.recalling
    (c : Chains)
    (side : Side)
    (seen : Chains) :
    Chains :=
  c.replace side (seen.host side)

namespace Chains

variable {c seen : Chains} {side : Side}

@[simp] theorem host_recalling_self :
    (c.recalling side seen).host side = seen.host side :=
  host_replace_self ..

@[simp] theorem host_recalling_other :
    (c.recalling side seen).host side.other =
      c.host side.other :=
  host_replace_other ..

/- Both stand as they were put into the first state. -/
theorem recalling_eq_replace (start : Chains) :
    c.recalling side seen =
      (start.replace side (seen.host side)).replace side.other
        (c.host side.other) := by
  cases side <;> rfl

end Chains

namespace Link

variable {hash : Hash} {link : Link hash}
variable {allowed : Action → Prop} {trace : List Chains}
variable {c seen : Chains} {side : Side} {b n : Sequence}
variable {mirror : Mirror} {p : Mirror.Proposal}
variable {timeout : Option UpgradeTimeout}

/- Their connections are those of the start. -/
theorem Run.joins_recalling
    (hRun : link.Run allowed trace)
    (hc : c ∈ trace)
    (hSeen : seen ∈ trace)
    (hJoins : mirror.Joins hash link.start) :
    mirror.Joins hash (c.recalling side seen) := by
  rw [Chains.recalling_eq_replace link.start]
  refine
    (hJoins.replace (hRun.hasSameLinks seen hSeen side)).replace
      ?_
  rw [Chains.host_replace_other]
  exact hRun.hasSameLinks c hc side.other

/- What could be proposed at the start can be still. -/
theorem Run.isOffered_recalling
    (hRun : link.Run allowed trace)
    (hc : c ∈ trace)
    (hSeen : seen ∈ trace)
    (hOffered : p.IsOffered link.start) :
    p.IsOffered (c.recalling side seen) := by
  rw [Chains.recalling_eq_replace link.start]
  refine
    (hOffered.replace
      (hRun.hasSameLinks seen hSeen side)).replace ?_
  rw [Chains.host_replace_other]
  exact hRun.hasSameLinks c hc side.other

/-
  An end that is behind takes up a proposal from any state in
  which it stood.  Nothing is asked of its height and its time,
  but that it can set a deadline of its own.
-/
theorem Run.takes_up_recalled
    (hRun : link.Run allowed trace)
    (hc : c ∈ trace)
    (hSeen : seen ∈ trace)
    (hJoins : mirror.Joins hash link.start)
    (hOffered : p.IsOffered link.start)
    (hChange :
      (mirror.endAt side.other .open .zero).fields ≠
        p.fields side.other)
    (hTimeout : validateOptionalTimeout timeout = .ok ())
    (hShown :
      mirror.Stands side seen .open n
        (some (p.proposed side timeout)))
    (hOwn : mirror.Stands side.other c .open b none)
    (hAhead : b < n)
    (hCan : mirror.CanFlush side.other c)
    (signer : Signer) :
    Succeeds
        (mirror.answer hash side.other (c.recalling side seen)
          (.attempt
            (mirror.answering hash side.other
              (c.recalling side seen) signer p timeout))) ∧
      (mirror.records side.other
          (mirror.after hash side.other (c.recalling side seen)
            (.attempt
              (mirror.answering hash side.other
                (c.recalling side seen) signer p
                timeout)))).channel =
        mirror.endAt side.other .flushing n := by
  have hOther :
      (c.recalling side seen).host side.other =
        c.host side.other :=
    Chains.host_recalling_other
  have hMeets :
      mirror.Meets hash side.other (c.recalling side seen) p
        timeout b n none :=
    { joins := hRun.joins_recalling hc hSeen hJoins
      offered := hRun.isOffered_recalling hc hSeen hOffered
      change := hChange
      isValid := hTimeout
      own := hOwn.of_host_eq hOther
      peer := by
        rw [Side.other_other]
        exact hShown.of_host_eq Chains.host_recalling_self }
  rcases hCan.sends with ⟨next, hNext⟩
  rcases hCan.setsDeadline with ⟨deadline, hDeadline⟩
  have hDone :=
    hMeets.flushes signer hAhead
      (by rw [Mirror.records, hOther]; exact hNext)
      (by rw [hOther]; exact hDeadline)
  exact ⟨hDone.1, congrArg Records.channel hDone.2⟩

end Link

end Interchain

------------------------------------------------------------
-- Lapsed Proposals
------------------------------------------------------------

namespace Interchain

namespace Link

variable {hash : Hash}

/-
  What becomes of a proposal once its end has given it up, in a
  run that went from `past` to `now` with that step and then
  through `newer`.

  The counterparty flushes for it only on a state in which it
  stood, from before that step; but on such a state it flushes
  at any later time, whatever the deadline was.  Neither end
  completes the attempt, and a counterparty that flushes can
  cancel for the receipt of the end that gave up.
-/
structure Lapses
    (link : Link hash)
    (side : Side)
    (n : Sequence)
    (newer : List Chains)
    (now : Chains)
    (past : List Chains) : Prop where
  answered :
    ∀ c ∈ newer ++ now :: past,
      (link.records side.other c).IsUpgrading n →
      ∃ seen ∈ past,
        link.Proposes side n seen ∧
          (link.outlook (newer ++ now :: past)
            side.other).Answered
              (link.records side.other c)
              (link.records side seen)
  takesUp :
    ∀ (mirror : Mirror) (p : Mirror.Proposal) timeout,
      mirror.key = link.key →
      mirror.Joins hash link.start →
      p.IsOffered link.start →
      (mirror.endAt side.other .open .zero).fields ≠
        p.fields side.other →
      validateOptionalTimeout timeout = .ok () →
      ∀ seen ∈ past,
        mirror.Stands side seen .open n
          (some (p.proposed side timeout)) →
        ∀ c ∈ newer ++ [now], ∀ b signer,
          mirror.Stands side.other c .open b none →
          b < n →
          mirror.CanFlush side.other c →
          Succeeds
              (mirror.answer hash side.other
                (c.recalling side seen)
                (.attempt
                  (mirror.answering hash side.other
                    (c.recalling side seen) signer p
                    timeout))) ∧
            (mirror.records side.other
                (mirror.after hash side.other
                  (c.recalling side seen)
                  (.attempt
                    (mirror.answering hash side.other
                      (c.recalling side seen) signer p
                      timeout)))).channel =
              mirror.endAt side.other .flushing n
  uncompleted :
    ∀ s r r',
      link.Stepped (newer ++ now :: past) s r r' →
      ¬ Records.Completes n r r'
  cancels :
    ∃ receipt : ErrorReceipt,
      receipt.sequence = n ∧
        (link.records side now).receipt? = some receipt ∧
        ∀ c ∈ newer ++ [now],
          (link.records side.other c).IsUpgrading n →
          ∀ signer, ∃ client,
            Succeeds
                ((link.told side.other c client now).dispatch
                  (.cancel
                    (link.cancelMessage side.other now receipt
                      signer))).1 ∧
              ((link.told side.other c client now).dispatch
                  (.cancel
                    (link.cancelMessage side.other now receipt
                      signer))).2.records
                  (link.key side.other) =
                (link.records side.other c).restored n receipt

variable {link : Link hash} {allowed : Action → Prop}
variable {newer past : List Chains}
variable {before now c : Chains} {side : Side} {n : Sequence}
variable {m : TimeoutMessage}

/- The receipt of the end that gave up cancels an attempt that
   was taken up late. -/
theorem Run.cancels_after
    (hRun : link.Run allowed (newer ++ now :: past))
    (hOrdinary : ∀ a, allowed a → a.IsOrdinary)
    (hFree : CollisionFree hash allowed (newer ++ now :: past))
    (hLimit : link.BelowLimit (newer ++ now :: past))
    (hc : c ∈ newer ++ [now])
    {receipt : ErrorReceipt}
    (hReceipt :
      (link.records side now).receipt? = some receipt)
    (hSequence : receipt.sequence = n)
    (hUpgrading : (link.records side.other c).IsUpgrading n)
    (signer : Signer) :
    ∃ client,
      Succeeds
          ((link.told side.other c client now).dispatch
            (.cancel
              (link.cancelMessage side.other now receipt
                signer))).1 ∧
        ((link.told side.other c client now).dispatch
            (.cancel
              (link.cancelMessage side.other now receipt
                signer))).2.records (link.key side.other) =
          (link.records side.other c).restored n receipt := by
  have hSince :
      ∃ older, now ∈ c :: older ∧
        link.Run allowed (c :: older) ∧
          CollisionFree hash allowed (c :: older) ∧
            link.BelowLimit (c :: older) := by
    rcases List.mem_append.mp hc with hNewer | hNow
    · rcases List.append_of_mem hNewer with
        ⟨later, between, rfl⟩
      refine ⟨between ++ now :: past, by simp, ?_, ?_, ?_⟩
      · rw [List.append_assoc] at hRun
        exact hRun.of_append
      · rw [List.append_assoc] at hFree
        exact hFree.of_append
      · rw [List.append_assoc] at hLimit
        exact hLimit.of_append
    · rw [List.mem_singleton.mp hNow]
      exact
        ⟨past, List.mem_cons_self, hRun.of_append,
          hFree.of_append, hLimit.of_append⟩
  rcases hSince with ⟨older, hNow, hRun, hFree, hLimit⟩
  rw [← hSequence]
  apply
    hRun.restores_on_receipt
      (hRun.invariant hOrdinary hFree hLimit)
      hUpgrading.state_ne hNow _ _ signer
  · rw [Side.other_other]
    exact hReceipt
  · rw [hUpgrading.1, hSequence]

/- What becomes of a proposal that was given up for time. -/
theorem Run.lapses
    (hRun : link.Run allowed (newer ++ now :: before :: past))
    (hOrdinary : ∀ a, allowed a → a.IsOrdinary)
    (hFree :
      CollisionFree hash allowed (newer ++ now :: before :: past))
    (hLimit :
      link.BelowLimit (newer ++ now :: before :: past))
    (hTimesOut : link.TimesOut side m n before now) :
    link.Lapses side n newer now (before :: past) where
  answered := fun c hc hUpgrading =>
    (hRun.invariant hOrdinary hFree hLimit).answered_before
      hTimesOut.gaveUp hc hUpgrading
  takesUp := by
    intro mirror p timeout _ hJoins hOffered hChange hTimeout
      seen hSeen hShown c hc b signer hOwn hAhead hCan
    refine
      hRun.takes_up_recalled ?_ ?_ hJoins hOffered hChange
        hTimeout hShown hOwn hAhead hCan signer
    · rcases List.mem_append.mp hc with hNewer | hNow
      · exact List.mem_append_left _ hNewer
      · rw [List.mem_singleton.mp hNow]
        simp
    · exact List.mem_append_right _
        (List.mem_cons_of_mem _ hSeen)
  uncompleted := fun s r r' hStepped =>
    hRun.not_completes_of_gaveUp hOrdinary hFree hLimit
      hTimesOut.gaveUp hStepped
  cancels := by
    rcases hTimesOut.restored with
      ⟨_, receipt, hSequence, hRecords⟩
    have hReceipt :
        (link.records side now).receipt? = some receipt := by
      rw [hRecords]
      rfl
    exact ⟨receipt, hSequence, hReceipt,
      fun c hc hUpgrading signer =>
        hRun.cancels_after hOrdinary hFree hLimit hc hReceipt
          hSequence hUpgrading signer⟩

end Link

end Interchain

------------------------------------------------------------
-- Timing Out
------------------------------------------------------------

namespace Interchain

namespace Mirror

/- The message that gives up a proposal, with a proof of the
   other chain as it is. -/
def timeoutMessage
    (mirror : Mirror)
    (hash : Hash)
    (side : Side)
    (c : Chains)
    (signer : Signer) :
    TimeoutMessage where
  key := mirror.key side
  counterpartyChannel := (mirror.records side.other c).channel
  earlierReceipt := (mirror.records side.other c).receipt?
  channelProof := (c.host side.other).commitmentProof hash
  receiptProof := (c.host side.other).commitmentProof hash
  proofHeight := (c.host side.other).height
  signer := signer

variable {mirror : Mirror} {hash : Hash} {c : Chains}
variable {side : Side} {k n : Sequence}

/- The other end holds no receipt for the attempt. -/
theorem Joins.verifiesUnanswered
    (hJoins : mirror.Joins hash c)
    (hEarlier :
      ∀ receipt,
        (mirror.records side.other c).receipt? = some receipt →
          receipt.sequence < n)
    (signer : Signer) :
    (mirror.informed hash side c).verifyUnanswered
        (mirror.timeoutMessage hash side c signer)
        (mirror.endAt side .open n) (mirror.connection side) =
      .ok () := by
  rw [Host.verifyUnanswered]
  cases hReceipt : (mirror.records side.other c).receipt? with
  | none =>
      simp only [timeoutMessage, hReceipt]
      exact
        (hJoins.remembers side).verifyNoReceipt_of_none
          (hJoins.storePrefix side)
          (mirror.isSlashFree side.other) rfl hReceipt
  | some receipt =>
      simp only [timeoutMessage, hReceipt]
      refine
        (if_neg (not_le.mpr (hEarlier receipt hReceipt))).trans
          ?_
      exact hJoins.verifiesReceipt hReceipt .open n

/- A proposal whose deadline has passed on the other chain is
   given up, if the other end is open. -/
theorem Joins.timesOut
    {u : Upgrade}
    {v? : Option Upgrade}
    {deadline : UpgradeTimeout}
    (hJoins : mirror.Joins hash c)
    (hOwn : mirror.Stands side c .open n (some u))
    (hDeadline : u.timeout = some deadline)
    (hPeer : mirror.Stands side.other c .open k v?)
    (hElapsed :
      deadline.hasElapsed (c.host side.other).height
        (c.host side.other).timestamp = true)
    (hSet : (c.host side.other).timestamp.isSet = true)
    (hEarlier :
      ∀ receipt,
        (mirror.records side.other c).receipt? = some receipt →
          receipt.sequence < n)
    (signer : Signer) :
    Succeeds
      (mirror.answer hash side c
        (.timeout
          (mirror.timeoutMessage hash side c signer))) := by
  have hChannel :
      (mirror.timeoutMessage hash side c
        signer).counterpartyChannel =
        mirror.endAt side.other .open k :=
    hPeer.channel
  have hValid :
      (mirror.timeoutMessage hash side c signer).validate =
        .ok () := by
    rw [TimeoutMessage.validate, hChannel]
    rfl
  have hTime :=
    (hJoins.remembers side).counterpartyTime hSet
  have hProcessed :
      ∃ report,
        (mirror.informed hash side c).processTimeout
          (mirror.timeoutMessage hash side c signer) =
            .ok report :=
    Host.processTimeout_eq_ok_iff.mpr
      ⟨_, _, _, _, _, hOwn.channels (by simp), rfl,
        hOwn.upgrade, hJoins.openConnection side .open n,
        Host.elapsedTimeout_eq_ok_iff.mpr
          ⟨hDeadline, _, hTime, hElapsed⟩,
        by rw [hChannel]; rfl,
        hJoins.verifiesChannel
          (by rw [hChannel]; exact hPeer.channels (by simp))
          .open n,
        hJoins.verifiesUnanswered hEarlier signer⟩
  rcases hProcessed with ⟨report, hOk⟩
  exact Host.dispatch_timeout_succeeds hValid hOk

end Mirror

end Interchain

------------------------------------------------------------
-- Steps of a Run
------------------------------------------------------------

namespace Interchain

theorem Host.hasSameLinks_advance (h : Host) :
    h.advance.HasSameLinks h :=
  ⟨rfl, rfl, rfl⟩

/- A block does not touch the records. -/
theorem Host.records_advance
    (h : Host)
    (key : ChannelKey) :
    h.advance.records key = h.records key := rfl

theorem Host.height_advance (h : Host) :
    h.advance.height = h.height.next := rfl

theorem Host.params_advance (h : Host) :
    h.advance.params = h.params := rfl

/- A block takes its interval. -/
theorem Host.timestamp_advance
    {h : Host}
    {later : Timestamp}
    (hLater : h.timestamp.add blockInterval = .ok later) :
    h.advance.timestamp = later := by
  rw [advance, hLater]

/- Being told of a chain takes no time. -/
theorem Mirror.hasSameClock_informed
    (mirror : Mirror)
    (hash : Hash)
    (side : Side)
    (c : Chains) :
    (mirror.informed hash side c).HasSameClock (c.host side) :=
  ⟨rfl, rfl, rfl⟩

/- What a chain learns does not depend on when it does. -/
theorem Mirror.informed_advance
    (mirror : Mirror)
    (hash : Hash)
    (side : Side)
    (c : Chains) :
    mirror.informed hash side
        (c.replace side (c.host side).advance) =
      (mirror.informed hash side c).advance := by
  rw [informed, informed, Chains.host_replace_self,
    Chains.host_replace_other]
  rfl

/- What is answered depends on the other chain only. -/
theorem Mirror.answering_replace
    (mirror : Mirror)
    (hash : Hash)
    (side : Side)
    (c : Chains)
    (h : Host)
    (signer : Signer)
    (p : Proposal)
    (timeout : Option UpgradeTimeout) :
    mirror.answering hash side (c.replace side h) signer p
        timeout =
      mirror.answering hash side c signer p timeout := by
  rw [answering, answering, tryMessage, tryMessage, records,
    records, Chains.host_replace_other]

end Interchain

------------------------------------------------------------
-- Sample Run
------------------------------------------------------------

namespace Interchain

namespace Fixture

/- One block after the height of the sample chains. -/
def nearDeadline : UpgradeTimeout := .atHeight ⟨0, 6⟩

variable (hash : Hash)

/- A makes a proposal with a near deadline. -/
def nearProposal : Chains :=
  mirror.proposing .left (chains hash) signer proposal
    (some nearDeadline)

/- B learns of it. -/
def nearHeard : Chains :=
  (nearProposal hash).replace .right
    (mirror.informed hash .right (nearProposal hash))

/- A block passes on B. -/
def nearExpired : Chains :=
  (nearHeard hash).replace .right
    ((nearHeard hash).host .right).advance

/- A learns of that. -/
def nearKnown : Chains :=
  (nearExpired hash).replace .left
    (mirror.informed hash .left (nearExpired hash))

/- A gives up, for the deadline has passed on B. -/
def nearTimeout : TimeoutMessage :=
  mirror.timeoutMessage hash .left (nearExpired hash) signer

/- A gives up. -/
def nearLapsed : Chains :=
  (nearKnown hash).replace .left
    (((nearKnown hash).host .left).dispatch
      (.timeout (nearTimeout hash))).2

/- B is shown the proposal. -/
def nearAnswer : TryMessage :=
  mirror.answering hash .right (nearProposal hash) signer
    proposal (some nearDeadline)

/- B takes the proposal up although A gave it up. -/
def lateFlushing : Chains :=
  (nearLapsed hash).replace .right
    (((nearLapsed hash).host .right).dispatch
      (.attempt (nearAnswer hash))).2

/- The sample chains are open, with nothing stored. -/
theorem stands_chains (side : Side) :
    mirror.Stands side (chains hash) .open .zero none := by
  have hRecords : mirror.records side (chains hash) =
      (host hash side).records (key side) := by
    rw [Mirror.records, host_chains]
    rfl
  constructor <;> rw [hRecords, records_host]

theorem joins_chains : mirror.Joins hash (chains hash) :=
  joins_arranged hash fun _ => []

theorem isOffered_chains : proposal.IsOffered (chains hash) :=
  isOffered_arranged hash fun _ => []

theorem joins_nearProposal :
    mirror.Joins hash (nearProposal hash) :=
  (joins_chains hash).proposing signer

theorem isOffered_nearProposal :
    proposal.IsOffered (nearProposal hash) :=
  (isOffered_chains hash).proposing signer

theorem host_nearProposal :
    (nearProposal hash).host .right =
      (chains hash).host .right :=
  mirror.host_proposing_other signer

/- A holds its proposal, with the deadline. -/
theorem stands_nearProposal_left :
    mirror.Stands .left (nearProposal hash) .open
      Sequence.zero.next
      (some (proposal.proposed .left (some nearDeadline))) :=
  (stands_chains hash .left).proposing (isOffered_chains hash)
    (changes_mirror .left) rfl signer

theorem joins_nearHeard : mirror.Joins hash (nearHeard hash) :=
  (joins_nearProposal hash).replace
    (mirror.hasSameLinks_informed hash .right _)

theorem joins_nearExpired :
    mirror.Joins hash (nearExpired hash) :=
  (joins_nearHeard hash).replace (Host.hasSameLinks_advance _)

theorem host_nearExpired_left :
    (nearExpired hash).host .left =
      (nearProposal hash).host .left :=
  (Chains.host_replace_other _ .right _).trans
    (Chains.host_replace_other _ .right _)

/- B was told of A, a block ago. -/
theorem host_nearExpired_right :
    (nearExpired hash).host .right =
      (mirror.informed hash .right
        (nearProposal hash)).advance := by
  rw [nearExpired, nearHeard, Chains.host_replace_self,
    Chains.host_replace_self]

/- B has reached the deadline. -/
theorem height_nearExpired :
    ((nearExpired hash).host .right).height = ⟨0, 6⟩ := by
  rw [host_nearExpired_right, Host.height_advance,
    (mirror.hasSameClock_informed hash .right _).height,
    host_nearProposal, host_chains, height_host]
  rfl

/- B is five seconds ahead. -/
theorem timestamp_nearExpired :
    ((nearExpired hash).host .right).timestamp =
      .ofNanoseconds 1700000005000000000 := by
  rw [host_nearExpired_right]
  apply Host.timestamp_advance
  rw [(mirror.hasSameClock_informed hash .right _).timestamp,
    host_nearProposal, host_chains, timestamp_host]
  decide +kernel

theorem stands_nearExpired_left :
    mirror.Stands .left (nearExpired hash) .open
      Sequence.zero.next
      (some (proposal.proposed .left (some nearDeadline))) :=
  (stands_nearProposal_left hash).of_host_eq
    (host_nearExpired_left hash)

/- B still has the records of the start. -/
theorem records_nearExpired_right :
    mirror.records .right (nearExpired hash) =
      (host hash .right).records (key .right) := by
  rw [Mirror.records, host_nearExpired_right,
    Host.records_advance, Mirror.records_informed,
    host_nearProposal, host_chains]
  rfl

theorem stands_nearExpired_right :
    mirror.Stands .right (nearExpired hash) .open .zero none := by
  constructor <;> rw [records_nearExpired_right, records_host]

/- A is told of B. -/
theorem host_nearKnown_left :
    (nearKnown hash).host .left =
      mirror.informed hash .left (nearExpired hash) :=
  Chains.host_replace_self ..

theorem host_nearKnown_right :
    (nearKnown hash).host .right =
      (nearExpired hash).host .right :=
  Chains.host_replace_other _ .left _

/- A holds its proposal until it gives up. -/
theorem stands_nearKnown_left :
    mirror.Stands .left (nearKnown hash) .open
      Sequence.zero.next
      (some (proposal.proposed .left (some nearDeadline))) := by
  have hRecords :
      mirror.records .left (nearKnown hash) =
        mirror.records .left (nearExpired hash) :=
    mirror.records_told hash .left (nearExpired hash)
  have hStands := stands_nearExpired_left hash
  exact
    ⟨by rw [hRecords]; exact hStands.channel,
      by rw [hRecords]; exact hStands.upgrade⟩

/- A gives up, with a proof of B at the deadline. -/
theorem timesOut_nearKnown :
    (link hash).TimesOut .left (nearTimeout hash)
      Sequence.zero.next (nearKnown hash) (nearLapsed hash) where
  key := rfl
  attempt := (stands_nearKnown_left hash).attempt
  succeeds := by
    rw [host_nearKnown_left]
    refine
      (joins_nearExpired hash).timesOut
        (stands_nearExpired_left hash) rfl
        (stands_nearExpired_right hash) ?_ ?_ ?_ signer
    · rw [Side.other, height_nearExpired,
        timestamp_nearExpired]
      decide
    · rw [Side.other, timestamp_nearExpired]
      decide
    · intro receipt hReceipt
      rw [Side.other, records_nearExpired_right,
        records_host] at hReceipt
      cases hReceipt
  step := rfl

/- Nothing happens on B while A gives up. -/
theorem host_nearLapsed_right :
    (nearLapsed hash).host .right =
      (nearExpired hash).host .right :=
  (Chains.host_replace_other _ .left _).trans
    (host_nearKnown_right hash)

/- The deadline that B sets a block later. -/
def lateDeadline : UpgradeTimeout :=
  .atTimestamp (.ofNanoseconds 1700000605000000000)

theorem setsDeadline_nearExpired :
    ((nearExpired hash).host .right).params.deadline
        ((nearExpired hash).host .right).height
        ((nearExpired hash).host .right).timestamp =
      .ok lateDeadline := by
  have hParams :
      ((nearExpired hash).host .right).params =
        (host hash .right).params := by
    rw [host_nearExpired_right, Host.params_advance,
      (mirror.hasSameClock_informed hash .right _).params,
      host_nearProposal, host_chains]
  rw [hParams, height_nearExpired, timestamp_nearExpired,
    deadline_host]
  decide +kernel

/- B does not learn of the proposal, and a block passes. -/
def nearLate : Chains :=
  (nearProposal hash).replace .right
    ((nearProposal hash).host .right).advance

/- B has the records of the start also when it answers. -/
theorem records_nearLate_right :
    mirror.records .right (nearLate hash) =
      (host hash .right).records (key .right) := by
  rw [Mirror.records, nearLate, Chains.host_replace_self,
    Host.records_advance, host_nearProposal, host_chains]
  rfl

/- B can take the proposal up after its deadline. -/
theorem meets_nearLate :
    mirror.Meets hash .right (nearLate hash) proposal
      (some nearDeadline) .zero Sequence.zero.next none where
  joins :=
    (joins_nearProposal hash).replace
      (Host.hasSameLinks_advance _)
  offered :=
    (isOffered_nearProposal hash).replace
      (Host.hasSameLinks_advance _)
  change := changes_mirror .right
  isValid := rfl
  own := by
    constructor <;> rw [records_nearLate_right, records_host]
  peer :=
    (stands_nearProposal_left hash).of_host_eq
      (Chains.host_replace_other _ .right _)

/- When B is then told, it is as after it gave way to A. -/
theorem informed_nearLate :
    mirror.informed hash .right (nearLate hash) =
      (nearLapsed hash).host .right := by
  rw [nearLate, Mirror.informed_advance, host_nearLapsed_right,
    host_nearExpired_right]

theorem setsDeadline_nearLate :
    ((nearLate hash).host .right).params.deadline
        ((nearLate hash).host .right).height
        ((nearLate hash).host .right).timestamp =
      .ok lateDeadline := by
  have hSame :=
    mirror.hasSameClock_informed hash .right (nearLate hash)
  rw [← hSame.params, ← hSame.height, ← hSame.timestamp,
    informed_nearLate, host_nearLapsed_right]
  exact setsDeadline_nearExpired hash

/- B flushes at the deadline. -/
theorem channel_lateFlushing :
    ((link hash).records .right (lateFlushing hash)).channel =
      mirror.endAt .right .flushing Sequence.zero.next := by
  have hNext :
      (mirror.records .right (nearLate hash)).next? =
        some ⟨1⟩ := by
    rw [records_nearLate_right, records_host]
  have hDone :=
    ((meets_nearLate hash).flushes signer (by decide) hNext
      (setsDeadline_nearLate hash)).2
  rw [Mirror.records_after_self, informed_nearLate, nearLate,
    Mirror.answering_replace] at hDone
  rw [Link.records, lateFlushing, Chains.host_replace_self]
  exact congrArg Records.channel hDone

/- The run in which A gives up. -/
theorem run_nearLapsed :
    (link hash).Run Action.IsOrdinary
      [ nearLapsed hash, nearKnown hash, nearExpired hash,
        nearHeard hash, nearProposal hash, chains hash ] := by
  have hStart :
      (link hash).Run Action.IsOrdinary [chains hash] :=
    .start
  have hKnown :=
    (((hStart.dispatch .left
      (.init
        (mirror.initMessage .left signer proposal
          (some nearDeadline)))).inform mirror .right).advance
      .right).inform mirror .left
  exact hKnown.dispatch .left (.timeout (nearTimeout hash))

/- It goes on with the late answer of B. -/
theorem run_lateFlushing :
    (link hash).Run Action.IsOrdinary
      [ lateFlushing hash, nearLapsed hash, nearKnown hash,
        nearExpired hash, nearHeard hash, nearProposal hash,
        chains hash ] :=
  (run_nearLapsed hash).dispatch .right
    (.attempt (nearAnswer hash))

/- In the run in which A gives up, no attempt is at the limit. -/
theorem belowLimit_nearLapsed :
    (link hash).BelowLimit
      [ nearLapsed hash, nearKnown hash, nearExpired hash,
        nearHeard hash, nearProposal hash, chains hash ] := by
  have hLeft :
      ((link hash).records .left (nearLapsed hash)).attempt =
        Sequence.zero.next :=
    (timesOut_nearKnown hash).gaveUp.attempt
  have hRight :
      ((link hash).records .right (nearLapsed hash)).attempt =
        .zero := by
    rw [Link.records, host_nearLapsed_right]
    exact (stands_nearExpired_right hash).attempt
  refine (run_nearLapsed hash).belowLimit fun side => ?_
  cases side with
  | left =>
      rw [hLeft]
      decide
  | right =>
      rw [hRight]
      decide

/- The proposal that A has given up. -/
theorem sample_lapses :
    ∃ before past,
      (link id).Run Action.IsOrdinary
          (nearLapsed id :: before :: past) ∧
        (link id).BelowLimit (nearLapsed id :: before :: past) ∧
        (link id).TimesOut .left (nearTimeout id)
          Sequence.zero.next before (nearLapsed id) ∧
        (link id).Lapses .left Sequence.zero.next []
          (nearLapsed id) (before :: past) := by
  have hRun := run_nearLapsed id
  have hLimit := belowLimit_nearLapsed id
  have hTimesOut := timesOut_nearKnown id
  exact ⟨_, _, hRun, hLimit, hTimesOut,
    Link.Run.lapses hRun (fun _ h => h)
      (Link.collisionFree_of_injective Function.injective_id)
      hLimit hTimesOut⟩

/- B has reached the height of the proof. -/
theorem reached_nearLapsed :
    (nearTimeout hash).proofHeight ≤
      ((nearLapsed hash).host .right).height := by
  have hHeight :
      (nearTimeout hash).proofHeight =
        ((nearExpired hash).host .right).height := rfl
  rw [hHeight, host_nearLapsed_right, height_nearExpired]
  decide

/- B is open when A has given up. -/
theorem state_nearLapsed_right :
    ((link hash).records .right
        (nearLapsed hash)).channel.state = .open := by
  rw [Link.records, host_nearLapsed_right]
  exact congrArg ChannelEnd.state
    (stands_nearExpired_right hash).channel

/- B answers the first proposal of A. -/
theorem sequence_nearAnswer :
    (nearAnswer hash).counterpartySequence =
      Sequence.zero.next :=
  (stands_nearProposal_left hash).attempt

/-
  A proposes with a deadline one block ahead.  B learns of the
  proposal, and a block passes.  A gives up with a proof of B at
  that height; then B, which is still at that height, is shown
  the proposal and flushes for it.
-/
theorem sample_taken_up_late :
    (∀ side,
        ((link id).records side (link id).start).upgrade? =
            none ∧
          ((link id).records side
            (link id).start).counterparty? = none) ∧
      ∃ m t next now before past,
        (link id).Run Action.IsOrdinary
            (next :: now :: before :: past) ∧
          (link id).TimesOut .left m Sequence.zero.next before
            now ∧
          t.counterpartySequence = Sequence.zero.next ∧
          next =
            now.replace .right
              ((now.host .right).dispatch (.attempt t)).2 ∧
          m.proofHeight ≤ (now.host .right).height ∧
          ((link id).records .right now).channel.state =
            .open ∧
          ((link id).records .right next).channel =
            (link id).endAt .right .flushing
              Sequence.zero.next := by
  refine
    ⟨fun side => ?_, nearTimeout id, nearAnswer id,
      lateFlushing id, nearLapsed id, nearKnown id, _,
      run_lateFlushing id, timesOut_nearKnown id,
      sequence_nearAnswer id, rfl, reached_nearLapsed id,
      state_nearLapsed_right id, channel_lateFlushing id⟩
  rw [records_link]
  exact ⟨rfl, rfl⟩

end Fixture

end Interchain
