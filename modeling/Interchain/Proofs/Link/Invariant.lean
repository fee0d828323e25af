import Interchain.Proofs.Link.History
import Mathlib.Data.List.Pairwise

/-
  What holds throughout a run of two chains.

  Each chain's records are sound and never go back, where the
  counterparty's part is what the other chain has held in the
  course of the run.  That answers agree is what ties the two
  chains together: an answer that is acknowledged was given to
  a proposal of the same attempt, and there is only one.

  Main declarations:
    * `Link.Invariant`

  Main statements:
    * `Link.Invariant.answersAgree`
    * `Link.Run.invariant`
-/

------------------------------------------------------------
-- Invariants
------------------------------------------------------------

namespace Interchain

namespace Link

variable {hash : Hash} (link : Link hash)

/- The records of a run are sound and in order. -/
structure Invariant (trace : List Chains) : Prop where
  sound :
    ∀ side, ∀ r ∈ link.history trace side,
      r.Sound (link.outlook trace side)
        (link.key side.other).peer
  ordered :
    ∀ side,
      (link.history trace side).Pairwise fun later earlier =>
        Records.Precedes (link.Turned trace side) earlier later

variable {link} {trace : List Chains} {side : Side}

/- Of two records of one chain, one comes first. -/
theorem Invariant.comparable
    (hInvariant : link.Invariant trace)
    {a b : Records}
    (ha : a ∈ link.history trace side)
    (hb : b ∈ link.history trace side) :
    Records.Comparable (link.Turned trace side) a b := by
  have hPairwise :
      (link.history trace side).Pairwise
        (Records.Comparable (link.Turned trace side)) :=
    (hInvariant.ordered side).imp Or.inr
  exact hPairwise.forall_of_forall
    (fun r _ => Records.Comparable.refl r) ha hb

end Link

end Interchain

------------------------------------------------------------
-- Agreement of Answers
------------------------------------------------------------

namespace Interchain

namespace Link

variable {hash : Hash} {link : Link hash}
variable {trace : List Chains} {side : Side}

/- Records that the chain could hold next: sound, and after all
   that it held. -/
structure Extends
    (link : Link hash)
    (trace : List Chains)
    (turned : Sequence → Prop)
    (side : Side)
    (r : Records) : Prop where
  sound :
    r.Sound (link.outlook trace side)
      (link.key side.other).peer
  after :
    ∀ z ∈ link.history trace side,
      Records.Precedes turned z r

/-
  An answer that flushes was itself given to a proposal of this
  chain, at the attempt that this chain is still at; and the
  proposal has not changed since.
-/
theorem Invariant.answersAgree
    (hInvariant : link.Invariant trace)
    {turned : Sequence → Prop}
    {r : Records}
    (hExtends : link.Extends trace turned side r) :
    r.AnswersAgree (link.outlook trace side) := by
  intro seen own answer hProven hFlushing hMirrors hOpen hOwn
    hAnswer
  have hSeen :=
    hInvariant.sound side.other seen hProven
  rcases hSeen.answered (by rw [hFlushing]; simp) with
    ⟨z, hAnswered⟩
  have hPast : z ∈ link.history trace side := by
    have hProvenBack := hAnswered.proven
    change z ∈ link.history trace side.other.other
      at hProvenBack
    rwa [Side.other_other] at hProvenBack
  rcases hAnswered.compatible with
    ⟨answer', w, hAnswer', hw, hCompatible⟩
  rcases hMirrors with ⟨id, hop, _, _, _, hSeenChannel⟩
  rcases hAnswered.mirrors with ⟨id', hop', _, _, _, hzChannel⟩
  have hAttempt : z.attempt = r.attempt := by
    rw [Records.attempt, hzChannel]
    change seen.channel.upgradeSequence = _
    rw [hSeenChannel]
    rfl
  have hContinues :=
    (hExtends.after z hPast).same hAttempt
  have hPhase : r.phase ≤ 2 := by
    rw [Records.phase_of_open hOpen,
      Records.upgrade?_of_proposal? hOwn]
    simp
  have hSame := hContinues.proposal hPhase
  rw [hOwn, hw, Option.some.injEq] at hSame
  rw [hAnswer, Option.some.injEq] at hAnswer'
  rw [hAnswer', hSame]
  exact hCompatible.2.1

end Link

end Interchain

------------------------------------------------------------
-- Steps
------------------------------------------------------------

namespace Interchain

namespace Link

variable {hash : Hash} {link : Link hash}
variable {trace : List Chains} {side : Side}
variable {turned : Sequence → Prop} {r r' : Records}

/- Records that proceed still extend the history. -/
theorem Extends.proceeds
    (hInvariant : link.Invariant trace)
    (hExtends : link.Extends trace turned side r)
    (hStep : r.Proceeds (link.outlook trace side) r')
    (hLimit : r'.attempt.number ≠ Word.greatest) :
    link.Extends trace turned side r' where
  sound :=
    hStep.sound hExtends.sound
      (hInvariant.answersAgree hExtends)
  after := by
    intro z hz
    exact (hExtends.after z hz).trans
      (hStep.precedes (hInvariant.answersAgree hExtends) hLimit)

/- So do records that conclude, if what they complete counts. -/
theorem Extends.concludes
    (hExtends : link.Extends trace turned side r)
    (hStep : r.Concludes (link.outlook trace side) r')
    (hTurned :
      r.channel.state = .flushComplete →
        Records.Completes r.attempt r r' →
          turned r.attempt) :
    link.Extends trace turned side r' where
  sound := hStep.sound hExtends.sound
  after := by
    intro z hz
    exact (hExtends.after z hz).trans (hStep.precedes hTurned)

/- Sending a packet changes nothing about an attempt. -/
theorem Extends.send
    (hExtends : link.Extends trace turned side r)
    (s : Sequence)
    (next? : Option Sequence)
    (hState : r.channel.state = .open) :
    link.Extends trace turned side
      { r with
        inFlight := insert s r.inFlight
        next? := next? } where
  sound := by
    rcases hExtends.sound with
      ⟨hStates, hPeer, hHops, hProposal, _, _⟩
    refine ⟨hStates, hPeer, hHops, hProposal, ?_, ?_⟩
    · intro hDone
      rw [hState] at hDone
      simp at hDone
    · intro hNotOpen
      exact (hNotOpen hState).elim
  after := by
    intro z hz
    exact (hExtends.after z hz).trans
      (Records.precedes_of_eq rfl rfl)

/- An end that opens completes the attempt. -/
theorem Extends.moves
    (hInvariant : link.Invariant trace)
    (hExtends : link.Extends trace turned side r)
    (hMoves : r.Moves (link.outlook trace side) r')
    (hLimit : r'.attempt.number ≠ Word.greatest)
    (hTurned :
      ∀ n, Records.Completes n r r' → turned n) :
    link.Extends trace turned side r' := by
  cases hMoves with
  | rest => exact hExtends
  | send s hState hNext => exact hExtends.send s _ hState
  | proceed hStep => exact hExtends.proceeds hInvariant hStep hLimit
  | proceedTwice hFirst hSecond =>
      have hMiddle :=
        Sequence.number_ne_greatest_of_le hSecond.attempt_le hLimit
      exact (hExtends.proceeds hInvariant hFirst hMiddle).proceeds
        hInvariant hSecond hLimit
  | conclude hStep =>
      exact hExtends.concludes hStep fun _ hCompletes =>
        hTurned _ hCompletes
  | proceedConclude hFirst hStep =>
      have hMiddle :=
        Sequence.number_ne_greatest_of_le hStep.attempt_le hLimit
      apply (hExtends.proceeds hInvariant hFirst hMiddle).concludes
        hStep
      intro hState hCompletes
      have hFirstCompletes :=
        hFirst.completes hState hCompletes
      have hChannel := (hFirst.of_flushComplete hState).2.1
      have hAttempt := congrArg ChannelEnd.upgradeSequence hChannel
      rw [Records.attempt, hAttempt]
      exact hTurned _ hFirstCompletes

/-
  From records that a chain could hold next, and that follow
  its last ones by a step, the invariant carries on.
-/
theorem Invariant.cons
    {now : Chains}
    (hInvariant : link.Invariant trace)
    (hExtends :
      ∀ side,
        link.Extends trace (link.Turned (now :: trace) side) side
          (link.records side now)) :
    link.Invariant (now :: trace) where
  sound := by
    intro side r hr
    have hSound :
        r.Sound (link.outlook trace side)
          (link.key side.other).peer := by
      rcases List.mem_cons.mp hr with rfl | hPast
      · exact (hExtends side).sound
      · exact hInvariant.sound side r hPast
    exact hSound.mono rfl rfl rfl fun _ hSeen =>
      List.mem_cons_of_mem _ hSeen
  ordered := by
    intro side
    refine List.Pairwise.cons (hExtends side).after ?_
    exact (hInvariant.ordered side).imp fun hPrecedes =>
      hPrecedes.mono fun _ hTurned => hTurned.cons now

end Link

end Interchain

------------------------------------------------------------
-- Runs
------------------------------------------------------------

namespace Interchain

namespace Link

variable {hash : Hash} {link : Link hash}
variable {allowed : Action → Prop}
variable {now before : Chains} {past trace : List Chains}

/- The ends of a link start open, without proposals. -/
theorem records_start (link : Link hash) (side : Side) :
    (link.records side link.start).channel =
        { state := .open
          order := link.order
          peer := (link.key side.other).peer
          hops := [link.hop side]
          version := link.version
          upgradeSequence := link.sequence side } ∧
      (link.records side link.start).upgrade? = none :=
  ⟨Host.records_channel (link.channel side),
    link.upgrade side⟩

/- At the start, ends are open and propose nothing. -/
theorem invariant_start (link : Link hash) :
    link.Invariant [link.start] where
  sound := by
    intro side r hr
    rw [List.mem_singleton.mp hr]
    rcases link.records_start side with ⟨hChannel, hUpgrade⟩
    refine ⟨?_, ?_, ?_, ?_, ?_, ?_⟩
    · exact Or.inl (by rw [hChannel])
    · rw [hChannel]
    · rw [hChannel]
      rfl
    · intro fields hFields
      simp [Records.proposal?, hUpgrade] at hFields
    · intro hDone
      simp [hChannel] at hDone
    · intro hNotOpen
      simp [hChannel] at hNotOpen
  ordered := fun side => List.pairwise_singleton _ _

/- The last records of a chain could be its next ones. -/
theorem Invariant.extends_last
    (hInvariant : link.Invariant (now :: past))
    (side : Side) :
    link.Extends (now :: past) (link.Turned (now :: past) side)
      side (link.records side now) where
  sound := hInvariant.sound side _ List.mem_cons_self
  after := by
    intro z hz
    rcases List.mem_cons.mp hz with rfl | hPast
    · exact Records.Precedes.refl _
    · exact (List.pairwise_cons.mp
        (hInvariant.ordered side)).1 z hPast

/- A chain faces the other one throughout. -/
theorem Invariant.faces
    (hInvariant : link.Invariant trace)
    {c : Chains}
    (hc : c ∈ trace)
    (side : Side) :
    (c.host side).Faces (link.key side)
      (link.key side.other) := by
  intro found hFound
  have hSound :=
    hInvariant.sound side _ (mem_history side hc)
  rw [← hSound.peer, records, Host.records_channel hFound]

/-
  The invariant holds in every run without attempts given up
  from outside, below the greatest sequence.
-/
theorem Run.invariant
    (hRun : link.Run allowed trace)
    (hOrdinary : ∀ a, allowed a → a.IsOrdinary)
    (hFree : CollisionFree hash allowed trace)
    (hLimit : link.BelowLimit trace) :
    link.Invariant trace := by
  revert hFree hLimit
  refine Run.induct
    (P := fun trace =>
      CollisionFree hash allowed trace →
        link.BelowLimit trace → link.Invariant trace)
    hRun ?_ ?_
  · exact fun _ _ => link.invariant_start
  · intro now before past hRun ih hFree hLimit
    have hInvariant := ih hFree.of_cons hLimit.of_cons
    apply hInvariant.cons
    intro side
    have hMoves :=
      hRun.moves hOrdinary hFree.of_cons
        (hInvariant.faces List.mem_cons_self side)
    have hLast := hInvariant.extends_last side
    refine Extends.moves hInvariant
      ⟨hLast.sound, fun z hz => (hLast.after z hz).mono ?_⟩
      hMoves (hLimit now List.mem_cons_self side) ?_
    · exact fun _ hTurned => hTurned.cons now
    · intro n hCompletes
      exact ⟨_, _, ⟨[], now, before, past, rfl, rfl, rfl⟩,
        hCompletes⟩

/- The last step of a run, from records that are sound. -/
theorem Run.moves_last
    (hRun : link.Run allowed (now :: before :: past))
    (hOrdinary : ∀ a, allowed a → a.IsOrdinary)
    (hFree : CollisionFree hash allowed (before :: past))
    (hLimit : link.BelowLimit (before :: past))
    (side : Side) :
    (link.records side before).Moves
      (link.outlook (before :: past) side)
      (link.records side now) :=
  hRun.moves hOrdinary hFree
    ((hRun.cases_step.1.invariant hOrdinary hFree hLimit).faces
      List.mem_cons_self side)

/- What holds of the records of one chain, and is kept by each
   later step, holds since. -/
theorem Run.forall_since
    {newer : List Chains}
    {P : Records → Prop}
    (hRun : link.Run allowed (newer ++ now :: past))
    (hOrdinary : ∀ a, allowed a → a.IsOrdinary)
    (hFree : CollisionFree hash allowed (newer ++ now :: past))
    (hLimit : link.BelowLimit (newer ++ now :: past))
    {side : Side}
    (hNow : P (link.records side now))
    (hStep :
      ∀ {o r c}, c ∈ newer →
        r.Moves o (link.records side c) →
        P r → P (link.records side c)) :
    ∀ c ∈ newer, P (link.records side c) := by
  induction newer with
  | nil => simp
  | cons latest newer ih =>
      have hOlder :=
        ih (hRun.of_cons (by simp)) hFree.of_cons
          hLimit.of_cons fun hc => hStep (List.mem_cons_of_mem latest hc)
      intro c hc
      rcases List.mem_cons.mp hc with rfl | hPast
      · cases newer with
        | nil =>
            exact hStep List.mem_cons_self
              (hRun.moves_last hOrdinary hFree.of_cons
                hLimit.of_cons side)
              hNow
        | cons before newer =>
            exact hStep List.mem_cons_self
              (hRun.moves_last hOrdinary hFree.of_cons
                hLimit.of_cons side)
              (hOlder before List.mem_cons_self)
      · exact hOlder c hPast

/- What every move keeps in order is in order in a run. -/
theorem Run.pairwise
    {P : Records → Records → Prop}
    (hRun : link.Run allowed trace)
    (hOrdinary : ∀ a, allowed a → a.IsOrdinary)
    (hFree : CollisionFree hash allowed trace)
    (hLimit : link.BelowLimit trace)
    (hMoves : ∀ {o a b}, Records.Moves o a b → P a b)
    (hTrans : ∀ {a b c}, P a b → P b c → P a c)
    (side : Side) :
    (link.history trace side).Pairwise fun later earlier =>
      P earlier later := by
  revert hFree hLimit
  refine Run.induct
    (P := fun trace =>
      CollisionFree hash allowed trace →
        link.BelowLimit trace →
          (link.history trace side).Pairwise
            fun later earlier => P earlier later)
    hRun ?_ ?_
  · exact fun _ _ => List.pairwise_singleton _ _
  · intro now before past hRun ih hFree hLimit
    have hPast := ih hFree.of_cons hLimit.of_cons
    have hStep :=
      hMoves
        (hRun.moves_last hOrdinary hFree.of_cons hLimit.of_cons
          side)
    refine List.Pairwise.cons ?_ hPast
    intro z hz
    rcases List.mem_cons.mp hz with rfl | hOlder
    · exact hStep
    · exact hTrans ((List.pairwise_cons.mp hPast).1 z hOlder)
        hStep

end Link

end Interchain
