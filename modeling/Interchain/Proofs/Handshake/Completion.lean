import Interchain.Proofs.Handshake.Progress

/-
  Completing an attempt.

  A channel takes new fields in one way only: an end that is
  past open, with nothing left in flight, opens on what was
  proven of the counterparty.

  Main declarations:
    * `Records.Reopens`

  Main statements:
    * `Records.Moves.reopens_or_keeps`
    * `Records.Reopens.completes`
-/

------------------------------------------------------------
-- Completion
------------------------------------------------------------

namespace Interchain

namespace Records

/- An end opens on a counterparty that is done flushing, or
   that is open with the fields agreed. -/
structure Reopens
    (o : Outlook)
    (before after : Records)
    (u : Upgrade)
    (seen : Records) : Prop where
  state :
    before.channel.state = .flushing ∨
      before.channel.state = .flushComplete
  upgrade : before.upgrade? = some u
  proven : o.proven seen
  evidence :
    o.Mirrors before.channel .flushComplete seen.channel ∨
      o.MirrorsOpened before.channel u.fields seen.channel
  channel :
    after.channel =
      { before.channel.applyFields u.fields with
        state := .open }
  dropped : after.upgrade? = none
  cleared : after.receipt? = none
  drained : after.inFlight = ∅

variable {o : Outlook} {r m r' : Records} {u : Upgrade}
variable {seen : Records}

/- An end that opens completes its attempt. -/
theorem Reopens.completes
    (hReopens : Reopens o r r' u seen) :
    Completes r.attempt r r' :=
  ⟨⟨rfl, hReopens.state⟩, u, hReopens.upgrade,
    hReopens.channel, hReopens.dropped⟩

/- One step before an end that is done flushing, the end is
   flushing or done already, in the same attempt. -/
theorem Proceeds.of_flushComplete
    (hStep : Proceeds o r m)
    (hState : m.channel.state = .flushComplete) :
    (r.channel.state = .flushing ∧ m.inFlight = ∅ ∨
        r.channel.state = .flushComplete ∧
          m.inFlight ⊆ r.inFlight) ∧
      m.channel =
        { r.channel with state := .flushComplete } ∧
      m.upgrade? = r.upgrade? := by
  cases hStep with
  | resolve s =>
      have hDone : r.channel.state = .flushComplete := hState
      refine ⟨Or.inr ⟨hDone, Set.sdiff_subset⟩, ?_, rfl⟩
      rw [← hDone]
  | propose u last hOpen hLast hValid hChange =>
      simp [hOpen] at hState
  | flush own settled answer seen hOpen hOwn hProven hAnswer
      hSeen hMirrors hFields hCompatible =>
      simp at hState
  | learn counterparty hFlushing =>
      simp [hFlushing] at hState
  | drain hFlushing hEmpty =>
      exact ⟨Or.inl ⟨hFlushing, hEmpty⟩, rfl, rfl⟩

/- Completing after one more step is completing. -/
theorem Proceeds.completes
    (hStep : Proceeds o r m)
    (hState : m.channel.state = .flushComplete)
    (hCompletes : Completes m.attempt m r') :
    Completes r.attempt r r' := by
  rcases hStep.of_flushComplete hState with
    ⟨hPhase, hChannel, hUpgrade⟩
  rcases hCompletes with ⟨_, u, hHeld, hAfter, hDropped⟩
  rw [hChannel] at hAfter
  exact ⟨⟨rfl, hPhase.imp And.left And.left⟩, u,
    hUpgrade ▸ hHeld, hAfter, hDropped⟩

/- Opening after one more step is opening. -/
theorem Proceeds.reopens
    (hStep : Proceeds o r m)
    (hDrained :
      r.channel.state = .flushComplete → r.inFlight = ∅)
    (hReopens : Reopens o m r' u seen)
    (hState : m.channel.state = .flushComplete)
    (hFlight : r'.inFlight = m.inFlight) :
    Reopens o r r' u seen := by
  rcases hStep.of_flushComplete hState with
    ⟨hPhase, hChannel, hUpgrade⟩
  rcases hReopens with
    ⟨_, hHeld, hProven, hEvidence, hAfter, hDropped, hCleared, _⟩
  rw [hChannel] at hEvidence hAfter
  refine ⟨?_, hUpgrade ▸ hHeld, hProven, hEvidence, hAfter,
    hDropped, hCleared, ?_⟩
  · exact hPhase.imp And.left And.left
  · rw [hFlight]
    rcases hPhase with ⟨_, hEmpty⟩ | ⟨hDone, hSubset⟩
    · exact hEmpty
    · exact Set.subset_eq_empty hSubset (hDrained hDone)

/- A step that concludes an upgrade keeps the fields, unless it
   opens an end that is done. -/
theorem Concludes.reopens_or_keeps
    (hStep : Concludes o r r')
    (hDrained :
      r.channel.state = .flushComplete → r.inFlight = ∅) :
    r'.channel.fields = r.channel.fields ∨
      r.channel.state = .flushComplete ∧
        r'.inFlight = r.inFlight ∧
        ∃ u seen, Reopens o r r' u seen := by
  cases hStep with
  | reopen u seen hState hUpgrade hProven hSeen =>
      exact Or.inr ⟨hState, rfl, u, seen, Or.inr hState,
        hUpgrade, hProven, hSeen, rfl, rfl, rfl,
        hDrained hState⟩
  | _ => exact Or.inl rfl

/- A step that only proceeds keeps them. -/
theorem Proceeds.keeps_fields
    (hStep : Proceeds o r r') :
    r'.channel.fields = r.channel.fields := by
  cases hStep <;> rfl

/- A move keeps the fields of the channel, or opens it. -/
theorem Moves.reopens_or_keeps
    (hMoves : Moves o r r')
    (hDrained :
      r.channel.state = .flushComplete → r.inFlight = ∅) :
    r'.channel.fields = r.channel.fields ∨
      ∃ u seen, Reopens o r r' u seen := by
  cases hMoves with
  | rest => exact Or.inl rfl
  | send s hState hNext => exact Or.inl rfl
  | proceed hProceeds => exact Or.inl hProceeds.keeps_fields
  | proceedTwice hFirst hSecond =>
      exact Or.inl
        (hSecond.keeps_fields.trans hFirst.keeps_fields)
  | conclude hConcludes =>
      exact (hConcludes.reopens_or_keeps hDrained).imp_right
        fun ⟨_, _, hReopens⟩ => hReopens
  | proceedConclude hProceeds hConcludes =>
      rename_i m
      have hMiddle :
          m.channel.state = .flushComplete →
            m.inFlight = ∅ := by
        intro hState
        rcases (hProceeds.of_flushComplete hState).1 with
          ⟨_, hEmpty⟩ | ⟨hDone, hSubset⟩
        · exact hEmpty
        · exact Set.subset_eq_empty hSubset (hDrained hDone)
      rcases hConcludes.reopens_or_keeps hMiddle with
        hSame | ⟨hState, hFlight, u, seen, hReopens⟩
      · exact Or.inl (hSame.trans hProceeds.keeps_fields)
      · exact Or.inr ⟨u, seen,
          hProceeds.reopens hDrained hReopens hState hFlight⟩

/- An end that completes an attempt opens. -/
theorem Moves.reopens_of_completes
    {peer : ChannelPeer}
    {n : Sequence}
    (hMoves : Moves o r r')
    (hSound : Sound o peer r)
    (hCompletes : Completes n r r') :
    ∃ u seen, Reopens o r r' u seen := by
  refine (hMoves.reopens_or_keeps hSound.drained).resolve_left
    ?_
  rcases hCompletes with ⟨_, u, hUpgrade, hChannel, _⟩
  have hChange :=
    (hSound.proposal u.fields
      (by simp [proposal?, hUpgrade])).2
  intro hSame
  rw [hChannel] at hSame
  exact hChange hSame.symm

end Records

end Interchain
