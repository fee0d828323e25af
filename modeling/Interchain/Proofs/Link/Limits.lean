import Interchain.Proofs.Course.Sequences
import Interchain.Proofs.Course.Window
import Interchain.Proofs.Link.History

/-
  Limits throughout a run.

  Attempts and packets are only ever counted up.  So words that
  have not reached the greatest one in the last state of a run
  had not reached it before.

  Main statements:
    * `Link.Run.related_last`
    * `Link.Run.attempt_le_last`
    * `Link.Run.next_le_last`
    * `Link.Run.belowLimit`
-/

------------------------------------------------------------
-- Steps as Happenings
------------------------------------------------------------

namespace Interchain

namespace Link

variable {hash : Hash} {link : Link hash}
variable {allowed : Action → Prop}
variable {now before : Chains} {past : List Chains}

/- In a step of a run, a chain stays as it is or something
   happens on it. -/
theorem Run.undergoes
    (hRun : link.Run allowed (now :: before :: past))
    (side : Side) :
    now.host side = before.host side ∨
      ∃ x, now.host side =
        (before.host side).undergo hash x := by
  rcases hRun.cases_step with ⟨_, moved, hOther, hStep⟩
  rcases Side.eq_or_eq_other side moved with rfl | rfl
  · rcases hStep with
      ⟨action, _, hNow⟩ | ⟨client, seen, _, hNow⟩
    · exact Or.inr ⟨.act action, hNow⟩
    · exact Or.inr
        ⟨.told hash client (seen.host side.other), hNow⟩
  · exact Or.inl hOther

/- A relation that survives whatever happens holds between any
   state of a run and the last one. -/
theorem Run.related_last
    {R : Host → Host → Prop}
    (hRun : link.Run allowed (now :: past))
    (hRefl : ∀ h, R h h)
    (hUndergo : ∀ a b x, R a b → R a (b.undergo hash x))
    (side : Side) :
    ∀ c ∈ now :: past, R (c.host side) (now.host side) := by
  have hHead :
      ∀ last ∈ (now :: past).head?, ∀ c ∈ now :: past,
        R (c.host side) (last.host side) := by
    refine Run.induct
      (P := fun trace =>
        ∀ last ∈ trace.head?, ∀ c ∈ trace,
          R (c.host side) (last.host side))
      hRun ?_ ?_
    · rintro last hLast c hc
      rw [← Option.some.inj hLast, List.mem_singleton.mp hc]
      exact hRefl _
    · rintro now before past hRun ih last hLast c hc
      rw [← Option.some.inj hLast]
      rcases List.mem_cons.mp hc with rfl | hPast
      · exact hRefl _
      · have hBefore := ih before rfl c hPast
        rcases hRun.undergoes side with hSame | ⟨x, hNow⟩
        · rw [hSame]
          exact hBefore
        · rw [hNow]
          exact hUndergo _ _ x hBefore
  exact hHead now rfl

end Link

end Interchain

------------------------------------------------------------
-- Counting
------------------------------------------------------------

namespace Interchain

namespace Link

variable {hash : Hash} {link : Link hash}
variable {allowed : Action → Prop}
variable {now c : Chains} {past : List Chains}

/- No end was at a later attempt than it is at last. -/
theorem Run.attempt_le_last
    (hRun : link.Run allowed (now :: past))
    (side : Side)
    (hc : c ∈ now :: past) :
    (link.records side c).attempt ≤
      (link.records side now).attempt :=
  hRun.related_last
    (R := fun a b =>
      (a.records (link.key side)).attempt ≤
        (b.records (link.key side)).attempt)
    (fun _ => le_refl _)
    (fun _ b x hLe =>
      hLe.trans (b.attempt_undergo_le hash x (link.key side)))
    side c hc

/- Nor was any later packet next to be sent. -/
theorem Run.next_le_last
    {n : Sequence}
    (hRun : link.Run allowed (now :: past))
    (side : Side)
    (hc : c ∈ now :: past)
    (hNext : (link.records side c).next? = some n) :
    ∃ last,
      (link.records side now).next? = some last ∧ n ≤ last := by
  have hCounts :=
    hRun.related_last
      (R := fun a b =>
        ∀ n, (a.records (link.key side)).next? = some n →
          ∃ last,
            (b.records (link.key side)).next? = some last ∧
              n ≤ last)
      (fun _ n hSame => ⟨n, hSame, le_refl n⟩)
      (fun a b x hBefore n hFirst => by
        rcases hBefore n hFirst with ⟨m, hm, hLe⟩
        rcases Host.next_undergo_le hash x hm with
          ⟨last, hLast, hAfter⟩
        exact ⟨last, hLast, hLe.trans hAfter⟩)
      side c hc
  exact hCounts n hNext

/- Attempts stay below the limit if they end there. -/
theorem Run.belowLimit
    (hRun : link.Run allowed (now :: past))
    (hLast :
      ∀ side,
        (link.records side now).attempt.number ≠
          Word.greatest) :
    link.BelowLimit (now :: past) :=
  fun _ hc side =>
    Sequence.number_ne_greatest_of_le
      (hRun.attempt_le_last side hc) (hLast side)

end Link

end Interchain
