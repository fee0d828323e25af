import Interchain.Proofs.Link.Agreement
import Interchain.Proofs.Link.Limits
import Interchain.Proofs.Mirror.Completion

/-
  Packets drain before a channel changes.

  An end that opens has nothing in flight, and saw the other
  end either done flushing or already open with its new
  fields.  Either way the other end had nothing in flight at
  some moment after it started to flush, and whatever it has
  in flight now was sent later.

  Main declarations:
    * `Records.SendsOn`
    * `Records.Numbered`
    * `Link.PacketsBelowLimit`
    * `Fixture.ladenLink`

  Main statements:
    * `Link.Run.drained_of_stepped`
    * `Link.Run.drained_when_completed`
    * `Fixture.sample_drained_when_completed`
-/

------------------------------------------------------------
-- Packets in Flight
------------------------------------------------------------

namespace Interchain

namespace Records

variable {o : Outlook} {a b c r r' : Records}

/- Later records have a packet in flight only if the earlier
   ones had it, or if it was sent since. -/
structure SendsOn (earlier later : Records) : Prop where
  next :
    ∀ n, later.next? = some n →
      ∃ m, earlier.next? = some m ∧ m ≤ n
  inFlight :
    ∀ s ∈ later.inFlight,
      s ∈ earlier.inFlight ∨
        ∃ m, earlier.next? = some m ∧ m ≤ s

/- Packets in flight come before the next one to send. -/
def Numbered (r : Records) : Prop :=
  ∀ s ∈ r.inFlight, ∀ n, r.next? = some n → s < n

/- What was sent on twice was sent later. -/
theorem SendsOn.trans
    (hab : SendsOn a b)
    (hbc : SendsOn b c) :
    SendsOn a c where
  next := by
    intro n hn
    rcases hbc.next n hn with ⟨m, hm, hmn⟩
    rcases hab.next m hm with ⟨l, hl, hlm⟩
    exact ⟨l, hl, le_trans hlm hmn⟩
  inFlight := by
    intro s hs
    rcases hbc.inFlight s hs with hOld | ⟨m, hm, hms⟩
    · exact hab.inFlight s hOld
    · rcases hab.next m hm with ⟨l, hl, hlm⟩
      exact Or.inr ⟨l, hl, le_trans hlm hms⟩

/- Packets that are only resolved were sent before. -/
theorem sendsOn_of_subset
    (hNext : r'.next? = r.next?)
    (hSubset : r'.inFlight ⊆ r.inFlight) :
    SendsOn r r' where
  next := by
    intro n hn
    exact ⟨n, hNext ▸ hn, le_refl n⟩
  inFlight := fun s hs => Or.inl (hSubset hs)

theorem Numbered.of_subset
    (hNumbered : r.Numbered)
    (hNext : r'.next? = r.next?)
    (hSubset : r'.inFlight ⊆ r.inFlight) :
    r'.Numbered :=
  fun s hs n hn => hNumbered s (hSubset hs) n (hNext ▸ hn)

/- An attempt sends nothing. -/
theorem Proceeds.keeps_packets
    (hStep : Proceeds o r r') :
    r'.next? = r.next? ∧ r'.inFlight ⊆ r.inFlight := by
  cases hStep with
  | resolve s => exact ⟨rfl, Set.sdiff_subset⟩
  | _ => exact ⟨rfl, subset_rfl⟩

/- Concluding an attempt sends nothing. -/
theorem Concludes.keeps_packets
    (hStep : Concludes o r r') :
    r'.next? = r.next? ∧ r'.inFlight ⊆ r.inFlight := by
  cases hStep <;> exact ⟨rfl, subset_rfl⟩

/- Only sending a packet adds one. -/
theorem Moves.keeps_packets_or_sends
    (hMoves : Moves o r r') :
    (r'.next? = r.next? ∧ r'.inFlight ⊆ r.inFlight) ∨
      ∃ s, r.next? = some s ∧ r'.next? = some s.next ∧
        r'.inFlight = insert s r.inFlight := by
  cases hMoves with
  | rest => exact Or.inl ⟨rfl, subset_rfl⟩
  | send s hState hNext => exact Or.inr ⟨s, hNext, rfl, rfl⟩
  | proceed hStep => exact Or.inl hStep.keeps_packets
  | proceedTwice hFirst hSecond =>
      rcases hFirst.keeps_packets with ⟨hNext, hSubset⟩
      rcases hSecond.keeps_packets with ⟨hNext', hSubset'⟩
      exact Or.inl
        ⟨hNext'.trans hNext, hSubset'.trans hSubset⟩
  | conclude hStep => exact Or.inl hStep.keeps_packets
  | proceedConclude hFirst hStep =>
      rcases hFirst.keeps_packets with ⟨hNext, hSubset⟩
      rcases hStep.keeps_packets with ⟨hNext', hSubset'⟩
      exact Or.inl
        ⟨hNext'.trans hNext, hSubset'.trans hSubset⟩

/- A move sends on. -/
theorem Moves.sendsOn (hMoves : Moves o r r') :
    SendsOn r r' := by
  rcases hMoves.keeps_packets_or_sends with
    ⟨hNext, hSubset⟩ | ⟨s, hNext, hNext', hInFlight⟩
  · exact sendsOn_of_subset hNext hSubset
  · refine ⟨?_, ?_⟩
    · intro n hn
      rw [hNext', Option.some.injEq] at hn
      exact ⟨s, hNext, hn ▸ s.le_next⟩
    · intro t ht
      rw [hInFlight] at ht
      rcases ht with rfl | hOld
      · exact Or.inr ⟨t, hNext, le_refl t⟩
      · exact Or.inl hOld

/- It sends the next packet, if any. -/
theorem Moves.numbered
    (hMoves : Moves o r r')
    (hNumbered : r.Numbered)
    (hLimit :
      ∀ n, r'.next? = some n → n.number ≠ Word.greatest) :
    r'.Numbered := by
  rcases hMoves.keeps_packets_or_sends with
    ⟨hNext, hSubset⟩ | ⟨s, hNext, hNext', hInFlight⟩
  · exact hNumbered.of_subset hNext hSubset
  · intro t ht n hn
    have hCounted := Sequence.lt_next (hLimit _ hNext')
    rw [hNext', Option.some.injEq] at hn
    rw [hInFlight] at ht
    rcases ht with rfl | hOld
    · exact hn ▸ hCounted
    · exact hn ▸ lt_trans (hNumbered t hOld s hNext) hCounted

/- After records with nothing in flight, only what was sent
   since is. -/
theorem SendsOn.notMem_of_drained
    {d z now : Records}
    (hBefore : SendsOn z d)
    (hAfter : SendsOn d now)
    (hDrained : d.inFlight = ∅)
    (hNumbered : z.Numbered)
    {s : Sequence}
    (hs : s ∈ z.inFlight) :
    s ∉ now.inFlight := by
  intro hNow
  rcases hAfter.inFlight s hNow with hOld | ⟨m, hm, hms⟩
  · rw [hDrained] at hOld
    exact hOld
  · rcases hBefore.next m hm with ⟨l, hl, hlm⟩
    have hLt := hNumbered s hs l hl
    exact absurd (le_trans hlm hms) (not_le_of_gt hLt)

end Records

end Interchain

------------------------------------------------------------
-- Completions in Runs
------------------------------------------------------------

namespace Interchain

namespace Link

variable {hash : Hash} {link : Link hash}
variable {allowed : Action → Prop}
variable {now before : Chains} {past trace : List Chains}
variable {side : Side} {n : Sequence}

/- An end that completes an attempt in the last step opens on
   what the other chain held before. -/
theorem Run.reopens_last
    (hRun : link.Run allowed (now :: before :: past))
    (hOrdinary : ∀ a, allowed a → a.IsOrdinary)
    (hFree : CollisionFree hash allowed (now :: before :: past))
    (hLimit : link.BelowLimit (now :: before :: past))
    (hCompletes :
      Records.Completes n (link.records side before)
        (link.records side now)) :
    ∃ u seen,
      Records.Reopens (link.outlook (before :: past) side)
        (link.records side before) (link.records side now)
        u seen := by
  have hInvariant :=
    hRun.cases_step.1.invariant hOrdinary hFree.of_cons
      hLimit.of_cons
  have hMoves :=
    hRun.moves_last hOrdinary hFree.of_cons hLimit.of_cons side
  exact hMoves.reopens_of_completes
    (hInvariant.sound side _ List.mem_cons_self) hCompletes

/- An end that completes an attempt has nothing in flight. -/
theorem Run.drained_of_stepped
    (hRun : link.Run allowed trace)
    (hOrdinary : ∀ a, allowed a → a.IsOrdinary)
    (hFree : CollisionFree hash allowed trace)
    (hLimit : link.BelowLimit trace)
    {r r' : Records}
    (hStepped : link.Stepped trace side r r')
    (hCompletes : Records.Completes n r r') :
    r'.inFlight = ∅ := by
  rcases hStepped with ⟨newer, q, p, older, rfl, rfl, rfl⟩
  rcases
      hRun.of_append.reopens_last hOrdinary hFree.of_append
        hLimit.of_append hCompletes with
    ⟨u, seen, hReopens⟩
  exact hReopens.drained

/- The step out of records that are not among the earlier ones
   leads to records that are not either. -/
theorem Stepped.mem_later
    {r r' : Records}
    {later earlier : List Records}
    (hStepped : link.Stepped trace side r r')
    (hSplit : link.history trace side = later ++ earlier)
    (hr : r ∉ earlier) :
    r' ∈ later := by
  rcases hStepped with ⟨newer, q, p, older, rfl, rfl, rfl⟩
  have hHistory :
      (newer.map (link.records side) ++ [link.records side q]) ++
          link.records side p :: older.map (link.records side) =
        later ++ earlier := by
    simpa [history] using hSplit
  rcases List.append_eq_append_iff.mp hHistory with
    ⟨middle, hLater, _⟩ | ⟨middle, _, hEarlier⟩
  · rw [hLater]
    simp
  · rw [hEarlier] at hr
    simp at hr

/- No two connections lead to one. -/
theorem across_injective
    {id id' hop : ConnectionId}
    (hFirst : (link.start.host side).across id = some hop)
    (hSecond : (link.start.host side).across id' = some hop) :
    id = id' := by
  have hBack := link.leadsBack side id hop hFirst
  rw [link.leadsBack side id' hop hSecond] at hBack
  exact (Option.some.inj hBack).symm

/- An end that mirrors both the fields of an end and a proposal
   leaves no change to propose. -/
theorem fields_eq_of_mirrors
    {c peer opened : ChannelEnd}
    {state : ChannelState}
    {fields : UpgradeFields}
    (hMirrors :
      (link.outlook trace side).Mirrors c state peer)
    (hOpened :
      (link.outlook trace side).MirrorsOpened c fields opened)
    (hSame : peer.fields = opened.fields)
    (hHops : c.hops.length = 1)
    (hFields : fields.hops.length = 1) :
    c.fields = fields := by
  rcases hMirrors with ⟨id, hop, hHop, _, hAcross, rfl⟩
  rcases hOpened with ⟨id', hop', hHop', hAcross', rfl⟩
  simp only [ChannelEnd.fields, ChannelEnd.mirrored,
    ChannelEnd.applyFields, UpgradeFields.mk.injEq,
    List.cons.injEq, and_true] at hSame
  rcases hSame with ⟨hOrder, rfl, hVersion⟩
  have hId : id = id' := across_injective hAcross hAcross'
  subst hId
  have hOwn : c.fields.hops = [id] :=
    hops_eq_of_hop?_eq hHops hHop
  have hTheirs : fields.hops = [id] :=
    hops_eq_of_hop?_eq hFields hHop'
  cases fields
  simp only [ChannelEnd.fields] at hOwn hTheirs ⊢
  rw [hOrder, hVersion, hOwn, hTheirs]

/- The counterparty whose open end is seen has completed the
   attempt: until then its fields are not those agreed. -/
theorem Invariant.turned_of_mirrorsOpened
    (hInvariant : link.Invariant trace)
    {r seen : Records}
    {u : Upgrade}
    (hr : r ∈ link.history trace side)
    (hSeen : seen ∈ link.history trace side.other)
    (hState : r.channel.state ≠ .open)
    (hUpgrade : r.upgrade? = some u)
    (hMirrors :
      (link.outlook trace side).MirrorsOpened r.channel
        u.fields seen.channel) :
    link.Turned trace side.other r.attempt := by
  have hSound := hInvariant.sound side r hr
  rcases hSound.answered hState with ⟨answer, hAnswered⟩
  have hAttempt : answer.attempt = r.attempt :=
    hAnswered.mirrors.attempt_eq
  have hSame : answer.attempt = seen.attempt := by
    rcases hMirrors with ⟨_, _, _, _, hChannel⟩
    rw [hAttempt, Records.attempt, Records.attempt, hChannel]
    rfl
  have hBase : answer.base ≠ seen.base := by
    intro hEq
    have hFields : answer.base.fields = seen.base.fields :=
      congrArg ChannelEnd.fields hEq
    have hProposal :=
      hSound.proposal u.fields
        (by rw [Records.proposal?, hUpgrade, Option.map_some])
    exact hProposal.2
      (fields_eq_of_mirrors hAnswered.mirrors hMirrors hFields
        hSound.hops hProposal.1)
  have hEarly : answer.phase ≤ 2 := by
    rcases hAnswered.compatible with ⟨_, _, _, hAnswer, _⟩
    exact (hInvariant.sound side.other answer
      hAnswered.proven).phase_le_two_iff.mpr
        (Records.upgrade?_of_proposal? hAnswer)
  rcases hInvariant.comparable hAnswered.proven hSeen with
    hFirst | hFirst
  · rcases (hFirst.same hSame).base with
      hEq | ⟨_, _, hTurned⟩
    · exact (hBase hEq.symm).elim
    · exact hAttempt ▸ hTurned
  · rcases (hFirst.same hSame.symm).base with
      hEq | ⟨_, hLast, _⟩
    · exact (hBase hEq).elim
    · omega

/- The end that an end opens on was done flushing, or had
   completed the attempt. -/
theorem Invariant.flushed_or_turned
    (hInvariant : link.Invariant trace)
    {r r' seen : Records}
    {u : Upgrade}
    (hr : r ∈ link.history trace side)
    (hReopens :
      Records.Reopens (link.outlook trace side) r r' u seen) :
    seen ∈ link.history trace side.other ∧
        seen.IsUpgrading r.attempt ∧ seen.inFlight = ∅ ∨
      link.Turned trace side.other r.attempt := by
  rcases hReopens.evidence with hMirrors | hOpened
  · have hState : seen.channel.state = .flushComplete := by
      rcases hMirrors with ⟨_, _, _, _, _, hChannel⟩
      rw [hChannel]
      rfl
    exact Or.inl ⟨hReopens.proven,
      ⟨hMirrors.attempt_eq, Or.inr hState⟩,
      (hInvariant.sound side.other seen
        hReopens.proven).drained hState⟩
  · have hPast : r.IsUpgrading r.attempt :=
      ⟨rfl, hReopens.state⟩
    exact Or.inr
      (hInvariant.turned_of_mirrorsOpened hr hReopens.proven
        hPast.state_ne hReopens.upgrade hOpened)

end Link

end Interchain

------------------------------------------------------------
-- Draining
------------------------------------------------------------

namespace Interchain

namespace Link

variable {hash : Hash} {link : Link hash}
variable {allowed : Action → Prop}
variable {now before : Chains} {past trace : List Chains}
variable {side : Side} {n : Sequence}

/- Packets are numbered below the greatest word. -/
def PacketsBelowLimit
    (link : Link hash)
    (trace : List Chains)
    (side : Side) : Prop :=
  ∀ c ∈ trace, ∀ s,
    (link.records side c).next? = some s →
      s.number ≠ Word.greatest

/- They stay there if the next one to send at last is. -/
theorem Run.packetsBelowLimit
    (hRun : link.Run allowed (now :: past))
    (hLast :
      ∀ s, (link.records side now).next? = some s →
        s.number ≠ Word.greatest) :
    link.PacketsBelowLimit (now :: past) side := by
  intro c hc s hNext
  rcases hRun.next_le_last side hc hNext with ⟨last, hSame, hLe⟩
  exact Sequence.number_ne_greatest_of_le hLe (hLast last hSame)

/- Throughout a run, packets come before the next one. -/
theorem Run.numbered
    (hRun : link.Run allowed trace)
    (hOrdinary : ∀ a, allowed a → a.IsOrdinary)
    (hFree : CollisionFree hash allowed trace)
    (hLimit : link.BelowLimit trace)
    (hPackets : link.PacketsBelowLimit trace side)
    (hStart : (link.records side link.start).Numbered) :
    ∀ r ∈ link.history trace side, r.Numbered := by
  rcases hRun.exists_eq_append_start with ⟨newer, rfl⟩
  have hSince :=
    hRun.forall_since hOrdinary hFree hLimit hStart
      fun hc hMoves hNumbered =>
        hMoves.numbered hNumbered
          (hPackets _ (List.mem_append_left _ hc))
  intro r hr
  rcases List.mem_map.mp hr with ⟨c, hc, rfl⟩
  rcases List.mem_append.mp hc with hNewer | hFirst
  · exact hSince c hNewer
  · rw [List.mem_singleton.mp hFirst]
    exact hStart

/- The other end flushed for an attempt that is completed, and
   had nothing in flight then or right after. -/
theorem Run.flushed_when_completed
    (hRun : link.Run allowed (now :: before :: past))
    (hOrdinary : ∀ a, allowed a → a.IsOrdinary)
    (hFree : CollisionFree hash allowed (now :: before :: past))
    (hLimit : link.BelowLimit (now :: before :: past))
    (hCompletes :
      Records.Completes n (link.records side before)
        (link.records side now)) :
    ∃ r ∈ link.history (before :: past) side.other,
      r.IsUpgrading n ∧
        ∃ drained,
          (drained = r ∨
            link.Stepped (before :: past) side.other r
              drained) ∧
          drained.inFlight = ∅ := by
  rcases hRun.cases_step with ⟨hPast, _⟩
  have hInvariant :=
    hPast.invariant hOrdinary hFree.of_cons hLimit.of_cons
  rcases
      hRun.reopens_last hOrdinary hFree hLimit hCompletes with
    ⟨u, seen, hReopens⟩
  have hAttempt := hCompletes.1.1
  rcases hInvariant.flushed_or_turned List.mem_cons_self
    hReopens with ⟨hSeen, hUpgrading, hDrained⟩ | hTurned
  · rw [hAttempt] at hUpgrading
    exact ⟨seen, hSeen, hUpgrading, seen, Or.inl rfl, hDrained⟩
  · rw [hAttempt] at hTurned
    rcases hTurned with ⟨r, r', hStepped, hTheirs⟩
    exact ⟨r, hStepped.mem.1, hTheirs.1, r', Or.inr hStepped,
      hPast.drained_of_stepped hOrdinary hFree.of_cons
        hLimit.of_cons hStepped hTheirs⟩

/-
  When an end completes an attempt it has nothing in flight.
  The other end flushed for the attempt; and since the time
  before it did there was a moment with nothing in flight, so
  that packets from that time have been resolved.
-/
theorem Run.drained_when_completed
    (hRun : link.Run allowed (now :: before :: past))
    (hOrdinary : ∀ a, allowed a → a.IsOrdinary)
    (hFree : CollisionFree hash allowed (now :: before :: past))
    (hLimit : link.BelowLimit (now :: before :: past))
    (hCompletes :
      Records.Completes n (link.records side before)
        (link.records side now)) :
    (link.records side now).inFlight = ∅ ∧
      (∃ r ∈ link.history (before :: past) side.other,
        r.IsUpgrading n) ∧
      ∀ later earlier,
        link.history (now :: before :: past) side.other =
          later ++ earlier →
        (∀ r ∈ earlier, ¬ r.IsUpgrading n) →
        (∃ r ∈ later, r.inFlight = ∅) ∧
          (link.PacketsBelowLimit (now :: before :: past)
              side.other →
            (link.records side.other link.start).Numbered →
            ∀ r ∈ earlier, ∀ s ∈ r.inFlight,
              s ∉ (link.records side.other now).inFlight) := by
  have hStepped :
      link.Stepped (now :: before :: past) side
        (link.records side before) (link.records side now) :=
    ⟨[], now, before, past, rfl, rfl, rfl⟩
  have hOwn :=
    hRun.drained_of_stepped hOrdinary hFree hLimit hStepped
      hCompletes
  rcases
      hRun.flushed_when_completed hOrdinary hFree hLimit
        hCompletes with
    ⟨r, hMember, hUpgrading, drained, hNext, hDrained⟩
  refine ⟨hOwn, ⟨r, hMember, hUpgrading⟩, ?_⟩
  intro later earlier hSplit hEarlier
  have hLater : drained ∈ later := by
    have hNotEarlier : r ∉ earlier := fun hr =>
      hEarlier r hr hUpgrading
    rcases hNext with rfl | hStep
    · have hHistory :
          drained ∈ link.history (now :: before :: past)
            side.other :=
        List.mem_cons_of_mem _ hMember
      rw [hSplit] at hHistory
      exact (List.mem_append.mp hHistory).resolve_right
        hNotEarlier
    · exact (hStep.cons now).mem_later hSplit hNotEarlier
  refine ⟨⟨drained, hLater, hDrained⟩, ?_⟩
  intro hPackets hStart z hz s hs
  have hSends :=
    hRun.pairwise hOrdinary hFree hLimit Records.Moves.sendsOn
      Records.SendsOn.trans side.other
  have hNumbered : z.Numbered := by
    apply hRun.numbered hOrdinary hFree hLimit hPackets hStart
    rw [hSplit]
    exact List.mem_append_right later hz
  have hAfter :
      Records.SendsOn drained (link.records side.other now) := by
    have hHistory :
        drained ∈ link.history (now :: before :: past)
          side.other := by
      rw [hSplit]
      exact List.mem_append_left earlier hLater
    rcases List.mem_cons.mp hHistory with rfl | hOlder
    · exact Records.sendsOn_of_subset rfl subset_rfl
    · exact (List.pairwise_cons.mp hSends).1 drained hOlder
  rw [hSplit] at hSends
  exact ((List.pairwise_append.mp hSends).2.2 drained hLater z
    hz).notMem_of_drained hAfter hDrained hNumbered hs

/- Throughout a run, the history of a chain begins with its
   start. -/
theorem Run.exists_history_eq
    (hRun : link.Run allowed trace)
    (side : Side) :
    ∃ later,
      link.history trace side =
        later ++ [link.records side link.start] := by
  rcases hRun.exists_eq_append_start with ⟨newer, hTrace⟩
  refine ⟨newer.map (link.records side), ?_⟩
  rw [hTrace, history, List.map_append]
  rfl

end Link

/- A relayer sends no packet. -/
theorem Mirror.Relayed.next_eq
    {mirror : Mirror}
    {hash : Hash}
    {start c : Chains}
    (hRelayed : mirror.Relayed hash start c)
    (side : Side) :
    (mirror.records side c).next? =
      (mirror.records side start).next? := by
  induction hRelayed with
  | start => rfl
  | tell moved _ ih =>
      rcases Side.eq_or_eq_other side moved with rfl | rfl
      · rw [records, Chains.host_replace_self]
        exact ih
      · rw [records, Chains.host_replace_other]
        exact ih
  | @dispatch c moved m _ ih =>
      rcases Side.eq_or_eq_other side moved with rfl | rfl
      · rw [records, Chains.host_replace_self]
        exact
          (Host.evolves_undergo hash (h := c.host side)
            (x := .act (.dispatch m)) rfl).next_eq.trans ih
      · rw [records, Chains.host_replace_other]
        exact ih

namespace Fixture

/- The sample chains with a packet in flight on each, linked by
   their channel. -/
def ladenLink (hash : Hash) : Link hash where
  start := laden hash
  key := key
  order := .unordered
  version := .ics20
  hop := hop
  sequence := fun _ => .zero
  isSlashFree := (link hash).isSlashFree
  clients := by
    intro side
    rw [laden, (hasSameSetting_arranged hash _ side).clients,
      ← host_chains]
    exact (link hash).clients side
  remembered := by
    intro side k state hState
    rw [laden,
      (hasSameSetting_arranged hash _ side).consensusStates]
      at hState
    cases side <;>
      simp [host, chainA, chainB, connected, Host.connect,
        Host.apply, standardChain, chain, Host.create] at hState
  leadsBack := by
    intro side id peer hAcross
    rw [laden, Host.across,
      (hasSameSetting_arranged hash _ _).connections]
      at hAcross ⊢
    exact leadsBack_host hash side id peer hAcross
  storePrefix := by
    intro side id found hFound _
    rw [laden,
      (hasSameSetting_arranged hash _ side).connections]
      at hFound
    rw [laden,
      (hasSameSetting_arranged hash _ side.other).storePrefix]
    exact storePrefix_host hash side id found hFound
  channel := fun side =>
    (standsAlone_laden hash side).stands.channels (by simp)
  hopsFace := by
    intro side
    rw [laden, Host.across,
      (hasSameSetting_arranged hash _ _).connections]
    exact across_hop hash side
  upgrade := fun side =>
    (standsAlone_laden hash side).stands.upgrade

theorem records_ladenLink
    (hash : Hash)
    (side : Side)
    (c : Chains) :
    (ladenLink hash).records side c = mirror.records side c :=
  rfl

/- At the start, all that was sent comes before the next
   packet. -/
theorem numbered_ladenLink (hash : Hash) (side : Side) :
    ((ladenLink hash).records side
      (ladenLink hash).start).Numbered := by
  have hStart :
      (ladenLink hash).records side (ladenLink hash).start = _ :=
    records_laden hash side
  rw [hStart]
  rintro s rfl n hn
  cases hn
  decide

/- At the start, neither end takes part in an attempt. -/
theorem not_isUpgrading_ladenLink
    (hash : Hash)
    (side : Side)
    (n : Sequence) :
    ¬ ((ladenLink hash).records side
        (ladenLink hash).start).IsUpgrading n := by
  intro hUpgrading
  have hState :
      ((ladenLink hash).records side
        (ladenLink hash).start).channel.state = .open :=
    congrArg (fun r : Records => r.channel.state)
      (records_laden hash side)
  exact hUpgrading.state_ne hState

/- The next packet is still the one after those in flight. -/
theorem next_resolved
    {hash : Hash}
    {c : Chains}
    (hRelayed : mirror.Relayed hash (laden hash) c)
    (side : Side) :
    (mirror.records side (resolved hash c)).next? =
      some ⟨2⟩ := by
  have hResolves :
      (mirror.records side (resolved hash c)).next? =
        (mirror.records side c).next? := by
    rw [Mirror.records, host_resolved]
    exact
      (Host.evolves_undergo hash (h := c.host side)
        (x := .act (.resolve ⟨key side, ⟨1⟩⟩)) rfl).next_eq
  rw [hResolves, hRelayed.next_eq side, records_laden]

/- Both packets are resolved one after the other. -/
theorem run_resolved
    {hash : Hash}
    {c : Chains}
    {past : List Chains}
    (hRun :
      (ladenLink hash).Run Action.IsOrdinary (c :: past)) :
    ∃ before,
      (ladenLink hash).Run Action.IsOrdinary
        (resolved hash c :: before :: c :: past) :=
  ⟨_, (hRun.act .left (.resolve ⟨key .left, ⟨1⟩⟩) trivial).act
    .right (.resolve ⟨key .right, ⟨1⟩⟩) trivial⟩

/- Once both packets are resolved, A opens. -/
theorem exists_run_opened (hash : Hash) :
    ∃ now before past,
      (ladenLink hash).Run Action.IsOrdinary
          (now :: before :: past) ∧
        Records.Completes Sequence.zero.next
          ((ladenLink hash).records .left before)
          ((ladenLink hash).records .left now) ∧
        (∀ side,
          ((ladenLink hash).records side now).attempt =
            Sequence.zero.next) ∧
        ((ladenLink hash).records .right now).next? =
          some ⟨2⟩ := by
  rcases exists_resolved hash with
    ⟨c, hRelayed, hCourse, hEmpties, hEmpty⟩
  rcases hRelayed.exists_run (ladenLink hash) with
    ⟨past, hRun⟩
  rcases run_resolved hRun with ⟨between, hResolved⟩
  rcases hEmpties.done (hEmpty .left) with
    ⟨u, hAgreed, hStands⟩
  rcases
      (hCourse.isAt (starts_laden hash)).finishes hEmpty .left
        signer with
    ⟨now, hOpening, hFinished, hOther, _, hAt⟩
  have hNext :
      (mirror.records .right now).next? = some ⟨2⟩ := by
    have hSame :
        mirror.records .right now =
          mirror.records .right (resolved hash c) :=
      congrArg (fun h : Host => h.records (key .right)) hOther
    rw [hSame]
    exact next_resolved hRelayed .right
  cases hOpening with
  | already hState =>
      rw [hStands.channel] at hState
      simp [Mirror.endAt] at hState
  | opens _ =>
      have hOpened :=
        hResolved.after mirror .left
          (.reopen
            (mirror.openMessage hash .left (resolved hash c)
              signer))
      refine ⟨_, _, _, hOpened, ?_⟩
      simp only [records_ladenLink, Mirror.records_told]
      exact
        ⟨hStands.completes hAgreed hFinished,
          hAt.arrives.attempt, hNext⟩

/-
  A and B each have a packet in flight before the attempt.  When
  A completes it, its own packet is resolved; and B flushed for
  it, with its packet resolved as well.
-/
theorem sample_drained_when_completed :
    (∀ side,
        ((ladenLink id).records side
          (ladenLink id).start).inFlight = {⟨1⟩}) ∧
      ∃ now before past later,
        (ladenLink id).Run Action.IsOrdinary
            (now :: before :: past) ∧
          (ladenLink id).BelowLimit (now :: before :: past) ∧
          Records.Completes Sequence.zero.next
            ((ladenLink id).records .left before)
            ((ladenLink id).records .left now) ∧
          ((ladenLink id).records .left now).inFlight = ∅ ∧
          (∃ r ∈ (ladenLink id).history (before :: past) .right,
            r.IsUpgrading Sequence.zero.next) ∧
          (ladenLink id).history (now :: before :: past) .right =
            later ++
              [ (ladenLink id).records .right
                  (ladenLink id).start ] ∧
          (∃ r ∈ later, r.inFlight = ∅) ∧
          ⟨1⟩ ∉ ((ladenLink id).records .right now).inFlight := by
  rcases exists_run_opened id with
    ⟨now, before, past, hRun, hCompletes, hAttempt, hNext⟩
  have hLimit :
      (ladenLink id).BelowLimit (now :: before :: past) :=
    hRun.belowLimit fun side => hAttempt side ▸ by decide
  have hPackets :
      (ladenLink id).PacketsBelowLimit (now :: before :: past)
        .right := by
    apply hRun.packetsBelowLimit
    intro s hs
    rw [hNext] at hs
    cases hs
    decide
  rcases
      hRun.drained_when_completed (fun _ h => h)
        (Link.collisionFree_of_injective Function.injective_id)
        hLimit hCompletes with
    ⟨hOwn, hFlushed, hSince⟩
  rcases hRun.exists_history_eq .right with ⟨later, hHistory⟩
  have hEarlier :
      ∀ r ∈ [ (ladenLink id).records .right
            (ladenLink id).start ],
        ¬ r.IsUpgrading Sequence.zero.next := by
    intro r hr
    rw [List.mem_singleton.mp hr]
    exact not_isUpgrading_ladenLink id .right _
  rcases hSince later _ hHistory hEarlier with
    ⟨hDrained, hResolved⟩
  have hLaden (side : Side) :
      ((ladenLink id).records side
        (ladenLink id).start).inFlight = {⟨1⟩} :=
    congrArg Records.inFlight (records_laden id side)
  refine ⟨hLaden, now, before, past, later, hRun, hLimit,
    hCompletes, hOwn, hFlushed, hHistory, hDrained, ?_⟩
  apply hResolved hPackets (numbered_ladenLink id .right) _
    (List.mem_singleton_self _)
  rw [hLaden]
  rfl

end Fixture

end Interchain
