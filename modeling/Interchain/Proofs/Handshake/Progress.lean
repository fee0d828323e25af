import Interchain.Proofs.Channel.Sequence
import Interchain.Proofs.Handshake.Step

/-
  How far an attempt has come, and what holds on the way.

  Within an attempt an end is first open with a proposal, then
  flushes, then is done flushing, and then is open without a
  proposal.  It never goes back to an earlier phase, and what
  it proposes stays the same until the last.

  Main declarations:
    * `Records.phase`
    * `Records.Precedes`
    * `Records.Sound`
    * `Records.Completes`

  Main statements:
    * `Records.Precedes.trans`
    * `Records.Proceeds.precedes`
    * `Records.Concludes.precedes`
-/

------------------------------------------------------------
-- Phases
------------------------------------------------------------

namespace Interchain

namespace Records

variable {r : Records}

/- The attempt that a channel is at. -/
abbrev attempt (r : Records) : Sequence :=
  r.channel.upgradeSequence

/- The end is past open in an attempt. -/
def IsUpgrading (n : Sequence) (r : Records) : Prop :=
  r.attempt = n ∧
    (r.channel.state = .flushing ∨
      r.channel.state = .flushComplete)

/- An end that takes part in an attempt is not open. -/
theorem IsUpgrading.state_ne
    {n : Sequence}
    (hUpgrading : r.IsUpgrading n) :
    r.channel.state ≠ .open := by
  rcases hUpgrading.2 with hState | hState <;>
    rw [hState] <;> decide

/- The fields that an end proposes. -/
def proposal? (r : Records) : Option UpgradeFields :=
  r.upgrade?.map Upgrade.fields

/- The channel end as it is between attempts. -/
def base (r : Records) : ChannelEnd :=
  { r.channel with state := .open }

/- How far the attempt of a channel has come. -/
def phase (r : Records) : Nat :=
  match r.channel.state with
  | .flushing => 1
  | .flushComplete => 2
  | _ => if r.upgrade?.isSome then 0 else 3

/- The last phase is the third. -/
theorem phase_le (r : Records) : r.phase ≤ 3 := by
  unfold phase
  split
  · simp
  · simp
  · split <;> simp

/- Flushing is the first phase of an answer. -/
theorem phase_of_flushing
    (hState : r.channel.state = .flushing) :
    r.phase = 1 := by
  simp [phase, hState]

theorem phase_of_flushComplete
    (hState : r.channel.state = .flushComplete) :
    r.phase = 2 := by
  simp [phase, hState]

/- An open end has its attempt before it, or behind it. -/
theorem phase_of_open
    (hState : r.channel.state = .open) :
    r.phase = if r.upgrade?.isSome then 0 else 3 := by
  simp [phase, hState]

/- An end that is restored has its attempt behind it. -/
theorem phase_restored
    (r : Records)
    (sequence : Sequence)
    (receipt : ErrorReceipt) :
    (r.restored sequence receipt).phase = 3 := by
  simp [phase, restored, ChannelEnd.restored]

theorem phase_opened (r : Records) (u : Upgrade) :
    (r.opened u).phase = 3 := by
  simp [phase, opened]

end Records

end Interchain

------------------------------------------------------------
-- Order of Records
------------------------------------------------------------

namespace Interchain

namespace Records

/-
  Records of one attempt, the later after the earlier.  The end
  keeps its fields unless the attempt is among those that it
  completed.
-/
structure Continues
    (turned : Sequence → Prop)
    (earlier later : Records) : Prop where
  phase : earlier.phase ≤ later.phase
  base :
    later.base = earlier.base ∨
      earlier.phase ≤ 2 ∧ later.phase = 3 ∧
        turned earlier.attempt
  proposal :
    later.phase ≤ 2 → later.proposal? = earlier.proposal?

/- Records of one channel, the later after the earlier. -/
structure Precedes
    (turned : Sequence → Prop)
    (earlier later : Records) : Prop where
  attempt : earlier.attempt ≤ later.attempt
  same :
    earlier.attempt = later.attempt →
      Continues turned earlier later

variable {turned : Sequence → Prop} {a b c : Records}

/- Records that go on twice go on. -/
theorem Continues.trans
    (hab : Continues turned a b)
    (hbc : Continues turned b c)
    (hAttempt : a.attempt = b.attempt) :
    Continues turned a c where
  phase := le_trans hab.phase hbc.phase
  base := by
    have hMiddle := hab.phase
    have hLast := hbc.phase
    have hBound := c.phase_le
    rcases hbc.base with hSame | ⟨hLow, hHigh, hTurned⟩
    · rcases hab.base with hFirst | ⟨hLow, hHigh, hTurned⟩
      · exact Or.inl (hSame.trans hFirst)
      · exact Or.inr ⟨hLow, by omega, hTurned⟩
    · rw [← hAttempt] at hTurned
      exact Or.inr ⟨by omega, hHigh, hTurned⟩
  proposal := by
    intro hLow
    have hLast := hbc.phase
    exact (hbc.proposal hLow).trans
      (hab.proposal (by omega))

/- Later than later is later. -/
theorem Precedes.trans
    (hab : Precedes turned a b)
    (hbc : Precedes turned b c) :
    Precedes turned a c where
  attempt := le_trans hab.attempt hbc.attempt
  same := by
    intro hEq
    have hFirst : a.attempt = b.attempt :=
      le_antisymm hab.attempt (hEq ▸ hbc.attempt)
    exact (hab.same hFirst).trans
      (hbc.same (hFirst.symm.trans hEq)) hFirst

/- Records that differ in packets and the counterparty's
   proposal alone. -/
theorem precedes_of_eq
    (hChannel : b.channel = a.channel)
    (hUpgrade : b.upgrade? = a.upgrade?) :
    Precedes turned a b where
  attempt := by
    rw [attempt, attempt, hChannel]
  same := by
    intro _
    refine ⟨?_, Or.inl ?_, fun _ => ?_⟩
    · simp [phase, hChannel, hUpgrade]
    · rw [base, base, hChannel]
    · rw [proposal?, proposal?, hUpgrade]

theorem Precedes.refl (r : Records) : Precedes turned r r :=
  precedes_of_eq rfl rfl

/- A later attempt comes after an earlier one. -/
theorem precedes_of_lt
    (hAttempt : a.attempt < b.attempt) :
    Precedes turned a b where
  attempt := le_of_lt hAttempt
  same := fun hEq => absurd hEq (ne_of_lt hAttempt)

/- One of two records comes first. -/
def Comparable (turned : Sequence → Prop) (a b : Records) :
    Prop :=
  Precedes turned a b ∨ Precedes turned b a

instance : Std.Symm (Comparable turned) :=
  ⟨fun _ _ => Or.symm⟩

theorem Comparable.refl (r : Records) :
    Comparable turned r r :=
  Or.inl (Precedes.refl r)

/- More attempts may have been completed. -/
theorem Precedes.mono
    {turned' : Sequence → Prop}
    (hPrecedes : Precedes turned a b)
    (hTurned : ∀ n, turned n → turned' n) :
    Precedes turned' a b where
  attempt := hPrecedes.attempt
  same := by
    intro hEq
    rcases hPrecedes.same hEq with ⟨hPhase, hBase, hProposal⟩
    refine ⟨hPhase, ?_, hProposal⟩
    exact hBase.imp_right fun ⟨hLow, hHigh, hDone⟩ =>
      ⟨hLow, hHigh, hTurned _ hDone⟩

end Records

end Interchain

------------------------------------------------------------
-- Sound Records
------------------------------------------------------------

namespace Interchain

/- A counterparty that was open with a proposal, or flushing,
   mirrors the end and proposes what is compatible. -/
structure Outlook.Answered
    (o : Outlook)
    (r seen : Records) : Prop where
  proven : o.proven seen
  state :
    seen.channel.state = .open ∨
      seen.channel.state = .flushing
  mirrors :
    o.Mirrors r.channel seen.channel.state seen.channel
  compatible :
    ∃ own answer,
      r.proposal? = some own ∧
        seen.proposal? = some answer ∧
        o.Compatible own answer

namespace Records

/-
  What holds of the records of a channel at all times.  An end
  that is past open has a proposal that was answered, and one
  that is done flushing has nothing in flight.
-/
structure Sound
    (o : Outlook)
    (peer : ChannelPeer)
    (r : Records) : Prop where
  state :
    r.channel.state = .open ∨
      r.channel.state = .flushing ∨
      r.channel.state = .flushComplete
  peer : r.channel.peer = peer
  hops : r.channel.hops.length = 1
  proposal :
    ∀ fields, r.proposal? = some fields →
      fields.hops.length = 1 ∧ r.channel.fields ≠ fields
  drained :
    r.channel.state = .flushComplete → r.inFlight = ∅
  answered :
    r.channel.state ≠ .open →
      ∃ seen, o.Answered r seen

/-
  An answer to an open proposal carries its version.  This is
  what two ends that answer each other achieve together.
-/
def AnswersAgree (o : Outlook) (r : Records) : Prop :=
  ∀ seen own answer,
    o.proven seen →
      seen.channel.state = .flushing →
      o.Mirrors r.channel .flushing seen.channel →
      r.channel.state = .open →
      r.proposal? = some own →
      seen.proposal? = some answer →
      answer.version = own.version

variable {o : Outlook} {peer : ChannelPeer} {r r' : Records}

/- A proposal that counts for the attempt is stored. -/
theorem upgrade?_of_proposal?
    {fields : UpgradeFields}
    (hProposal : r.proposal? = some fields) :
    r.upgrade?.isSome := by
  unfold proposal? at hProposal
  cases hUpgrade : r.upgrade? with
  | none => simp [hUpgrade] at hProposal
  | some u => rfl

/- An end that is past open has a proposal. -/
theorem Sound.upgrade
    (hSound : Sound o peer r)
    (hState : r.channel.state ≠ .open) :
    r.upgrade?.isSome := by
  rcases hSound.answered hState with ⟨seen, hAnswered⟩
  rcases hAnswered.compatible with ⟨own, _, hOwn, _⟩
  exact upgrade?_of_proposal? hOwn

/- Having a proposal and being in an early phase are one. -/
theorem Sound.phase_le_two_iff
    (hSound : Sound o peer r) :
    r.phase ≤ 2 ↔ r.upgrade?.isSome := by
  rcases hSound.state with hOpen | hFlushing | hDone
  · rw [phase_of_open hOpen]
    split <;> simp_all
  · have hUpgrade := hSound.upgrade (by rw [hFlushing]; simp)
    simp [phase_of_flushing hFlushing, hUpgrade]
  · have hUpgrade := hSound.upgrade (by rw [hDone]; simp)
    simp [phase_of_flushComplete hDone, hUpgrade]

/- In its last phase an end is open. -/
theorem Sound.channel_eq_base
    (hSound : Sound o peer r)
    (hPhase : r.phase = 3) :
    r.channel = r.base := by
  have hState : r.channel.state = .open := by
    rcases hSound.state with hOpen | hFlushing | hDone
    · exact hOpen
    · rw [phase_of_flushing hFlushing] at hPhase
      omega
    · rw [phase_of_flushComplete hDone] at hPhase
      omega
  rw [base, ← hState]

/- What was sound stays so as more is proven. -/
theorem Sound.mono
    {o' : Outlook}
    (hSound : Sound o peer r)
    (hKey : o'.key = o.key)
    (hAcross : o'.across = o.across)
    (hHears : o'.hears = o.hears)
    (hProven : ∀ seen, o.proven seen → o'.proven seen) :
    Sound o' peer r where
  state := hSound.state
  peer := hSound.peer
  hops := hSound.hops
  proposal := hSound.proposal
  drained := hSound.drained
  answered := by
    intro hState
    rcases hSound.answered hState with
      ⟨seen, hSeen, hEarly, hMirrors, hCompatible⟩
    refine ⟨seen, hProven seen hSeen, hEarly, ?_, ?_⟩
    · unfold Outlook.Mirrors at *
      rwa [hKey, hAcross, hHears]
    · unfold Outlook.Compatible at *
      rwa [hAcross]

end Records

end Interchain

------------------------------------------------------------
-- Attempts That Go On
------------------------------------------------------------

namespace Interchain

namespace Records

variable {o : Outlook} {peer : ChannelPeer} {r r' : Records}
variable {turned : Sequence → Prop}

/- An attempt is not counted down as it proceeds. -/
theorem Proceeds.attempt_le
    (hStep : Proceeds o r r') :
    r.attempt ≤ r'.attempt := by
  cases hStep with
  | propose u last hState hLast hValid hChange =>
      exact le_trans hLast (Sequence.le_next last)
  | _ => exact le_refl _

/- The settled proposal is the proposal that was made. -/
theorem settled_eq
    {own settled answer : Upgrade}
    {seen : Records}
    (hAgree : AnswersAgree o r)
    (hState : r.channel.state = .open)
    (hOwn : r.upgrade? = some own)
    (hProven : o.proven seen)
    (hAnswer : seen.upgrade? = some answer)
    (hMirrors :
      o.Mirrors r.channel seen.channel.state seen.channel)
    (hFields :
      settled.fields = own.fields ∨
        seen.channel.state = .flushing ∧
          settled.fields =
            { own.fields with
              version := answer.fields.version }) :
    settled.fields = own.fields := by
  rcases hFields with hSame | ⟨hFlushing, hSettled⟩
  · exact hSame
  · have hVersion :
        answer.fields.version = own.fields.version :=
      hAgree seen own.fields answer.fields hProven hFlushing
        (hFlushing ▸ hMirrors) hState
        (by simp [proposal?, hOwn])
        (by simp [proposal?, hAnswer])
    rw [hSettled, hVersion]

/- An attempt that goes on comes after what it was. -/
theorem Proceeds.precedes
    (hStep : Proceeds o r r')
    (hAgree : AnswersAgree o r)
    (hLimit : r'.attempt.number ≠ Word.greatest) :
    Precedes turned r r' := by
  cases hStep with
  | resolve s => exact precedes_of_eq rfl rfl
  | learn counterparty hState => exact precedes_of_eq rfl rfl
  | propose u last hState hLast hValid hChange =>
      apply precedes_of_lt
      exact lt_of_le_of_lt hLast (Sequence.lt_next hLimit)
  | flush own settled answer seen hState hOwn hProven hAnswer
      hSeen hMirrors hFields hCompatible =>
      have hSettled :=
        settled_eq hAgree hState hOwn hProven hAnswer hMirrors
          hFields
      refine ⟨le_refl _, fun _ => ⟨?_, Or.inl rfl, ?_⟩⟩
      · rw [phase_of_open hState, hOwn]
        simp
      · intro _
        simp [proposal?, hOwn, hSettled]
  | drain hState hEmpty =>
      refine ⟨le_refl _, fun _ => ⟨?_, Or.inl rfl, ?_⟩⟩
      · rw [phase_of_flushing hState,
          phase_of_flushComplete rfl]
        omega
      · intro _
        rfl

/- An attempt that goes on stays sound. -/
theorem Proceeds.sound
    (hStep : Proceeds o r r')
    (hSound : Sound o peer r)
    (hAgree : AnswersAgree o r) :
    Sound o peer r' := by
  rcases hSound with
    ⟨hStates, hPeer, hHops, hProposal, hDrained, hAnswered⟩
  cases hStep with
  | resolve s =>
      refine ⟨hStates, hPeer, hHops, hProposal, ?_, ?_⟩
      · intro hState
        rw [hDrained hState]
        exact Set.empty_sdiff _
      · intro hState
        rcases hAnswered hState with ⟨seen, hSeen⟩
        exact ⟨seen, hSeen.proven, hSeen.state, hSeen.mirrors,
          hSeen.compatible⟩
  | learn counterparty hState =>
      refine ⟨hStates, hPeer, hHops, hProposal, hDrained, ?_⟩
      intro hNotOpen
      rcases hAnswered hNotOpen with ⟨seen, hSeen⟩
      exact ⟨seen, hSeen.proven, hSeen.state, hSeen.mirrors,
        hSeen.compatible⟩
  | propose u last hState hLast hValid hChange =>
      refine ⟨hStates, hPeer, hHops, ?_, ?_, ?_⟩
      · intro fields hFields
        have hEq : u.fields = fields := by
          simpa [proposal?] using hFields
        rw [← hEq]
        exact ⟨((UpgradeFields.validate_eq_ok_iff _).mp
          hValid).2.1, hChange⟩
      · intro hDone
        rw [hState] at hDone
        simp at hDone
      · intro hNotOpen
        exact (hNotOpen hState).elim
  | flush own settled answer seen hState hOwn hProven hAnswer
      hSeen hMirrors hFields hCompatible =>
      have hSettled :=
        settled_eq hAgree hState hOwn hProven hAnswer hMirrors
          hFields
      refine ⟨Or.inr (Or.inl rfl), hPeer, hHops, ?_, ?_, ?_⟩
      · intro fields hChosen
        apply hProposal fields
        rw [← hChosen]
        simp [proposal?, hOwn, hSettled]
      · intro hDone
        simp at hDone
      · intro _
        exact ⟨seen, hProven, hSeen, hMirrors,
          settled.fields, answer.fields, rfl,
          by simp [proposal?, hAnswer], hCompatible⟩
  | drain hState hEmpty =>
      refine ⟨Or.inr (Or.inr rfl), hPeer, hHops, hProposal,
        fun _ => hEmpty, ?_⟩
      intro _
      rcases hAnswered (by rw [hState]; simp) with ⟨seen, hSeen⟩
      exact ⟨seen, hSeen.proven, hSeen.state, hSeen.mirrors,
        hSeen.compatible⟩

end Records

end Interchain

------------------------------------------------------------
-- Attempts That End
------------------------------------------------------------

namespace Interchain

namespace Records

variable {o : Outlook} {peer : ChannelPeer} {r r' : Records}
variable {turned : Sequence → Prop}

/- An end switches to the fields of its upgrade, at an
   attempt. -/
def Completes (n : Sequence) (before after : Records) : Prop :=
  before.IsUpgrading n ∧
    ∃ u,
      before.upgrade? = some u ∧
        after.channel =
          { before.channel.applyFields u.fields with
            state := .open } ∧
        after.upgrade? = none

/- An end that completes an attempt stays at it. -/
theorem Completes.attempt_eq
    {n : Sequence}
    (hCompletes : Completes n r r') :
    r'.attempt = n := by
  rcases hCompletes with ⟨⟨hAttempt, _⟩, _, _, hChannel, _⟩
  rw [attempt, hChannel]
  exact hAttempt

/- It then has the attempt behind it. -/
theorem Completes.phase_eq
    {n : Sequence}
    (hCompletes : Completes n r r') :
    r'.phase = 3 := by
  rcases hCompletes with ⟨_, _, _, hChannel, hDropped⟩
  rw [phase_of_open (by rw [hChannel]), hDropped]
  rfl

/- An end that is done completes its attempt by opening. -/
theorem completes_opened
    {u : Upgrade}
    (hState : r.channel.state = .flushComplete)
    (hUpgrade : r.upgrade? = some u) :
    Completes r.attempt r (r.opened u) :=
  ⟨⟨rfl, Or.inr hState⟩, u, hUpgrade, rfl, rfl⟩

/- An attempt ends by opening or by being restored. -/
theorem Concludes.cases_opened
    (hStep : Concludes o r r') :
    (∃ u, r.channel.state = .flushComplete ∧
        r.upgrade? = some u ∧ r' = r.opened u) ∨
      ∃ sequence receipt,
        r.attempt ≤ sequence ∧
          r' = r.restored sequence receipt := by
  cases hStep with
  | reopen u seen hState hUpgrade hProven hSeen =>
      exact Or.inl ⟨u, hState, hUpgrade, rfl⟩
  | abort error hUpgrade hState hSequence =>
      exact Or.inr ⟨_, _, le_max_left _ _, rfl⟩
  | cancel receipt seen hUpgrade hSequence hProven hSeen =>
      exact Or.inr ⟨_, _, le_max_left _ _, rfl⟩
  | overrule receipt hUpgrade hSequence hState =>
      exact Or.inr ⟨_, _, le_max_left _ _, rfl⟩

theorem Concludes.attempt_le
    (hStep : Concludes o r r') :
    r.attempt ≤ r'.attempt := by
  rcases hStep.cases_opened with
    ⟨u, _, _, rfl⟩ | ⟨sequence, receipt, hLe, rfl⟩
  · exact le_refl _
  · exact hLe

/- An attempt concludes after all that came before, if it is
   counted as completed where it is. -/
theorem Concludes.precedes
    (hStep : Concludes o r r')
    (hTurned :
      r.channel.state = .flushComplete →
        Completes r.attempt r r' → turned r.attempt) :
    Precedes turned r r' := by
  rcases hStep.cases_opened with
    ⟨u, hState, hUpgrade, rfl⟩ |
      ⟨sequence, receipt, hLe, rfl⟩
  · refine ⟨le_refl _, fun _ => ⟨?_, Or.inr ?_, ?_⟩⟩
    · rw [phase_opened]
      exact r.phase_le
    · exact ⟨by rw [phase_of_flushComplete hState],
        phase_opened r u,
        hTurned hState (completes_opened hState hUpgrade)⟩
    · intro hLow
      rw [phase_opened] at hLow
      omega
  · refine ⟨hLe, fun hEq => ⟨?_, Or.inl ?_, ?_⟩⟩
    · rw [phase_restored]
      exact r.phase_le
    · have hSequence : r.channel.upgradeSequence = sequence :=
        hEq
      simp [base, restored, ChannelEnd.restored, hSequence]
    · intro hLow
      rw [phase_restored] at hLow
      omega

/- What an attempt concludes in is sound. -/
theorem Concludes.sound
    (hStep : Concludes o r r')
    (hSound : Sound o peer r) :
    Sound o peer r' := by
  rcases hStep.cases_opened with
    ⟨u, _, hUpgrade, rfl⟩ | ⟨sequence, receipt, _, rfl⟩
  · have hHops :=
      (hSound.proposal u.fields
        (by simp [proposal?, hUpgrade])).1
    refine ⟨Or.inl rfl, hSound.peer, hHops, ?_, ?_, ?_⟩
    · intro fields hFields
      simp [proposal?, opened] at hFields
    · intro hDone
      simp [opened] at hDone
    · intro hNotOpen
      simp [opened] at hNotOpen
  · refine ⟨Or.inl rfl, hSound.peer, hSound.hops, ?_, ?_, ?_⟩
    · intro fields hFields
      simp [proposal?, restored] at hFields
    · intro hDone
      simp [restored, ChannelEnd.restored] at hDone
    · intro hNotOpen
      simp [restored, ChannelEnd.restored] at hNotOpen

end Records

end Interchain

------------------------------------------------------------
-- Moves
------------------------------------------------------------

namespace Interchain

namespace Records

variable {o : Outlook} {r r' : Records}

/- What packets do not matter to, and what each step of an
   attempt keeps, a move keeps. -/
theorem Moves.keeps
    {P : Records → Prop}
    (hMoves : Moves o r r')
    (hLimit : r'.attempt.number ≠ Word.greatest)
    (hPackets :
      ∀ inFlight next?,
        P { r with inFlight := inFlight, next? := next? })
    (hProceeds :
      ∀ {a b}, Proceeds o a b →
        b.attempt.number ≠ Word.greatest → P a → P b)
    (hConcludes : ∀ {a b}, Concludes o a b → P a → P b) :
    P r' := by
  have hStart : P r := hPackets r.inFlight r.next?
  cases hMoves with
  | rest => exact hStart
  | send s hState hNext => exact hPackets _ _
  | proceed hStep => exact hProceeds hStep hLimit hStart
  | proceedTwice hFirst hSecond =>
      have hMiddle :=
        Sequence.number_ne_greatest_of_le hSecond.attempt_le
          hLimit
      exact hProceeds hSecond hLimit
        (hProceeds hFirst hMiddle hStart)
  | conclude hStep => exact hConcludes hStep hStart
  | proceedConclude hFirst hStep =>
      have hMiddle :=
        Sequence.number_ne_greatest_of_le hStep.attempt_le
          hLimit
      exact hConcludes hStep (hProceeds hFirst hMiddle hStart)

end Records

end Interchain
