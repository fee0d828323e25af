import Interchain.Proofs.Course.Changes
import Interchain.Proofs.Handshake.Opening
import Interchain.Proofs.Link.Reopening

/-
  Records that match the state of the channel.

  An end that flushes, or is done, has a proposal.  The
  counterparty's upgrade is kept only as long as that, and
  nothing is in flight once the end is done.  Whatever happens
  on a chain, its records stay so, for every channel.

  Main declarations:
    * `Records.Coherent`
    * `Host.IsCoherent`

  Main statements:
    * `Host.IsCoherent.undergo`
    * `Host.IsCoherent.course`
-/

------------------------------------------------------------
-- Coherent Records
------------------------------------------------------------

namespace Interchain

namespace Records

/- The end flushes, or is done flushing. -/
def Flushes (r : Records) : Prop :=
  r.channel.state = .flushing ∨
    r.channel.state = .flushComplete

/- The records of a channel match its state. -/
structure Coherent (r : Records) : Prop where
  upgrade : r.Flushes → r.upgrade?.isSome
  counterparty : r.counterparty?.isSome → r.Flushes
  drained :
    r.channel.state = .flushComplete → r.inFlight = ∅

variable {r : Records}

/- An open end that was shown no upgrade is coherent. -/
theorem coherent_of_open
    (hState : r.channel.state = .open)
    (hNone : r.counterparty? = none) :
    r.Coherent where
  upgrade := by simp [Flushes, hState]
  counterparty := by simp [hNone]
  drained := by simp [hState]

theorem coherent_of_flushing
    (hState : r.channel.state = .flushing)
    (hUpgrade : r.upgrade?.isSome) :
    r.Coherent where
  upgrade := fun _ => hUpgrade
  counterparty := fun _ => Or.inl hState
  drained := by simp [hState]

/- An end that is done is coherent if nothing is in flight. -/
theorem coherent_of_drained
    (hState : r.channel.state = .flushComplete)
    (hUpgrade : r.upgrade?.isSome)
    (hEmpty : r.inFlight = ∅) :
    r.Coherent where
  upgrade := fun _ => hUpgrade
  counterparty := fun _ => Or.inr hState
  drained := fun _ => hEmpty

namespace Coherent

/- An open end holds no upgrade of the counterparty. -/
theorem counterparty_eq_none
    (hCoherent : r.Coherent)
    (hState : r.channel.state = .open) :
    r.counterparty? = none := by
  cases hCounterparty : r.counterparty? with
  | none => rfl
  | some u =>
      have hFlushes := hCoherent.counterparty (by
        rw [hCounterparty]
        rfl)
      simp [Flushes, hState] at hFlushes

/- A packet that is resolved leaves an end coherent. -/
theorem resolve
    (hCoherent : r.Coherent)
    (s : Sequence) :
    { r with inFlight := r.inFlight \ {s} }.Coherent where
  upgrade := hCoherent.upgrade
  counterparty := hCoherent.counterparty
  drained := by
    intro hState
    have hEmpty : r.inFlight = ∅ := hCoherent.drained hState
    simp [hEmpty]

end Coherent

/- Every change leaves the records coherent. -/
theorem Changes.coherent
    {r' : Records}
    (hChanges : r.Changes r')
    (hCoherent : r.Coherent) :
    r'.Coherent := by
  cases hChanges with
  | resolve s => exact hCoherent.resolve s
  | propose u last hState hLast =>
      exact coherent_of_open hState
        (hCoherent.counterparty_eq_none hState)
  | flush u next hState hNext hStamped =>
      exact coherent_of_flushing rfl rfl
  | learn counterparty hState =>
      exact coherent_of_flushing hState
        (hCoherent.upgrade (Or.inl hState))
  | drain hState hEmpty =>
      exact coherent_of_drained rfl
        (hCoherent.upgrade (Or.inl hState)) hEmpty
  | reopen u hUpgrade => exact coherent_of_open rfl rfl
  | restore sequence receipt hUpgrade hAttempt hReceipt =>
      exact coherent_of_open rfl rfl

/- So does a packet, as it is sent on an open channel only. -/
theorem Sends.coherent
    {r' : Records}
    {s : Sequence}
    (hSends : r.Sends s r')
    (hCoherent : r.Coherent) :
    r'.Coherent := by
  rw [hSends.after]
  exact coherent_of_open hSends.state
    (hCoherent.counterparty_eq_none hSends.state)

end Records

/- The records of every channel match its state. -/
def Host.IsCoherent (h : Host) : Prop :=
  ∀ key, (h.records key).Coherent

end Interchain

------------------------------------------------------------
-- Courses
------------------------------------------------------------

namespace Interchain

namespace Host

variable {h : Host}

/- Whatever happens on a chain, its records stay coherent. -/
theorem IsCoherent.undergo
    (hash : Hash)
    (hCoherent : h.IsCoherent)
    (x : Happening) :
    (h.undergo hash x).IsCoherent := by
  intro key
  cases hSent : h.sent? hash key x with
  | none =>
      exact (evolves_undergo hash hSent).keeps
        (fun _ _ hChanges => hChanges.coherent) (hCoherent key)
  | some p => exact (sends_undergo hSent).coherent (hCoherent key)

/- Ends stay coherent in the course of what happens. -/
theorem IsCoherent.course
    (hash : Hash)
    (hCoherent : h.IsCoherent)
    (happenings : List Happening) :
    (h.course hash happenings).IsCoherent := by
  induction happenings generalizing h with
  | nil => exact hCoherent
  | cons x rest ih =>
      rw [course_cons]
      exact ih (hCoherent.undergo hash x)

/-
  In the course of any happenings, from coherent records, the
  records of every channel stay coherent; and right after any
  message that opens a channel, the channel is open and nothing
  is left of an attempt.
-/
theorem coherent_course
    (hash : Hash)
    (happenings : List Happening)
    (hStart : h.IsCoherent) :
    (h.course hash happenings).IsCoherent ∧
      ∀ m,
        Opens ((h.course hash happenings).dispatch m).1 →
          ((h.course hash happenings).dispatch m).2.Reopened
            m.key :=
  ⟨hStart.course hash happenings, fun _ hOpens =>
    reopened_of_opens hOpens⟩

end Host

end Interchain

------------------------------------------------------------
-- Sample Chains
------------------------------------------------------------

namespace Interchain

namespace Fixture

/- At the start, the only records of a sample chain are those
   of the shared channel, which is open. -/
theorem coherent_host (hash : Hash) (side : Side) :
    (host hash side).IsCoherent := by
  intro k
  by_cases hKey : key side = k
  · subst hKey
    have hRecords := records_link hash side
    rw [Link.records] at hRecords
    change ((chains hash).host side).records (key side) = _
      at hRecords
    rw [host_chains] at hRecords
    rw [hRecords]
    exact Records.coherent_of_open rfl rfl
  · have hBlank :
        ((host hash side).records k).channel = .blank ∧
          ((host hash side).records k).counterparty? = none := by
      cases side <;>
        simp [host, Host.records, Host.apply, chainA, chainB,
          connected, Host.connect, standardChain, chain,
          Host.create, Std.ExtTreeMap.getElem?_insert, hKey]
    constructor
    · simp [Records.Flushes, hBlank.1, ChannelEnd.blank]
    · simp [hBlank.2]
    · simp [hBlank.1, ChannelEnd.blank]

/- On the sample chains, A takes a course after which it opens,
   and its records are coherent throughout. -/
theorem sample_coherent_course :
    ∃ (happenings : List Happening) (m : UpgradeMessage),
      (host id .left).IsCoherent ∧
        Opens
          (((host id .left).course id happenings).dispatch m).1 ∧
        ((host id .left).course id happenings).IsCoherent ∧
        (((host id .left).course id happenings).dispatch
          m).2.Reopened m.key := by
  rcases (offer id).confirmed .left (le_refl _) (by decide) with
    ⟨now, before, past, hNow, hBefore⟩
  have hTurned :
      (link id).Turned (now :: before :: past) (Side.other .left)
        Sequence.zero.next :=
    ⟨_, _, ⟨[], now, before, past, rfl, rfl, rfl⟩,
      Link.Offer.completes_opened hNow hBefore⟩
  rcases Link.Offer.at_stage hNow with ⟨hState, hAttempt⟩
  have hSame :
      ((link id).records .right now).attempt =
        Sequence.zero.next :=
    congrArg Records.attempt hNow.peer
  have hInvariant :=
    hNow.run.invariant (fun _ h => h)
      (Link.collisionFree_of_injective Function.injective_id)
      hNow.limit
  rcases
      hInvariant.exists_openConnection hNow.links
        List.mem_cons_self (by rw [hState]; simp) with
    ⟨_, connection, hConnection, hHears⟩
  rcases
      hNow.run.processOpen_of_completed hInvariant hTurned hState
        hAttempt hSame signer hConnection hHears with
    ⟨hValid, report, hOk⟩
  have hOpens :=
    Host.opens_of_reopen
      (Host.dispatch_reopen_succeeds hValid hOk).1
  -- Being told of B is one more happening on A.
  rcases
      (hNow.tell connection.client
        List.mem_cons_self).run.exists_course _
        List.mem_cons_self .left with
    ⟨happenings, _, hCourse⟩
  rw [Chains.host_replace_self] at hCourse
  have hCourse :
      (link id).told .left now connection.client now =
        (host id .left).course id happenings := hCourse
  rw [hCourse] at hOpens
  have hStart := coherent_host id .left
  rcases Host.coherent_course id happenings hStart with
    ⟨hCoherent, hReopened⟩
  exact ⟨happenings, _, hStart, hOpens, hCoherent,
    hReopened _ hOpens⟩

end Fixture

end Interchain
