import Interchain.Proofs.Course.Changes
import Interchain.Proofs.Course.Coherence
import Mathlib.Data.List.Induction

/-
  The window of the packets that are in flight on a channel.

  Packets are sent with consecutive sequences, and everything
  that is in flight lies below the next one.  An end that
  starts to flush keeps the last sequence that was sent.  As
  nothing is sent until the channel is open again, that bounds
  what is in flight for as long as the end flushes.

  Main declarations:
    * `Host.sentIn`
    * `Records.Window`
    * `Host.PacketWindow`

  Main statements:
    * `Host.window_course`
    * `Host.packets_keep_window`
-/

------------------------------------------------------------
-- Windows
------------------------------------------------------------

namespace Interchain

namespace Records

/-
  What is in flight lies below the next sequence, and above
  zero unless it was there earlier.  An end that flushes holds
  an upgrade with the last sequence that was sent.
-/
structure Window
    (r : Records)
    (earlier : Set Sequence)
    (next : Sequence) : Prop where
  counts : r.next? = some next
  positive : Sequence.zero < next
  started : ∀ s ∈ r.inFlight, s ∈ earlier ∨ Sequence.zero < s
  below : ∀ s ∈ r.inFlight, s < next
  stamped :
    r.Flushes → ∃ u, r.upgrade? = some u ∧ u.Stamped next

variable {r r' : Records} {earlier : Set Sequence}
variable {next s : Sequence}

theorem not_flushes_of_open
    (hState : r.channel.state = .open) :
    ¬ r.Flushes := by
  simp [Flushes, hState]

/- The window of an open end: what is in flight was sent
   before. -/
theorem window_of_open
    (hState : r.channel.state = .open)
    (hNext : r.next? = some next)
    (hPositive : Sequence.zero < next)
    (hBelow : ∀ s ∈ r.inFlight, s < next) :
    r.Window r.inFlight next where
  counts := hNext
  positive := hPositive
  started := fun _ hSent => Or.inl hSent
  below := hBelow
  stamped := fun hFlushes =>
    (not_flushes_of_open hState hFlushes).elim

/- Only packets that are sent move the next sequence. -/
theorem Changes.next_eq (hChanges : r.Changes r') :
    r'.next? = r.next? := by
  cases hChanges <;> rfl

/- No change of an upgrade counts packets. -/
theorem Evolves.next_eq (hEvolves : r.Evolves r') :
    r'.next? = r.next? :=
  hEvolves.keeps (P := fun m => m.next? = r.next?)
    (fun _ _ hChanges hSame => hChanges.next_eq.trans hSame) rfl

/- Only packets that are resolved are no longer in flight. -/
theorem Changes.inFlight_subset (hChanges : r.Changes r') :
    r'.inFlight ⊆ r.inFlight := by
  cases hChanges with
  | resolve s => exact Set.sdiff_subset
  | _ => exact subset_rfl

/- An end that flushes started to do so, or did before. -/
theorem Changes.stamped
    (hChanges : r.Changes r')
    (hNext : r.next? = some next)
    (hStamped :
      r.Flushes → ∃ u, r.upgrade? = some u ∧ u.Stamped next)
    (hFlushes : r'.Flushes) :
    ∃ u, r'.upgrade? = some u ∧ u.Stamped next := by
  cases hChanges with
  | resolve s => exact hStamped hFlushes
  | propose u last hState hLast =>
      exact (not_flushes_of_open hState hFlushes).elim
  | flush u found hState hFound hMade =>
      rw [hNext, Option.some.injEq] at hFound
      exact ⟨u, rfl, hFound ▸ hMade⟩
  | learn counterparty hState => exact hStamped hFlushes
  | drain hState hEmpty => exact hStamped (Or.inl hState)
  | reopen u hUpgrade =>
      exact (not_flushes_of_open rfl hFlushes).elim
  | restore sequence receipt hUpgrade hAttempt hReceipt =>
      exact (not_flushes_of_open rfl hFlushes).elim

/- A change keeps the window. -/
theorem Changes.window
    (hChanges : r.Changes r')
    (hWindow : r.Window earlier next) :
    r'.Window earlier next where
  counts := hChanges.next_eq.trans hWindow.counts
  positive := hWindow.positive
  started := fun s hSent =>
    hWindow.started s (hChanges.inFlight_subset hSent)
  below := fun s hSent =>
    hWindow.below s (hChanges.inFlight_subset hSent)
  stamped := hChanges.stamped hWindow.counts hWindow.stamped

/- So do several changes. -/
theorem Evolves.window
    (hEvolves : r.Evolves r')
    (hWindow : r.Window earlier next) :
    r'.Window earlier next :=
  hEvolves.keeps (fun _ _ hChanges => hChanges.window) hWindow

/- A packet that is sent moves the window on by one, as long as
   sequences can be counted up. -/
theorem Sends.window
    (hSends : r.Sends s r')
    (hWindow : r.Window earlier next)
    (hLimit : next.number ≠ Word.greatest) :
    s = next ∧ r'.Window earlier next.next := by
  have hNext : s = next := by
    rw [← Option.some.injEq, ← hSends.next, hWindow.counts]
  have hLess := Sequence.lt_next_of_ne_greatest hLimit
  refine ⟨hNext, ?_⟩
  rw [hSends.after, hNext]
  constructor
  · rfl
  · exact hWindow.positive.trans hLess
  · rintro x (rfl | hOld)
    · exact Or.inr hWindow.positive
    · exact hWindow.started x hOld
  · rintro x (rfl | hOld)
    · exact hLess
    · exact (hWindow.below x hOld).trans hLess
  · intro hFlushes
    exact (not_flushes_of_open hSends.state hFlushes).elim

end Records

end Interchain

------------------------------------------------------------
-- Packets of a Course
------------------------------------------------------------

namespace Interchain

namespace Host

variable {hash : Hash} {h : Host} {key : ChannelKey}
variable {earlier : Set Sequence} {first : Sequence}

/- The packets that are sent on a channel in a course. -/
def sentIn
    (hash : Hash)
    (key : ChannelKey) :
    Host → List Happening → List Packet
  | _, [] => []
  | h, x :: rest =>
      (h.sent? hash key x).toList ++
        sentIn hash key (h.undergo hash x) rest

/- The packets sent in a course, and the one sent last. -/
theorem sentIn_concat
    (h : Host)
    (before : List Happening)
    (x : Happening) :
    sentIn hash key h (before ++ [x]) =
      sentIn hash key h before ++
        ((h.course hash before).sent? hash key x).toList := by
  induction before generalizing h with
  | nil => simp [sentIn, course]
  | cons y rest ih =>
      simp only [List.cons_append, sentIn, ih, course_cons,
        List.append_assoc]

/- The next sequence of a channel never goes back. -/
theorem next_undergo_le
    {n : Sequence}
    (hash : Hash)
    (x : Happening)
    (hNext : (h.records key).next? = some n) :
    ∃ later,
      ((h.undergo hash x).records key).next? = some later ∧
        n ≤ later := by
  cases hSent : h.sent? hash key x with
  | none =>
      have hKept := (evolves_undergo hash hSent).next_eq
      exact ⟨n, hKept.trans hNext, le_refl n⟩
  | some p =>
      have hSends := sends_undergo hSent
      have hSame : n = p.sequence := by
        rw [← Option.some.injEq, ← hNext, hSends.next]
      refine ⟨p.sequence.next, ?_, ?_⟩
      · rw [hSends.after]
      · rw [hSame]
        exact p.sequence.le_next

/- Packets have only been counted up since. -/
theorem next_course_le
    {n : Sequence}
    (hash : Hash)
    (happenings : List Happening)
    (hNext : (h.records key).next? = some n) :
    ∃ later,
      ((h.course hash happenings).records key).next? =
          some later ∧
        n ≤ later := by
  induction happenings generalizing h n with
  | nil => exact ⟨n, hNext, le_refl n⟩
  | cons x rest ih =>
      rcases next_undergo_le hash x hNext with
        ⟨between, hBetween, hLe⟩
      rcases ih hBetween with ⟨later, hLater, hRest⟩
      exact ⟨later, hLater, hLe.trans hRest⟩

/- The next sequence of a channel can still be counted up. -/
def CountsUp (h : Host) (key : ChannelKey) : Prop :=
  ∀ next, (h.records key).next? = some next →
    next.number ≠ Word.greatest

/- What can be counted up could be counted up before. -/
theorem countsUp_of_course
    {happenings : List Happening}
    (hLimit : (h.course hash happenings).CountsUp key) :
    h.CountsUp key := by
  intro next hNext
  rcases next_course_le hash happenings hNext with
    ⟨later, hLater, hLe⟩
  exact Sequence.number_ne_greatest_of_le hLe
    (hLimit later hLater)

/- In a course that stays below the greatest sequence, packets
   are sent with consecutive sequences, and the window moves on
   with them.  The limit is on where the course ends, so the
   induction takes happenings off its end. -/
theorem window_course
    (happenings : List Happening)
    (hStart : (h.records key).Window earlier first)
    (hLimit : (h.course hash happenings).CountsUp key) :
    ∃ next,
      ((h.course hash happenings).records key).Window
          earlier next ∧
        next.number.toNat =
          first.number.toNat +
            (sentIn hash key h happenings).length ∧
        (sentIn hash key h happenings).map
            (fun p => p.sequence.number.toNat) =
          List.range' first.number.toNat
            (sentIn hash key h happenings).length := by
  induction happenings using List.reverseRecOn with
  | nil => exact ⟨first, hStart, rfl, rfl⟩
  | append_singleton before x ih =>
      rw [course_append] at hLimit
      have hBefore := countsUp_of_course hLimit
      rcases ih hBefore with ⟨next, hWindow, hLength, hSent⟩
      rw [course_concat, sentIn_concat]
      cases hFound : (h.course hash before).sent? hash key x with
      | none =>
          have hEvolves := evolves_undergo hash hFound
          simp only [Option.toList_none, List.append_nil]
          exact ⟨next, hEvolves.window hWindow, hLength, hSent⟩
      | some p =>
          have hLast := hBefore next hWindow.counts
          rcases (sends_undergo hFound).window hWindow hLast with
            ⟨hSequence, hMoved⟩
          have hCounted :
              next.next.number.toNat = next.number.toNat + 1 :=
            Sequence.toNat_next_of_ne_greatest hLast
          simp only [Option.toList_some, List.length_append,
            List.length_singleton, List.map_append,
            List.map_singleton, List.range'_1_concat]
          refine ⟨next.next, hMoved, ?_, ?_⟩
          · rw [hCounted, hLength]
            omega
          · rw [hSent, hSequence, hLength]

end Host

end Interchain

------------------------------------------------------------
-- Packets of a Channel
------------------------------------------------------------

namespace Interchain

namespace Host

variable {hash : Hash} {h : Host} {key : ChannelKey}
variable {first : Sequence}

/-
  How the packets of a channel stand after a course: they were
  sent with consecutive sequences from the first one on, each
  where nothing was in flight at any earlier time; and what is
  in flight lies below the next sequence.  While the end
  flushes, or is done, its upgrade holds a deadline that can
  elapse and the last sequence that was sent, nothing is in
  flight past that, and nothing is sent.
-/
structure PacketWindow
    (hash : Hash)
    (h : Host)
    (key : ChannelKey)
    (first : Sequence)
    (happenings : List Happening)
    (next : Sequence) : Prop where
  counts :
    (h.course hash happenings).nextSequences[key]? = some next
  consecutive :
    (sentIn hash key h happenings).map
        (fun p => p.sequence.number.toNat) =
      List.range' first.number.toNat
        (next.number.toNat - first.number.toNat)
  unused :
    ∀ past x p,
      past ++ [x] <+: happenings →
        (h.course hash past).sent? hash key x = some p →
          ∀ earlier,
            earlier <+: past →
              PacketKey.mk key p.sequence ∉
                (h.course hash earlier).commitments
  committed :
    ∀ s,
      PacketKey.mk key s ∈
          (h.course hash happenings).commitments →
        (Sequence.zero < s ∨
            PacketKey.mk key s ∈ h.commitments) ∧
          s < next
  flushing :
    ∀ c : ChannelEnd,
      (h.course hash happenings).channels[key]? = some c →
        c.state = .flushing ∨ c.state = .flushComplete →
          (∃ u timeout,
            (h.course hash happenings).upgrades[key]? =
                some u ∧
              u.timeout = some timeout ∧
              timeout.validate = .ok () ∧
              u.latestSent.number.toNat + 1 =
                next.number.toNat ∧
              ∀ s,
                PacketKey.mk key s ∈
                    (h.course hash happenings).commitments →
                  s ≤ u.latestSent) ∧
            ∀ x,
              (h.course hash happenings).sent? hash key x = none

/- What is sent later was not in flight earlier. -/
theorem not_mem_inFlight_of_sent
    {before rest : List Happening}
    {x : Happening}
    {p : Packet}
    (hStart :
      (h.records key).Window (h.records key).inFlight first)
    (hLimit : (h.course hash (before ++ rest)).CountsUp key)
    (hSent :
      (h.course hash (before ++ rest)).sent? hash key x =
        some p) :
    p.sequence ∉
      ((h.course hash before).records key).inFlight := by
  rw [course_append] at hLimit hSent
  rcases window_course before hStart (countsUp_of_course hLimit)
    with ⟨next, hWindow, _⟩
  rcases next_course_le hash rest hWindow.counts with
    ⟨later, hLater, hLe⟩
  have hSame : p.sequence = later := by
    rw [← Option.some.injEq, ← (sends_undergo hSent).next,
      hLater]
  intro hOld
  exact absurd (hWindow.below p.sequence hOld)
    (not_lt.mpr (hSame ▸ hLe))

/- An end in a window that flushes is stamped, and sends
   nothing. -/
theorem flushing_of_window
    {earlier : Set Sequence}
    {next : Sequence}
    {c : ChannelEnd}
    (hWindow : (h.records key).Window earlier next)
    (hChannel : h.channels[key]? = some c)
    (hFlushes : c.state = .flushing ∨ c.state = .flushComplete) :
    (∃ u timeout,
      h.upgrades[key]? = some u ∧
        u.timeout = some timeout ∧
        timeout.validate = .ok () ∧
        u.latestSent.number.toNat + 1 = next.number.toNat ∧
        ∀ s,
          PacketKey.mk key s ∈ h.commitments →
            s ≤ u.latestSent) ∧
      ∀ x, h.sent? hash key x = none := by
  have hRecords : (h.records key).Flushes := by
    rw [Records.Flushes, records_channel hChannel]
    exact hFlushes
  constructor
  · rcases hWindow.stamped hRecords with
      ⟨u, hUpgrade, ⟨timeout, hTimeout, hValid⟩, hLatest⟩
    refine ⟨u, timeout, hUpgrade, hTimeout, hValid, ?_, ?_⟩
    · have hPositive := hWindow.positive
      rw [Sequence.lt_iff_toNat_lt] at hPositive
      rw [hLatest, Sequence.toNat_previous]
      omega
    · intro s hSent
      rw [hLatest]
      exact Sequence.le_previous_of_lt (hWindow.below s hSent)
  · intro x
    cases hSent : h.sent? hash key x with
    | none => rfl
    | some p =>
        have hState := (sends_undergo hSent).state
        exact (Records.not_flushes_of_open hState hRecords).elim

/-
  In any course of a chain, from an open channel whose next
  sequence is past zero and past everything that is in flight,
  and as long as that sequence stays below the greatest one:
  the packets of the channel keep their window.
-/
theorem packets_keep_window
    (hash : Hash)
    (h : Host)
    (key : ChannelKey)
    (c : ChannelEnd)
    (first : Sequence)
    (happenings : List Happening)
    (hChannel : h.channels[key]? = some c)
    (hOpen : c.state = .open)
    (hFirst : h.nextSequences[key]? = some first)
    (hPositive : Sequence.zero < first)
    (hBelow :
      ∀ s, PacketKey.mk key s ∈ h.commitments → s < first)
    (hLimit :
      ∀ next,
        (h.course hash happenings).nextSequences[key]? =
            some next →
          next.number ≠ Word.greatest) :
    ∃ next, h.PacketWindow hash key first happenings next := by
  have hState : (h.records key).channel.state = .open := by
    rw [records_channel hChannel, hOpen]
  have hStart :
      (h.records key).Window (h.records key).inFlight first :=
    Records.window_of_open hState hFirst hPositive hBelow
  rcases window_course happenings hStart hLimit with
    ⟨next, hWindow, hLength, hSent⟩
  refine ⟨next, hWindow.counts, ?_, ?_, ?_, ?_⟩
  · rw [hSent, hLength, Nat.add_sub_cancel_left]
  · rintro past x p ⟨rest, rfl⟩ hFound earlier ⟨between, rfl⟩
    rw [List.append_assoc, course_append] at hLimit
    exact not_mem_inFlight_of_sent hStart
      (countsUp_of_course hLimit) hFound
  · intro s hCommitted
    exact ⟨(hWindow.started s hCommitted).symm,
      hWindow.below s hCommitted⟩
  · intro now hNow hFlushes
    exact flushing_of_window hWindow hNow hFlushes

end Host

end Interchain

------------------------------------------------------------
-- Sample Chain
------------------------------------------------------------

namespace Interchain

namespace Fixture

/- The first packet that B sends, without a timeout height. -/
def firstPacket : Packet where
  sequence := ⟨1⟩
  source := key .right
  destination := key .left
  data := utf8 "1"
  timeoutHeight := .never
  timeoutTime := .ofNanoseconds 1800000000000000000

/- At the start B is open, and nothing is in flight. -/
theorem idle_start :
    (host id .right).channels[key .right]? =
        some ((link id).endAt .right .open .zero) ∧
      (host id .right).nextSequences[key .right]? = some ⟨1⟩ ∧
      ∀ s,
        PacketKey.mk (key .right) s ∉
          (host id .right).commitments := by
  have hRecords := records_link id .right
  rw [Link.records] at hRecords
  change (host id .right).records (key .right) = _ at hRecords
  refine ⟨?_, congrArg Records.next? hRecords, ?_⟩
  · rw [Host.channels_eq_of_state_ne] <;> rw [hRecords]
    simp [Link.endAt]
  · have hEmpty :
        ((host id .right).records (key .right)).inFlight = ∅ :=
      congrArg Records.inFlight hRecords
    intro s hSent
    exact Set.eq_empty_iff_forall_notMem.mp hEmpty s hSent

/- B sends its first packet. -/
theorem sends_first :
    (host id .right).sent? id (key .right)
        (.act (.send firstPacket)) =
      some firstPacket := by
  rcases idle_start with ⟨hChannel, hNext, _⟩
  have hCheck : (host id .right).checkSend firstPacket = .ok () := by
    simp only [Host.checkSend, Host.channelEnd,
      Host.nextSequence, firstPacket, hChannel, hNext]
    rfl
  exact Host.sent?_of_checkSend id hCheck

/- B takes a course after which it flushes. -/
theorem exists_flushing :
    ∃ happenings,
      ((host id .right).course id happenings).records
          (key .right) =
        (offer id).stage .right .flushing Sequence.zero.next
          (some ((offer id).flushing .right)) := by
  have hStart := (offer id).standing_start .left (by
    intro side
    change Sequence.zero.number ≠ Word.greatest
    decide)
  rcases Link.Offer.proposed hStart (by decide) with ⟨_, hA⟩
  have hB :
      (link id).Standing _ [(link id).start] .right
        ((offer id).stage .right .open .zero none)
        ((offer id).stage .left .open Sequence.zero.next
          (some ((offer id).proposal .left))) :=
    hA.flip
  rcases Link.Offer.answered hB (by decide) (by decide) with
    ⟨_, _, hFlushing⟩
  rcases
      hFlushing.run.exists_course _ List.mem_cons_self .right
    with ⟨happenings, _, hCourse⟩
  have hCourse :
      _ = (host id .right).course id happenings := hCourse
  refine ⟨happenings, ?_⟩
  rw [← hCourse]
  exact hFlushing.own

/- The packets of B keep their window when it sends one, and
   when it flushes. -/
theorem sample_packets_keep_window :
    (host id .right).PacketWindow id (key .right) ⟨1⟩
        [.act (.send firstPacket)] ⟨2⟩ ∧
      Host.sentIn id (key .right) (host id .right)
          [.act (.send firstPacket)] =
        [firstPacket] ∧
      ∃ happenings c,
        (host id .right).PacketWindow id (key .right) ⟨1⟩
            happenings ⟨1⟩ ∧
          ((host id .right).course id happenings).channels[
              key .right]? = some c ∧
          c.state = .flushing := by
  rcases idle_start with ⟨hChannel, hFirst, hIdle⟩
  have hKeeps :
      ∀ happenings last,
        ((host id .right).course id happenings).nextSequences[
            key .right]? = some last →
          last.number ≠ Word.greatest →
            (host id .right).PacketWindow id (key .right) ⟨1⟩
              happenings last := by
    intro happenings last hLast hLimit
    rcases
        Host.packets_keep_window id (host id .right)
          (key .right) _ ⟨1⟩ happenings hChannel rfl hFirst
          (by decide) (fun s hSent => (hIdle s hSent).elim)
          (by
            intro next hNext
            rw [hLast, Option.some.injEq] at hNext
            exact hNext ▸ hLimit) with
      ⟨next, hWindow⟩
    have hSame : last = next := by
      rw [← Option.some.injEq, ← hLast, hWindow.counts]
    exact hSame ▸ hWindow
  refine ⟨hKeeps _ _ ?_ (by decide), ?_, ?_⟩
  · exact congrArg Records.next?
      (Host.sends_undergo sends_first).after
  · simp [Host.sentIn, sends_first]
  · rcases exists_flushing with ⟨happenings, hRecords⟩
    have hStart := congrArg Records.next? (records_link id .right)
    refine ⟨happenings, _, hKeeps _ _ ?_ (by decide),
      Host.channels_eq_of_state_ne ?_, ?_⟩
    · exact (congrArg Records.next? hRecords).trans hStart
    · rw [hRecords]
      simp [Link.Offer.stage, Link.endAt]
    · rw [hRecords]
      rfl

end Fixture

end Interchain
