import Interchain.Proofs.Course.Run
import Interchain.Proofs.Handshake.Atomicity
import Interchain.Proofs.Handshake.Flushing

/-
  The channels of a chain.

  A message is of use for a channel that exists, at the stage
  of an upgrade that the message is for.  Nothing that happens
  to a chain makes a channel or removes one.

  Main declarations:
    * `UpgradeMessage.IsFor`

  Main statements:
    * `Host.Takes.stored`
    * `Host.mem_channels_course`
-/

------------------------------------------------------------
-- Stages
------------------------------------------------------------

namespace Interchain

/- The states of an end in which a message is of use. -/
def UpgradeMessage.IsFor
    (m : UpgradeMessage)
    (state : ChannelState) : Prop :=
  match m with
  | .init _ => state = .open
  | .attempt _ => state = .open
  | .ack _ => state = .open ∨ state = .flushing
  | .confirm _ => state = .flushing
  | .reopen _ => state = .flushComplete
  | .cancel _ => True
  | .timeout _ => state = .open

namespace Host

variable {h after : Host} {m : UpgradeMessage}

/- An answer builds on an open end. -/
theorem open_of_answered
    {m : TryMessage}
    {staged : Option UpgradeStep}
    {c : ChannelEnd}
    {u : Upgrade}
    (hStaged : h.stageAnswer m = .ok staged)
    (hAnswered : h.answered m.key staged = .ok (c, u))
    (hState : c.state = .open) :
    ∃ found,
      h.channels[m.key]? = some found ∧ found.state = .open := by
  rcases answered_eq_stored hStaged hAnswered with
    ⟨found, last, hChannel, _, rfl⟩
  exact ⟨found, hChannel, hState⟩

/- A step is taken at the stage that its message is for. -/
theorem Takes.stored
    {events : List Event}
    (hTakes : h.Takes m events after) :
    ∃ c, h.channels[m.key]? = some c ∧ m.IsFor c.state := by
  cases hTakes with
  | init hOk hPlan =>
      rcases processInit_eq_ok hOk with
        ⟨c, hChannel, hPropose⟩
      exact ⟨c, hChannel, (propose_eq_ok hPropose).1⟩
  | attempt hStaged hOk hPlan =>
      rcases processTry_eq_ok hOk with
        ⟨_, _, _, _, hAnswered, hOpen, _⟩
      exact open_of_answered hStaged hAnswered hOpen
  | ack hOk hPlan =>
      rcases processAck_eq_ok hOk with
        ⟨c, _, _, _, hChannel, hState, _⟩
      exact ⟨c, hChannel, hState⟩
  | confirm hOk hPlan =>
      rcases processConfirm_eq_ok hOk with
        ⟨c, _, hChannel, hState, _⟩
      exact ⟨c, hChannel, hState⟩
  | confirmOpen hOk hPlan hOpen =>
      rcases processConfirm_eq_ok hOk with
        ⟨c, _, hChannel, hState, _⟩
      exact ⟨c, hChannel, hState⟩
  | reopen hOk hPlan =>
      rcases processOpen_eq_ok_iff.mp ⟨_, hOk⟩ with
        ⟨c, _, _, _, _, hChannel, hState, _⟩
      exact ⟨c, hChannel, hState⟩
  | cancel hOk hPlan =>
      rcases processCancel_eq_ok_iff.mp ⟨_, hOk⟩ with
        ⟨c, _, hChannel, _⟩
      exact ⟨c, hChannel, trivial⟩
  | timeout hOk hPlan =>
      rcases processTimeout_eq_ok hOk with
        ⟨c, _, hChannel, hState, _⟩
      exact ⟨c, hChannel, hState⟩

/- A step fails for the attempt before the end is done
   flushing. -/
theorem Ends.stored
    {error : UpgradeError}
    {events : List Event}
    {before : Host}
    (hEnds : h.Ends m error events before) :
    ∃ c,
      h.channels[m.key]? = some c ∧
        (c.state = .open ∨ c.state = .flushing) := by
  cases hEnds with
  | attempt hStaged hEnded =>
      rcases processTry_eq_ended hEnded with
        ⟨_, _, hAnswered, hOpen, _⟩
      rcases open_of_answered hStaged hAnswered hOpen with
        ⟨c, hChannel, hState⟩
      exact ⟨c, hChannel, Or.inl hState⟩
  | staged hStaged hEnded hPlan =>
      rcases processTry_eq_ended hEnded with
        ⟨_, _, hAnswered, hOpen, _⟩
      rcases open_of_answered hStaged hAnswered hOpen with
        ⟨c, hChannel, hState⟩
      exact ⟨c, hChannel, Or.inl hState⟩
  | ack hEnded =>
      rcases processAck_eq_ended hEnded with
        ⟨c, hChannel, hState, _⟩
      exact ⟨c, hChannel, hState⟩
  | confirm hEnded =>
      rcases processConfirm_eq_ended hEnded with
        ⟨c, hChannel, hState, _⟩
      exact ⟨c, hChannel, Or.inr hState⟩

end Host

end Interchain

------------------------------------------------------------
-- Channels of a Chain
------------------------------------------------------------

namespace Interchain

namespace Host

variable {h : Host} {key : ChannelKey} {c : ChannelEnd}

theorem mem_channels
    (hChannel : h.channels[key]? = some c) :
    key ∈ h.channels := by
  rw [Std.ExtTreeMap.mem_iff_isSome_getElem?, hChannel]
  rfl

/- A channel that exists has the end of its records. -/
theorem channels_eq_of_mem
    (hMem : key ∈ h.channels) :
    h.channels[key]? = some (h.records key).channel := by
  rw [Std.ExtTreeMap.mem_iff_isSome_getElem?,
    Option.isSome_iff_exists] at hMem
  rcases hMem with ⟨c, hChannel⟩
  rw [records_channel hChannel, hChannel]

/- Writes for a channel that exists make no other one, and
   there is no write that removes a channel. -/
theorem keptAt_mem_channels
    (hMem : key ∈ h.channels) :
    KeptAt key fun after =>
      ∀ k, k ∈ after.channels ↔ k ∈ h.channels := by
  intro g writes hWrites hSame
  induction writes generalizing g with
  | nil => exact hSame
  | cons w rest ih =>
      rw [applyAll_cons]
      apply ih
      · exact fun x hx => hWrites x (List.mem_cons_of_mem _ hx)
      · have hKey := hWrites w List.mem_cons_self
        intro k
        cases w with
        | channel other value =>
            simp only [Write.channelKey] at hKey
            subst hKey
            simp only [apply, Std.ExtTreeMap.mem_insert,
              Std.compare_eq_iff_eq, hSame]
            constructor
            · rintro (rfl | hOld)
              · exact hMem
              · exact hOld
            · exact Or.inr
        | _ => exact hSame k

/- What is done on a channel that does not exist makes no
   channel, and leaves no receipt. -/
theorem perform_of_not_mem
    (hash : Hash)
    {a : Action}
    (hAbout : a.channel? = some key)
    (hMem : key ∉ h.channels) :
    (h.perform hash a).channels = h.channels ∧
      (h.perform hash a).receipts = h.receipts := by
  have hNone : h.channels[key]? = none :=
    Std.ExtTreeMap.getElem?_eq_none hMem
  have hNot :
      ∀ c, h.channels[key]? = some c → c.state ≠ .flushing := by
    simp [hNone]
  cases a with
  | dispatch m =>
      cases hAbout
      have hAnswers := h.answers_dispatch m
      rw [perform]
      rcases hDispatch : h.dispatch m with ⟨result, after⟩
      rw [hDispatch] at hAnswers
      cases hAnswers with
      | rejected cause => exact ⟨rfl, rfl⟩
      | taken log hTakes =>
          rcases hTakes.stored with ⟨c, hChannel, _⟩
          simp [hNone] at hChannel
      | givenUp hEnds hPlan =>
          rcases hEnds.stored with ⟨c, hChannel, _⟩
          simp [hNone] at hChannel
  | send p =>
      cases hAbout
      rcases send_cases (s := .start h) hash p rfl with
        ⟨_, _, hSends⟩ | ⟨_, _, hSame⟩
      · have hState := hSends.state
        simp [Session.start, records, hNone,
          ChannelEnd.blank] at hState
      · rw [perform, hSame]
        exact ⟨rfl, rfl⟩
  | resolve packet =>
      cases hAbout
      rcases looks_resolvePacket (s := .start h) packet rfl with
        ⟨resolved, hResolved, hLooks⟩
      subst hResolved
      rw [perform, hLooks.eq_of_not_flushing hNot]
      exact ⟨rfl, rfl⟩
  | refresh other =>
      cases hAbout
      have hLooks := looks_refresh (s := .start h) key rfl
      rw [perform, hLooks.eq_of_not_flushing hNot]
      exact ⟨rfl, rfl⟩
  | abort other reason =>
      cases hAbout
      refine (Session.carryOut_host (s := .start h)
        (P := fun after =>
          after.channels = h.channels ∧
            after.receipts = h.receipts) rfl
        ⟨rfl, rfl⟩ ?_).1
      intro p hMade
      simp [abortPlan, hNone, Session.start] at hMade
  | advance => exact ⟨rfl, rfl⟩

/- Channels are neither made nor removed. -/
theorem mem_channels_undergo
    (hash : Hash)
    (h : Host)
    (x : Happening)
    (k : ChannelKey) :
    k ∈ (h.undergo hash x).channels ↔ k ∈ h.channels := by
  cases x with
  | learn client height state => exact Iff.rfl
  | act a =>
      by_cases hMem :
          ∀ key, a.channel? = some key → key ∈ h.channels
      · exact perform_keeps hash
          (P := fun after =>
            ∀ k, k ∈ after.channels ↔ k ∈ h.channels)
          (fun key hAbout =>
            keptAt_mem_channels (hMem key hAbout))
          id (fun _ => Iff.rfl) k
      · simp only [not_forall] at hMem
        rcases hMem with ⟨key, hAbout, hMem⟩
        rw [undergo, (perform_of_not_mem hash hAbout hMem).1]

/- So an end that is stored is stored afterwards, and it was
   stored before. -/
theorem channels_undergo
    (hash : Hash)
    (x : Happening)
    (hChannel : h.channels[key]? = some c) :
    (h.undergo hash x).channels[key]? =
      some ((h.undergo hash x).records key).channel :=
  channels_eq_of_mem
    ((mem_channels_undergo hash h x key).mpr
      (mem_channels hChannel))

/- Nothing that happens makes an end appear. -/
theorem channels_of_undergo
    (hash : Hash)
    {x : Happening}
    (hChannel : (h.undergo hash x).channels[key]? = some c) :
    h.channels[key]? = some (h.records key).channel :=
  channels_eq_of_mem
    ((mem_channels_undergo hash h x key).mp
      (mem_channels hChannel))

/- Nor does a receipt come without a channel. -/
theorem receipts_undergo_of_not_mem
    (hash : Hash)
    {x : Happening}
    (hMem : key ∉ h.channels) :
    (h.undergo hash x).receipts[key]? = h.receipts[key]? := by
  by_cases hAbout : x.channel? = some key
  · cases x with
    | act a =>
        rw [undergo, (perform_of_not_mem hash hAbout hMem).2]
    | learn client height state => rfl
  · exact congrArg Records.receipt?
      (records_undergo_of_ne hash hAbout)

/- The same channels are stored in the end. -/
theorem mem_channels_course
    (hash : Hash)
    (h : Host)
    (happenings : List Happening)
    (k : ChannelKey) :
    k ∈ (h.course hash happenings).channels ↔
      k ∈ h.channels := by
  induction happenings generalizing h with
  | nil => exact Iff.rfl
  | cons x rest ih =>
      rw [course_cons, ih, mem_channels_undergo]

end Host

end Interchain
