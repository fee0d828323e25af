import Interchain.Proofs.Course.Channels
import Interchain.Proofs.Course.Receipts
import Interchain.Proofs.Handshake.Lockstep
import Interchain.Proofs.Mirror.Retry
import Mathlib.Data.List.Induction

/-
  Proposals that are stored.

  The fields of a proposal are checked when it is made: they are
  well formed, and not those of the channel.  After that, no
  step changes the fields of the channel as long as the proposal
  is stored, and one step only changes those of the proposal: an
  open end that is acknowledged takes the version of the answer.
  That version is well formed as well.  But it may be the one
  that the channel has, and then a proposal that changed only
  the version changes nothing any more.

  Main declarations:
    * `Records.Revises`
    * `Host.ProposalsChange`
    * `Host.TakesBack`

  Main statements:
    * `Host.revises_undergo`
    * `Host.proposals_change_unless_taken_back`
-/

------------------------------------------------------------
-- Revisions
------------------------------------------------------------

namespace Interchain

namespace Records

/-
  What can become of the proposal of an end in one step, where
  `settles` tells the versions that it may take.  Unless the
  proposal is gone, the end keeps its fields.
-/
inductive Revises
    (settles : ChannelVersion → Prop)
    (r r' : Records) : Prop
  | dropped
      (hNone : r'.upgrade? = none)
  | kept
      {u u' : Upgrade}
      (hBefore : r.upgrade? = some u)
      (hAfter : r'.upgrade? = some u')
      (hSame : u'.fields = u.fields)
      (hFields : r'.channel.fields = r.channel.fields)
  | proposed
      {u : Upgrade}
      (hAfter : r'.upgrade? = some u)
      (hValid : u.fields.validate = .ok ())
      (hChange : r'.channel.fields ≠ u.fields)
  | settled
      {u u' : Upgrade}
      {version : ChannelVersion}
      (hSettles : settles version)
      (hBefore : r.upgrade? = some u)
      (hAfter : r'.upgrade? = some u')
      (hSettled :
        u'.fields = { u.fields with version := version })
      (hFields : r'.channel.fields = r.channel.fields)

variable {settles : ChannelVersion → Prop} {r r' : Records}

/- Nothing is revised where proposal and fields are the same. -/
theorem revises_of_same
    (hUpgrade : r'.upgrade? = r.upgrade?)
    (hFields : r'.channel.fields = r.channel.fields) :
    r.Revises settles r' := by
  cases hBefore : r.upgrade? with
  | none => exact .dropped (hUpgrade.trans hBefore)
  | some u =>
      exact .kept hBefore (hUpgrade.trans hBefore) rfl hFields

end Records

end Interchain

------------------------------------------------------------
-- Fields of a Step
------------------------------------------------------------

namespace Interchain

namespace Host

variable {h : Host}

/- A proposal that is made is well formed, and changes the end
   that it is made for. -/
theorem fields_of_propose
    {key : ChannelKey}
    {c : ChannelEnd}
    {fields : UpgradeFields}
    {timeout : Option UpgradeTimeout}
    {step : UpgradeStep}
    (hOk : h.propose key c fields timeout = .ok step) :
    step.upgrade.fields.validate = .ok () ∧
      step.channel.fields = c.fields ∧
      step.channel.fields ≠ step.upgrade.fields := by
  rcases propose_eq_ok hOk with ⟨_, hValid, hChange, rfl⟩
  exact ⟨hValid, rfl, hChange⟩

/- An answer keeps the fields of the end, and of the proposal
   that it builds on. -/
theorem fields_of_processTry
    {m : TryMessage}
    {staged : Option UpgradeStep}
    {report : EventReport UpgradeStep}
    (hOk : h.processTry m staged = .ok report) :
    ∃ c u,
      h.answered m.key staged = .ok (c, u) ∧
        report.result.channel.fields = c.fields ∧
        report.result.upgrade.fields = u.fields := by
  rcases processTry_eq_ok hOk with
    ⟨c, u, flushing, upgrade, hAnswered, _, _, _, _, hFlush,
      hResult⟩
  rcases startFlushing_eq_ok hFlush with ⟨hFlushing, hSame⟩
  rw [hResult, hFlushing]
  exact ⟨c, u, hAnswered, rfl, hSame⟩

/- An acknowledgement settles the version of an open end. -/
theorem fields_of_processAck
    {m : AckMessage}
    {report : EventReport AckStep}
    (hOk : h.processAck m = .ok report) :
    ∃ c stored,
      h.channels[m.key]? = some c ∧
        h.upgrades[m.key]? = some stored ∧
        report.result.channel.fields = c.fields ∧
        report.result.upgrade.fields =
          (stored.settled c
            m.counterpartyUpgrade.fields.version).fields := by
  rcases processAck_eq_ok hOk with
    ⟨c, stored, flushing, upgrade, hChannel, hState, _, hStored,
      _, _, hFlush, hResult⟩
  have hFlushing := flushIfOpen_eq_ok hState hFlush
  have hSame :
      upgrade.fields =
        (stored.settled c
          m.counterpartyUpgrade.fields.version).fields := by
    unfold flushIfOpen at hFlush
    split at hFlush
    case isTrue => exact (startFlushing_eq_ok hFlush).2
    case isFalse =>
      simp only [Except.ok.injEq, Prod.mk.injEq] at hFlush
      rw [hFlush.2]
  rw [hResult]
  refine ⟨c, stored, hChannel, hStored, ?_, hSame⟩
  rw [hFlushing]
  rfl

/- What is stored of an acknowledgement, whether or not the end
   is done flushing. -/
theorem fields_of_ackPlan
    {step : AckStep}
    {p : Plan Event}
    (hPlan : ackPlan step h = .ok p) :
    ((h.applyAll p.writes).records step.key).upgrade? =
        some step.upgrade ∧
      ((h.applyAll p.writes).records step.key).channel.fields =
        step.channel.fields := by
  rcases (records_ackPlan hPlan).2 with
    ⟨_, hRecords⟩ | ⟨_, hRecords⟩
  · rw [hRecords]
    exact ⟨rfl, rfl⟩
  · rw [hRecords]
    exact ⟨rfl, rfl⟩

end Host

end Interchain

------------------------------------------------------------
-- Revisions of a Message
------------------------------------------------------------

namespace Interchain

namespace Host

open Records

/- The version that a happening settles for the proposal of an
   open end, if it is an acknowledgement that is accepted. -/
def Settles
    (h : Host)
    (key : ChannelKey)
    (version : ChannelVersion) : Happening → Prop
  | .act (.dispatch (.ack m)) =>
      m.key = key ∧ Succeeds (h.dispatch (.ack m)).1 ∧
        (h.records key).channel.state = .open ∧
        m.counterpartyUpgrade.fields.version = version
  | _ => False

variable {h : Host} {m : UpgradeMessage}
variable {settles : ChannelVersion → Prop}

/- An answer keeps the proposal, or stores a valid one. -/
theorem revises_of_processTry
    {m : TryMessage}
    {staged : Option UpgradeStep}
    {report : EventReport UpgradeStep}
    {p : Plan Event}
    (hStaged : h.stageAnswer m = .ok staged)
    (hOk : h.processTry m staged = .ok report)
    (hPlan : answerPlan report.result h = .ok p) :
    (h.records m.key).Revises settles
      ((h.applyAll p.writes).records m.key) := by
  have hRecords := (records_stepPlan hPlan).2
  rw [key_of_processTry hOk] at hRecords
  rcases fields_of_processTry hOk with
    ⟨c, u, hAnswered, hFields, hSame⟩
  rw [hRecords]
  rcases stageAnswer_eq_ok hStaged with
    ⟨rfl, _⟩ | ⟨found, step, rfl, _, hChannel, hPropose⟩
  · simp [answered] at hAnswered
    rw [← records_channel hAnswered.1] at hFields
    exact .kept hAnswered.2 rfl hSame hFields
  · simp only [answered, Except.ok.injEq,
      Prod.mk.injEq] at hAnswered
    rcases hAnswered with ⟨rfl, rfl⟩
    rcases fields_of_propose hPropose with
      ⟨hValid, _, hChange⟩
    rw [← hSame] at hValid
    rw [← hSame, ← hFields] at hChange
    exact .proposed rfl hValid hChange

/- An acknowledgement may settle for the version of the answer. -/
theorem revises_of_processAck
    {m : AckMessage}
    {report : EventReport AckStep}
    {p : Plan Event}
    (hOk : h.processAck m = .ok report)
    (hPlan : ackPlan report.result h = .ok p)
    (hSettles :
      (h.records m.key).channel.state = .open →
        settles m.counterpartyUpgrade.fields.version) :
    (h.records m.key).Revises settles
      ((h.applyAll p.writes).records m.key) := by
  have hStored := fields_of_ackPlan hPlan
  rw [key_of_processAck hOk] at hStored
  rcases hStored with ⟨hAfter, hKept⟩
  rcases fields_of_processAck hOk with
    ⟨c, stored, hChannel, hBefore, hFields, hSettled⟩
  rw [← records_channel hChannel] at hFields hSettled
  have hSame := hKept.trans hFields
  unfold Upgrade.settled at hSettled
  split at hSettled
  case isTrue hOpen =>
    exact .settled (hSettles hOpen) hBefore hAfter hSettled hSame
  case isFalse =>
    exact .kept hBefore hAfter hSettled hSame

/- A confirmation keeps the proposal. -/
theorem revises_of_processConfirm
    {m : ConfirmMessage}
    {report : EventReport ConfirmStep}
    {p : Plan (Event × Bool)}
    (hOk : h.processConfirm m = .ok report)
    (hPlan : confirmPlan report.result h = .ok p) :
    (h.records m.key).Revises settles
      ((h.applyAll p.writes).records m.key) := by
  rcases records_of_processConfirm hOk hPlan with
    ⟨c, u, hChannel, _, _, hRecords | ⟨_, hRecords⟩⟩
  · rw [hRecords]
    exact revises_of_same rfl rfl
  · rw [hRecords]
    refine revises_of_same ?_ ?_
    · rfl
    · rw [records_channel hChannel]
      rfl

/- Opening drops the proposal. -/
theorem revises_of_openPlan
    {key : ChannelKey}
    {r : Records}
    {p : Plan Event}
    (hPlan : openPlan key h = .ok p) :
    r.Revises settles ((h.applyAll p.writes).records key) := by
  rcases records_openPlan hPlan with ⟨_, u, _, hRecords⟩
  exact .dropped (congrArg upgrade? hRecords)

theorem revises_of_abortPlan
    {key : ChannelKey}
    {r : Records}
    {reason : AbortReason}
    {p : Plan (EventReport ErrorReceipt)}
    (hPlan : abortPlan key reason h = .ok p) :
    r.Revises settles ((h.applyAll p.writes).records key) := by
  rcases records_abortPlan hPlan with ⟨_, _, _, _, hRecords⟩
  exact .dropped (congrArg upgrade? hRecords)

/- Each way to take a step revises the proposal; an
   acknowledgement with the version that it settles. -/
theorem Takes.revises
    {events : List Event}
    {after : Host}
    (hTakes : h.Takes m events after)
    (hSucceeds : Succeeds (h.dispatch m).1) :
    (h.records m.key).Revises
      (fun version =>
        h.Settles m.key version (.act (.dispatch m)))
      (after.records m.key) := by
  cases hTakes with
  | @init m report p hOk hPlan =>
      rcases processInit_eq_ok hOk with ⟨c, _, hPropose⟩
      rcases fields_of_propose hPropose with
        ⟨hValid, _, hChange⟩
      have hRecords := (records_stepPlan hPlan).2
      rw [key_of_processInit hOk] at hRecords
      rw [UpgradeMessage.key, hRecords]
      exact .proposed rfl hValid hChange
  | attempt hStaged hOk hPlan =>
      exact revises_of_processTry hStaged hOk hPlan
  | ack hOk hPlan =>
      exact revises_of_processAck hOk hPlan fun hOpen =>
        ⟨rfl, hSucceeds, hOpen, rfl⟩
  | confirm hOk hPlan =>
      exact revises_of_processConfirm hOk hPlan
  | confirmOpen hOk hPlan hOpen =>
      exact revises_of_openPlan hOpen
  | reopen hOk hPlan => exact revises_of_openPlan hPlan
  | @cancel m report p hOk hPlan =>
      have hRecords := (records_cancelPlan hPlan).2
      rw [key_of_processCancel hOk] at hRecords
      exact .dropped (congrArg upgrade? hRecords)
  | @timeout m report p hOk hPlan =>
      rcases records_timeoutPlan hPlan with ⟨_, _, _, hRecords⟩
      rw [key_of_processTimeout hOk] at hRecords
      exact .dropped (congrArg upgrade? hRecords)

/- So does every answer, as a proposal that is given up is
   gone. -/
theorem revises_dispatch
    (h : Host)
    (m : UpgradeMessage) :
    (h.records m.key).Revises
      (fun version =>
        h.Settles m.key version (.act (.dispatch m)))
      ((h.dispatch m).2.records m.key) := by
  have hAnswers := h.answers_dispatch m
  rcases hDispatch : h.dispatch m with ⟨result, after⟩
  rw [hDispatch] at hAnswers
  cases hAnswers with
  | rejected cause => exact revises_of_same rfl rfl
  | taken log hTakes =>
      apply hTakes.revises
      rw [hDispatch]
      exact ⟨_, rfl, rfl⟩
  | givenUp hEnds hPlan => exact revises_of_abortPlan hPlan

end Host

end Interchain

------------------------------------------------------------
-- Revisions of a Happening
------------------------------------------------------------

namespace Interchain

namespace Host

open Records

variable {h : Host} {key : ChannelKey}
variable {settles : ChannelVersion → Prop}

/- A look keeps the proposal, or it gives it up. -/
theorem Looks.revises
    {after : Host}
    {r : Records}
    (hLooks : h.Looks key after)
    (hUpgrade : (h.records key).upgrade? = r.upgrade?)
    (hFields :
      (h.records key).channel.fields = r.channel.fields) :
    r.Revises settles (after.records key) := by
  cases hLooks with
  | still => exact revises_of_same hUpgrade hFields
  | @drained c hChannel =>
      rw [records_channel hChannel] at hFields
      rw [(h.records_completePlan key c).2]
      exact revises_of_same hUpgrade hFields
  | expired hChannel hState hSequence hPlan =>
      exact revises_of_abortPlan hPlan

/- Whatever happens, only an acknowledgement that an open end
   accepts changes the fields of its proposal. -/
theorem revises_undergo
    (hash : Hash)
    (h : Host)
    (key : ChannelKey)
    (x : Happening) :
    (h.records key).Revises
      (fun version => h.Settles key version x)
      ((h.undergo hash x).records key) := by
  by_cases hAbout : x.channel? = some key
  case neg =>
    have hSame := records_undergo_of_ne hash hAbout (h := h)
    exact revises_of_same (congrArg upgrade? hSame)
      (congrArg (fun r => r.channel.fields) hSame)
  case pos =>
    rcases x with a | _
    case learn => exact revises_of_same rfl rfl
    case act =>
      cases a with
      | dispatch m =>
          cases hAbout
          exact h.revises_dispatch m
      | send p =>
          cases hAbout
          rcases send_cases (s := .start h) hash p rfl with
            ⟨_, _, hSends⟩ | ⟨_, _, hSame⟩
          · rw [undergo, perform, hSends.after]
            exact revises_of_same rfl rfl
          · rw [undergo, perform, hSame]
            exact revises_of_same rfl rfl
      | resolve packet =>
          cases hAbout
          rcases looks_resolvePacket (s := .start h) packet rfl
            with ⟨resolved, rfl, hLooks⟩
          exact hLooks.revises rfl rfl
      | refresh other =>
          cases hAbout
          exact
            (looks_refresh (s := .start h) key rfl).revises rfl
              rfl
      | abort other reason =>
          cases hAbout
          exact (Session.carryOut_host (s := .start h)
            (P := fun after =>
              (h.records key).Revises _ (after.records key)) rfl
            (revises_of_same rfl rfl)
            fun _ hMade => revises_of_abortPlan hMade).1
      | advance => simp [Happening.channel?, Action.channel?] at hAbout

end Host

end Interchain

------------------------------------------------------------
-- Well-Formed Proposals
------------------------------------------------------------

namespace Interchain

namespace Host

open Records

variable {h : Host} {key : ChannelKey}

/- Every proposal that is stored is well formed. -/
def ProposalsValid (h : Host) : Prop :=
  ∀ (key : ChannelKey) (u : Upgrade),
    h.upgrades[key]? = some u → u.fields.validate = .ok ()

/- A message that is answered by a success is valid in
   itself. -/
theorem valid_of_succeeds
    {m : UpgradeMessage}
    (hSucceeds : Succeeds (h.dispatch m).1) :
    m.validate = .ok () := by
  cases hValid : m.validate with
  | ok => rfl
  | error cause =>
      rcases hSucceeds with ⟨report, hReport, _⟩
      rw [dispatch_of_invalid hValid] at hReport
      cases hReport

/- So a version that is settled is not blank. -/
theorem Settles.isBlank_eq_false
    {version : ChannelVersion}
    {x : Happening}
    (hSettles : h.Settles key version x) :
    version.isBlank = false := by
  unfold Settles at hSettles
  split at hSettles
  case h_2 => exact hSettles.elim
  case h_1 m =>
    rcases hSettles with ⟨_, hSucceeds, _, rfl⟩
    have hValid : m.validate = .ok () :=
      valid_of_succeeds hSucceeds
    simp only [AckMessage.validate, bind_eq_ok] at hValid
    rcases hValid with ⟨_, hFields, _⟩
    rw [UpgradeFields.validate_eq_ok_iff] at hFields
    exact hFields.2.2

/- Whatever happens, proposals stay valid. -/
theorem ProposalsValid.undergo
    (hash : Hash)
    (hValid : h.ProposalsValid)
    (x : Happening) :
    (h.undergo hash x).ProposalsValid := by
  intro key after hAfter
  have hAfter :
      ((h.undergo hash x).records key).upgrade? = some after :=
    hAfter
  cases h.revises_undergo hash key x with
  | dropped hNone =>
      rw [hNone] at hAfter
      cases hAfter
  | kept hBefore hStored hSame =>
      rw [hStored, Option.some.injEq] at hAfter
      subst hAfter
      rw [hSame]
      exact hValid key _ hBefore
  | proposed hStored hMade =>
      rw [hStored, Option.some.injEq] at hAfter
      subst hAfter
      exact hMade
  | settled hSettles hBefore hStored hSettled =>
      rw [hStored, Option.some.injEq] at hAfter
      subst hAfter
      have hFields := hValid key _ hBefore
      rw [UpgradeFields.validate_eq_ok_iff] at hFields
      rw [hSettled, UpgradeFields.validate_eq_ok_iff]
      exact ⟨hFields.1, hFields.2.1, hSettles.isBlank_eq_false⟩

/- So they are valid in the end. -/
theorem ProposalsValid.course
    (hash : Hash)
    (hValid : h.ProposalsValid)
    (happenings : List Happening) :
    (h.course hash happenings).ProposalsValid := by
  induction happenings generalizing h with
  | nil => exact hValid
  | cons x rest ih => exact ih (hValid.undergo hash x)

end Host

end Interchain

------------------------------------------------------------
-- Proposals That Change Something
------------------------------------------------------------

namespace Interchain

namespace Host

open Records

variable {h : Host} {key : ChannelKey}

/- Every proposal that is stored changes the fields of its
   channel. -/
def ProposalsChange (h : Host) : Prop :=
  ∀ (key : ChannelKey) (c : ChannelEnd) (u : Upgrade),
    h.channels[key]? = some c → h.upgrades[key]? = some u →
      c.fields ≠ u.fields

/-
  An acknowledgement that takes a proposal back: an open end
  accepts it whose proposal changes the version at most, and
  the version that is settled is the one that the end has.
-/
structure TakesBack (h : Host) (m : AckMessage) : Prop where
  succeeds : Succeeds (h.dispatch (.ack m)).1
  proposal :
    ∃ c u,
      h.channels[m.key]? = some c ∧
        c.state = .open ∧
        h.upgrades[m.key]? = some u ∧
        u.fields.order = c.order ∧
        u.fields.hops = c.hops ∧
        m.counterpartyUpgrade.fields.version = c.version

/- The proposal is then stored, with the fields of the end. -/
theorem TakesBack.not_proposalsChange
    (hash : Hash)
    {m : AckMessage}
    (hTakesBack : h.TakesBack m) :
    ¬ (h.undergo hash
        (.act (.dispatch (.ack m)))).ProposalsChange := by
  rcases hTakesBack.proposal with
    ⟨c, u, hChannel, hOpen, hUpgrade, hOrder, hHops, hVersion⟩
  have hStill :=
    channels_undergo hash (.act (.dispatch (.ack m))) hChannel
  rcases
      (h.answers_dispatch (.ack m)).takes_of_succeeds
        hTakesBack.succeeds with
    ⟨events, hTakes⟩
  rw [undergo, perform] at hStill ⊢
  generalize (h.dispatch (.ack m)).2 = after at hTakes hStill ⊢
  cases hTakes with
  | @ack _ report p hOk hPlan =>
      have hStored := fields_of_ackPlan hPlan
      rw [key_of_processAck hOk] at hStored
      rcases hStored with ⟨hAfter, hKept⟩
      rcases fields_of_processAck hOk with
        ⟨c', u', hFound, hHeld, hFields, hSettled⟩
      rw [hChannel, Option.some.injEq] at hFound
      rw [hUpgrade, Option.some.injEq] at hHeld
      subst hFound hHeld
      have hSame : report.result.upgrade.fields = c.fields := by
        rw [hSettled, Upgrade.settled, if_pos hOpen, hVersion]
        simp only [ChannelEnd.fields, hOrder, hHops]
      intro hChange
      apply hChange m.key _ _ hStill hAfter
      rw [hKept, hFields, hSame]

/- An acknowledgement that settles the fields of the end takes
   the proposal back. -/
theorem Settles.takesBack
    {version : ChannelVersion}
    {x : Happening}
    {u : Upgrade}
    (hSettles : h.Settles key version x)
    (hUpgrade : h.upgrades[key]? = some u)
    (hFields :
      (h.records key).channel.fields =
        { u.fields with version := version }) :
    ∃ m, x = .act (.dispatch (.ack m)) ∧ h.TakesBack m := by
  unfold Settles at hSettles
  split at hSettles
  case h_2 => exact hSettles.elim
  case h_1 m =>
    rcases hSettles with ⟨rfl, hSucceeds, hOpen, rfl⟩
    have hChannel :
        h.channels[m.key]? = some (h.records m.key).channel :=
      channels_eq_of_state_ne (by rw [hOpen]; simp)
    simp only [ChannelEnd.fields, UpgradeFields.mk.injEq]
      at hFields
    rcases hFields with ⟨hOrder, hHops, hVersion⟩
    exact ⟨m, rfl, hSucceeds, _, u, hChannel, hOpen, hUpgrade,
      hOrder.symm, hHops.symm, hVersion.symm⟩

/- Nothing else makes a proposal change nothing. -/
theorem ProposalsChange.undergo_iff
    (hash : Hash)
    (hChange : h.ProposalsChange)
    (x : Happening) :
    (h.undergo hash x).ProposalsChange ↔
      ∀ m, x = .act (.dispatch (.ack m)) → ¬ h.TakesBack m := by
  constructor
  · rintro hAfter m rfl hTakesBack
    exact hTakesBack.not_proposalsChange hash hAfter
  · intro hNever key c after hChannel hAfter
    have hAfter :
        ((h.undergo hash x).records key).upgrade? =
          some after :=
      hAfter
    rw [← records_channel hChannel]
    cases h.revises_undergo hash key x with
    | dropped hNone =>
        rw [hNone] at hAfter
        cases hAfter
    | kept hBefore hStored hSame hFields =>
        rw [hStored, Option.some.injEq] at hAfter
        subst hAfter
        rw [hSame, hFields]
        exact hChange key _ _
          (channels_of_undergo hash hChannel) hBefore
    | proposed hStored hMade hNew =>
        rw [hStored, Option.some.injEq] at hAfter
        subst hAfter
        exact hNew
    | settled hSettles hBefore hStored hSettled hFields =>
        rw [hStored, Option.some.injEq] at hAfter
        subst hAfter
        rw [hSettled, hFields]
        intro hSame
        rcases hSettles.takesBack hBefore hSame with
          ⟨m, hMessage, hTakesBack⟩
        exact hNever m hMessage hTakesBack

end Host

end Interchain

------------------------------------------------------------
-- Proposals of a Course
------------------------------------------------------------

namespace Interchain

namespace Host

variable {h : Host}

/- In a course, all proposals change something as long as no
   acknowledgement takes one back. -/
theorem proposalsChange_course_iff
    (hash : Hash)
    (hChange : h.ProposalsChange)
    (happenings : List Happening) :
    (∀ past rest,
        happenings = past ++ rest →
          (h.course hash past).ProposalsChange) ↔
      ∀ past m rest,
        happenings = past ++ .act (.dispatch (.ack m)) :: rest →
          ¬ (h.course hash past).TakesBack m := by
  constructor
  · rintro hAlways past m rest rfl hTakesBack
    have hBefore := hAlways past _ rfl
    have hAfter :=
      hAlways (past ++ [.act (.dispatch (.ack m))]) rest
        (by simp)
    rw [course_concat] at hAfter
    exact (hBefore.undergo_iff hash _).mp hAfter m rfl
      hTakesBack
  · intro hNever past
    induction past using List.reverseRecOn with
    | nil => exact fun _ _ => hChange
    | append_singleton past x ih =>
        intro rest hPast
        rw [List.append_assoc, List.singleton_append] at hPast
        rw [course_concat]
        apply ((ih _ hPast).undergo_iff hash x).mpr
        rintro m rfl
        exact hNever past m rest hPast

/-
  Take any chain that holds no proposal, and any course of it.
  Every proposal that it then holds is well formed.  All that
  it held on the way changed the fields of their channels, if
  and only if none was taken back by an acknowledgement.
-/
theorem proposals_change_unless_taken_back
    (hash : Hash)
    (h : Host)
    (happenings : List Happening)
    (hNone : ∀ key : ChannelKey, h.upgrades[key]? = none) :
    (h.course hash happenings).ProposalsValid ∧
      ((∀ past rest,
          happenings = past ++ rest →
            (h.course hash past).ProposalsChange) ↔
        ∀ past m rest,
          happenings =
              past ++ .act (.dispatch (.ack m)) :: rest →
            ¬ (h.course hash past).TakesBack m) := by
  have hValid : h.ProposalsValid := by
    intro key u hStored
    rw [hNone] at hStored
    cases hStored
  have hChange : h.ProposalsChange := by
    intro key c u _ hStored
    rw [hNone] at hStored
    cases hStored
  exact ⟨hValid.course hash happenings,
    proposalsChange_course_iff hash hChange happenings⟩

end Host

end Interchain

------------------------------------------------------------
-- Sample Chains
------------------------------------------------------------

namespace Interchain

namespace Fixture

/- Staying on the connection of the channel, with a version of
   its own. -/
def staying
    (version : ChannelVersion)
    (hNamed : version.isBlank = false) :
    Mirror.Proposal where
  order := mirror.order
  version := version
  hop := mirror.hop
  connection := mirror.connection
  isDefinite := by decide
  isNamed := hNamed
  isOpen := mirror.isOpen
  facesPeer := mirror.facesPeer
  isSupported := by
    intro side
    exact ⟨.standard, connection_versions side _, by decide⟩

/- A proposal that changes the version only. -/
def newVersion : Mirror.Proposal :=
  staying proposal.version proposal.isNamed

/- What the channel has. -/
def oldVersion : Mirror.Proposal := staying .ics20 (by decide)

/- B flushes for the version that the channel has. -/
def oldAnswer : Upgrade :=
  ⟨oldVersion.fields .right, some sampleDeadline, .zero⟩

/- The sample chains, with that answer on B. -/
def insisting (hash : Hash) : Chains :=
  arranged hash fun side =>
    match side with
    | .left => []
    | .right =>
        [ .channel (key .right)
            (mirror.endAt .right .flushing ⟨1⟩),
          .upgrade (key .right) oldAnswer ]

/- Both chains can take up a proposal to stay. -/
theorem isOffered_insisting
    (hash : Hash)
    (version : ChannelVersion)
    (hNamed : version.isBlank = false) :
    (staying version hNamed).IsOffered (insisting hash) := by
  intro side
  rw [insisting,
    (hasSameSetting_arranged hash _ side).connections]
  exact connections_hop hash side

/- A is open, with nothing stored. -/
theorem stands_insisting_left (hash : Hash) :
    mirror.Stands .left (insisting hash) .open .zero none := by
  constructor <;>
    rw [insisting, records_arranged] <;>
    simp [records_host]

/- B flushes for the version that there is. -/
theorem stands_insisting_right (hash : Hash) :
    mirror.Stands (Side.other .left) (insisting hash) .flushing
      ⟨1⟩ (some oldAnswer) := by
  constructor <;>
    rw [insisting, records_arranged] <;>
    simp [Side.other, records_host]

/- A proposes the new version. -/
def newVersionMessage : InitMessage :=
  mirror.initMessage .left signer newVersion none

/- Both chains after that. -/
def differing (hash : Hash) : Chains :=
  mirror.proposing .left (insisting hash) signer newVersion none

theorem stands_differing_left (hash : Hash) :
    mirror.Stands .left (differing hash) .open ⟨1⟩
      (some (newVersion.proposed .left none)) :=
  (stands_insisting_left hash).proposing
    (isOffered_insisting hash _ _) (by decide) rfl signer

theorem stands_differing_right (hash : Hash) :
    mirror.Stands (Side.other .left) (differing hash) .flushing
      ⟨1⟩ (some oldAnswer) :=
  (stands_insisting_right hash).of_host_eq
    (Mirror.host_proposing_other signer)

/- A is told of B, and shown its answer. -/
abbrev toldDiffering (hash : Hash) : Host :=
  mirror.informed hash .left (differing hash)

/- A acknowledges with the answer that B gave before. -/
def ackDiffering (hash : Hash) : AckMessage :=
  mirror.ackMessage hash .left (differing hash) signer oldAnswer

/- The whole course of A. -/
def takingBack (hash : Hash) : List Happening :=
  [ .act (.dispatch (.init newVersionMessage)),
    .told hash (mirror.connection .left).client
      ((differing hash).host .right),
    .act (.dispatch (.ack (ackDiffering hash))) ]

/- What A comes to by its acknowledgement. -/
theorem course_takingBack (hash : Hash) :
    (host hash .left).course hash (takingBack hash) =
      ((toldDiffering hash).dispatch
        (.ack (ackDiffering hash))).2 := rfl

/- A had the setting that it started with. -/
theorem hasSameSetting_differing (hash : Hash) :
    ((differing hash).host .left).HasSameSetting
      (host hash .left) :=
  (host hash .left).hasSameSetting_dispatch
    (.init newVersionMessage)

/- What A holds before it. -/
theorem records_differing (hash : Hash) :
    mirror.records .left (differing hash) =
      { (host hash .left).records (key .left) with
        channel := mirror.endAt .left .open ⟨1⟩
        upgrade? := some (newVersion.proposed .left none) } :=
  ((stands_insisting_left hash).proposes
    (isOffered_insisting hash _ _) (by decide) rfl signer).2

/- What the channel has on A is compatible with the answer. -/
theorem checkCompatible_differing (hash : Hash) :
    (toldDiffering hash).checkCompatible (oldVersion.fields .left)
        oldAnswer.fields = .ok () := by
  have hOffered : oldVersion.IsOffered (differing hash) :=
    (isOffered_insisting hash .ics20 (by decide)).replace
      (((insisting hash).host .left).hasSameSetting_dispatch
        (.init newVersionMessage)).links.1
  rw [(mirror.hasSameLinks_informed hash .left
    (differing hash)).checkCompatible_eq]
  exact hOffered.checkCompatible .left

/- B is proven to flush for the first attempt. -/
theorem verified_differing (hash : Hash) :
    (toldDiffering hash).verifyCounterparty
        (ackDiffering hash).key (mirror.endAt .left .open ⟨1⟩)
        .flushing (ackDiffering hash).counterpartySequence
        oldAnswer (ackDiffering hash).channelProof
        (ackDiffering hash).upgradeProof
        (ackDiffering hash).proofHeight = .ok () := by
  have hRight := stands_differing_right hash
  have hJoins : mirror.Joins hash (differing hash) :=
    (joins_arranged hash _).proposing signer
  have hAttempt :
      (ackDiffering hash).counterpartySequence = ⟨1⟩ :=
    hRight.attempt
  rw [hAttempt]
  exact hJoins.verifies (hRight.channels (by simp)) hRight.upgrade
    .open ⟨1⟩

/- A can start to flush. -/
theorem startFlushing_differing (hash : Hash) (u : Upgrade) :
    (toldDiffering hash).startFlushing (key .left)
        (mirror.endAt .left .open ⟨1⟩) u =
      .ok (mirror.endAt .left .flushing ⟨1⟩,
        { u with
          latestSent := .zero
          timeout := some sampleDeadline }) := by
  have hJoins : mirror.Joins hash (differing hash) :=
    (joins_arranged hash _).proposing signer
  have hSetting := hasSameSetting_differing hash
  have hNext :
      ((differing hash).host .left).nextSequences[key .left]? =
        some ⟨1⟩ := by
    have hSame :=
      congrArg Records.next? (records_differing hash)
    rw [records_host] at hSame
    exact hSame
  have hDeadline :
      ((differing hash).host .left).params.deadline
          ((differing hash).host .left).height
          ((differing hash).host .left).timestamp =
        .ok sampleDeadline := by
    rw [hSetting.params, hSetting.height, hSetting.timestamp]
    exact setsDeadline_host hash .left
  exact Host.startFlushing_ok
    (hJoins.openConnection .left .open ⟨1⟩) hNext hDeadline u

/- The acknowledgement is accepted.  A is done flushing, for the
   fields that its end has. -/
theorem dispatch_ackDiffering (hash : Hash) :
    Succeeds
        ((toldDiffering hash).dispatch
          (.ack (ackDiffering hash))).1 ∧
      ((toldDiffering hash).dispatch
          (.ack (ackDiffering hash))).2.records (key .left) =
        { (host hash .left).records (key .left) with
          channel := mirror.endAt .left .flushComplete ⟨1⟩
          upgrade? :=
            some
              ⟨oldVersion.fields .left, some sampleDeadline,
                .zero⟩ } := by
  have hLeft := stands_differing_left hash
  have hSetting := hasSameSetting_differing hash
  have hAhead :
      oldAnswer.hasRunOut ((differing hash).host .left).height
        ((differing hash).host .left).timestamp = false := by
    rw [hSetting.height, hSetting.timestamp]
    exact hasElapsed_sampleDeadline hash .left
  have hChannel :
      (toldDiffering hash).channels[(ackDiffering hash).key]? =
        some (mirror.endAt .left .open ⟨1⟩) :=
    hLeft.channels (by simp)
  have hUpgrade :
      (toldDiffering hash).upgrades[(ackDiffering hash).key]? =
        some (newVersion.proposed .left none) :=
    hLeft.upgrade
  have hAttempt :
      (mirror.endAt .left .open ⟨1⟩).upgradeSequence =
        (ackDiffering hash).counterpartySequence :=
    (stands_differing_right hash).attempt.symm
  rcases
      Host.processAck_settles hChannel rfl
        (verified_differing hash) hUpgrade hAttempt
        (checkCompatible_differing hash)
        (startFlushing_differing hash
          (oldVersion.proposed .left none))
        (Host.checkCounterpartyTimeout_eq_ok_iff.mpr hAhead) with
    ⟨report, hOk, hResult⟩
  have hValid : (ackDiffering hash).validate = .ok () := by
    simp [AckMessage.validate, ackDiffering, Mirror.ackMessage,
      oldAnswer, validateRequiredTimeout,
      oldVersion.validate_fields, validate_sampleDeadline]
  have hDone := Host.dispatch_ack_of_ok hValid hOk hResult
  have hRecords :
      (toldDiffering hash).records (ackDiffering hash).key =
        { (host hash .left).records (key .left) with
          channel := mirror.endAt .left .open ⟨1⟩
          upgrade? := some (newVersion.proposed .left none) } :=
    records_differing hash
  have hEmpty :
      ((host hash .left).records (key .left)).inFlight = ∅ := by
    rw [records_host]
  refine ⟨hDone.1, ?_⟩
  rcases hDone.2 with ⟨hSent, _⟩ | ⟨_, hAfter⟩
  · rw [hRecords] at hSent
    exact (hSent hEmpty).elim
  · rw [hRecords] at hAfter
    exact hAfter

/- The proposal of A changes something when it is made. -/
theorem sample_proposals_change_unless_taken_back :
    (∀ k : ChannelKey, (host id .left).upgrades[k]? = none) ∧
      Host.ProposalsChange
        ((host id .left).course id
          [.act (.dispatch (.init newVersionMessage))]) := by
  have hNone := upgrades_host id .left
  have hChange :=
    (Host.proposals_change_unless_taken_back id (host id .left)
      [.act (.dispatch (.init newVersionMessage))] hNone).2.mpr
  refine ⟨hNone, hChange ?_ _ [] rfl⟩
  rintro (_ | ⟨x, past⟩) m rest hPast <;> simp at hPast

/- A starts without a proposal.  After its course, it holds one
   that changes nothing. -/
theorem sample_taken_back :
    (∀ k : ChannelKey, (host id .left).upgrades[k]? = none) ∧
      ∃ c u,
        ((host id .left).course id
              (takingBack id)).channels[key .left]? = some c ∧
          ((host id .left).course id
              (takingBack id)).upgrades[key .left]? = some u ∧
          u.fields = c.fields := by
  have hRecords :
      ((host id .left).course id (takingBack id)).records
          (key .left) =
        { (host id .left).records (key .left) with
          channel := mirror.endAt .left .flushComplete ⟨1⟩
          upgrade? :=
            some
              ⟨oldVersion.fields .left, some sampleDeadline,
                .zero⟩ } := by
    rw [course_takingBack]
    exact (dispatch_ackDiffering id).2
  generalize (host id .left).course id (takingBack id) = after
    at hRecords ⊢
  refine ⟨upgrades_host id .left,
    mirror.endAt .left .flushComplete ⟨1⟩,
    ⟨oldVersion.fields .left, some sampleDeadline, .zero⟩,
    ?_, ?_, rfl⟩
  · rw [Host.channels_eq_of_state_ne] <;> rw [hRecords]
    simp [Mirror.endAt]
  · exact congrArg Records.upgrade? hRecords

end Fixture

end Interchain
