import Interchain.Proofs.Course.Receipts
import Interchain.Proofs.Link.Restoring

/-
  Where error receipts come from.

  A chain stores a receipt when it gives an attempt up, with
  the text of an error, and when it cancels one, with the text
  that the message gives.  That text is proven to be stored on
  the other chain, unless the authority cancels: its word is
  taken for any text, and the other chain can be shown it from
  then on.

  Main declarations:
    * `ErrorReceipt.IsNormal`
    * `Host.Withdraws`
    * `Host.Accepts`
    * `Link.Given`

  Main statements:
    * `Host.receipt_cases`
    * `Link.Run.receipts_of_errors_or_given`
-/

------------------------------------------------------------
-- Normal Receipts
------------------------------------------------------------

namespace Interchain

/- A receipt that some error leaves. -/
def ErrorReceipt.IsNormal (r : ErrorReceipt) : Prop :=
  ∃ error : UpgradeError, error.receipt = r

/- How the text of such a receipt starts. -/
def ErrorReceipt.start : String := "upgrade error code: "

/- A normal text begins as all of them do. -/
theorem ErrorReceipt.IsNormal.start_prefix
    {r : ErrorReceipt}
    (hNormal : r.IsNormal) :
    ErrorReceipt.start.toList <+: r.message.toList := by
  rcases hNormal with ⟨error, rfl⟩
  simp only [UpgradeError.receipt, String.toList_append,
    List.append_assoc]
  exact List.prefix_append _ _

namespace Records

/- The receipt of a channel stays, goes, or becomes that of an
   error. -/
def KeepsNormal (r r' : Records) : Prop :=
  ∀ receipt,
    r'.receipt? = some receipt →
      r.receipt? = some receipt ∨ receipt.IsNormal

variable {r r' r'' : Records}

theorem KeepsNormal.refl (r : Records) : r.KeepsNormal r :=
  fun _ hStored => Or.inl hStored

/- Changes of other records leave the receipt as it is. -/
theorem keepsNormal_of_eq
    (hAfter : r' = r'')
    (hSame : r''.receipt? = r.receipt?) :
    r.KeepsNormal r' := by
  intro receipt hStored
  rw [hAfter, hSame] at hStored
  exact Or.inl hStored

/- An error leaves a normal receipt. -/
theorem keepsNormal_of_receipt
    {error : UpgradeError}
    (hReceipt : r'.receipt? = some error.receipt) :
    r.KeepsNormal r' := by
  intro receipt hStored
  rw [hReceipt, Option.some.injEq] at hStored
  exact Or.inr ⟨error, hStored⟩

theorem keepsNormal_of_none
    (hNone : r'.receipt? = none) :
    r.KeepsNormal r' := by
  intro receipt hStored
  rw [hNone] at hStored
  cases hStored

/- Normal texts are kept over two steps. -/
theorem KeepsNormal.trans
    (hFirst : r.KeepsNormal r')
    (hNext : r'.KeepsNormal r'') :
    r.KeepsNormal r'' := by
  intro receipt hStored
  rcases hNext receipt hStored with hBefore | hNormal
  · exact hFirst receipt hBefore
  · exact Or.inr hNormal

end Records

end Interchain

------------------------------------------------------------
-- Receipts of a Step
------------------------------------------------------------

namespace Interchain

namespace Host

open Records

variable {h : Host} {key : ChannelKey} {m : UpgradeMessage}

/- Giving up leaves a normal receipt. -/
theorem keepsNormal_of_abortPlan
    {reason : AbortReason}
    {p : Plan (EventReport ErrorReceipt)}
    (hPlan : abortPlan key reason h = .ok p) :
    (h.records key).KeepsNormal
      ((h.applyAll p.writes).records key) := by
  rcases records_abortPlan hPlan with ⟨_, _, error, _, hRecords⟩
  exact keepsNormal_of_receipt (congrArg receipt? hRecords)

/- Opening leaves none. -/
theorem keepsNormal_of_openPlan
    {p : Plan Event}
    (hPlan : openPlan key h = .ok p) :
    (h.records key).KeepsNormal
      ((h.applyAll p.writes).records key) := by
  rcases records_openPlan hPlan with ⟨_, u, _, hRecords⟩
  exact keepsNormal_of_none (congrArg receipt? hRecords)

/- A confirmation leaves the receipt, or opens. -/
theorem keepsNormal_of_processConfirm
    {m : ConfirmMessage}
    {report : EventReport ConfirmStep}
    {p : Plan (Event × Bool)}
    (hOk : h.processConfirm m = .ok report)
    (hPlan : confirmPlan report.result h = .ok p) :
    (h.records m.key).KeepsNormal
      ((h.applyAll p.writes).records m.key) := by
  rcases records_of_processConfirm hOk hPlan with
    ⟨c, u, _, _, _, hRecords | ⟨_, hRecords⟩⟩ <;>
    exact keepsNormal_of_eq hRecords rfl

/- No step but a cancelled attempt brings a receipt that is
   not that of an error. -/
theorem Takes.keepsNormal
    {events : List Event}
    {after : Host}
    (hTakes : h.Takes m events after)
    (hOther : ∀ cancel, m ≠ .cancel cancel) :
    (h.records m.key).KeepsNormal (after.records m.key) := by
  cases hTakes with
  | init hOk hPlan =>
      rcases records_of_processInit hOk hPlan with
        ⟨c, _, _, hRecords⟩
      exact keepsNormal_of_eq hRecords rfl
  | attempt hStaged hOk hPlan =>
      rcases records_of_processTry hOk hPlan with
        ⟨c, u, upgrade, _, hRecords⟩
      exact keepsNormal_of_eq hRecords rfl
  | ack hOk hPlan =>
      rcases records_of_processAck hOk hPlan with
        ⟨c, stored, upgrade, _, _, hRecords | ⟨_, hRecords⟩⟩ <;>
        exact keepsNormal_of_eq hRecords rfl
  | confirm hOk hPlan =>
      exact keepsNormal_of_processConfirm hOk hPlan
  | confirmOpen hOk hPlan hOpen =>
      exact (keepsNormal_of_processConfirm hOk hPlan).trans
        (keepsNormal_of_openPlan hOpen)
  | reopen hOk hPlan => exact keepsNormal_of_openPlan hPlan
  | cancel => exact (hOther _ rfl).elim
  | timeout hOk hPlan =>
      rcases processTimeout_eq_ok hOk with
        ⟨_, _, _, _, _, hKey⟩
      rcases records_timeoutPlan hPlan with
        ⟨_, error, _, hRecords⟩
      rw [hKey] at hRecords
      exact keepsNormal_of_receipt (congrArg receipt? hRecords)

/- A step that fails for the attempt has stored a proposal at
   most. -/
theorem Ends.keepsNormal
    {error : UpgradeError}
    {events : List Event}
    {before : Host}
    (hEnds : h.Ends m error events before) :
    (h.records m.key).KeepsNormal (before.records m.key) := by
  cases hEnds with
  | attempt => exact KeepsNormal.refl _
  | @staged m error step p hStaged hEnded hPlan =>
      have hRecords := (records_stepPlan hPlan).2
      rw [(key_of_stageAnswer hStaged).1] at hRecords
      exact keepsNormal_of_eq hRecords rfl
  | ack => exact KeepsNormal.refl _
  | confirm => exact KeepsNormal.refl _

/- However another message is answered, no other receipt is
   stored than that of an error. -/
theorem keepsNormal_dispatch
    (hOther : ∀ cancel, m ≠ .cancel cancel) :
    (h.records m.key).KeepsNormal
      ((h.dispatch m).2.records m.key) := by
  have hAnswers := h.answers_dispatch m
  rcases hDispatch : h.dispatch m with ⟨result, after⟩
  rw [hDispatch] at hAnswers
  cases hAnswers with
  | rejected cause => exact KeepsNormal.refl _
  | taken log hTakes => exact hTakes.keepsNormal hOther
  | givenUp hEnds hPlan =>
      exact hEnds.keepsNormal.trans
        (keepsNormal_of_abortPlan hPlan)

/- A refresh leaves the receipt. -/
theorem Looks.keepsNormal
    {after : Host}
    (hLooks : h.Looks key after) :
    (h.records key).KeepsNormal (after.records key) := by
  cases hLooks with
  | still => exact KeepsNormal.refl _
  | @drained c =>
      have hRecords := (h.records_completePlan key c).2
      exact keepsNormal_of_eq hRecords rfl
  | expired hChannel hState hSequence hPlan =>
      exact keepsNormal_of_abortPlan hPlan

end Host

end Interchain

------------------------------------------------------------
-- Receipts of an Action
------------------------------------------------------------

namespace Interchain

namespace Host

open Records

variable {h : Host} {key : ChannelKey}

/- Sending a packet leaves the receipt. -/
theorem keepsNormal_send
    (hash : Hash)
    (packet : Packet) :
    (h.records packet.source).KeepsNormal
      ((h.perform hash (.send packet)).records
        packet.source) := by
  rcases send_cases (s := .start h) hash packet rfl with
    ⟨_, _, hSends⟩ | ⟨_, _, hSame⟩
  · exact keepsNormal_of_eq hSends.after rfl
  · rw [perform, hSame]
    exact .refl _

theorem keepsNormal_resolve
    (hash : Hash)
    (packet : PacketKey) :
    (h.records packet.source).KeepsNormal
      ((h.perform hash (.resolve packet)).records
        packet.source) := by
  rcases looks_resolvePacket (s := .start h) packet rfl with
    ⟨resolved, hResolved, hLooks⟩
  have hRecords :
      resolved.records packet.source =
        (h.apply (.noCommitment packet)).records
          packet.source := by
    rw [hResolved]
    rfl
  rw [records_apply_noCommitment] at hRecords
  exact (keepsNormal_of_eq hRecords rfl).trans
    hLooks.keepsNormal

/- Whatever a chain does, other than cancelling, no other
   receipt is stored than that of an error. -/
theorem keepsNormal_perform
    (hash : Hash)
    {a : Action}
    (hOther : ∀ cancel, a ≠ .dispatch (.cancel cancel)) :
    (h.records key).KeepsNormal
      ((h.perform hash a).records key) := by
  by_cases hAbout : a.channel? = some key
  · cases a with
    | dispatch m =>
        cases hAbout
        apply keepsNormal_dispatch
        rintro cancel rfl
        exact hOther cancel rfl
    | send packet =>
        cases hAbout
        exact keepsNormal_send hash packet
    | resolve packet =>
        cases hAbout
        exact keepsNormal_resolve hash packet
    | refresh other =>
        cases hAbout
        exact (looks_refresh (s := .start h) key rfl).keepsNormal
    | abort other reason =>
        cases hAbout
        exact (Session.carryOut_host (s := .start h)
          (P := fun after =>
            (h.records key).KeepsNormal (after.records key)) rfl
          (.refl _) fun _ hMade =>
            keepsNormal_of_abortPlan hMade).1
    | advance => simp [Action.channel?] at hAbout
  · rw [records_perform_of_ne hash hAbout]
    exact .refl _

/- A cancelled attempt leaves the receipt of the message. -/
theorem receipt_of_dispatch_cancel
    {m : CancelMessage}
    {receipt : ErrorReceipt}
    (hStored :
      (h.dispatch (.cancel m)).2.receipts[key]? =
        some receipt) :
    h.receipts[key]? = some receipt ∨
      m.receipt = receipt ∧
        ∃ report, h.processCancel m = .ok report := by
  by_cases hAbout : m.key = key
  · subst hAbout
    cases hOk : h.processCancel m with
    | ok report =>
        have hRecords := (dispatch_cancel_succeeds hOk).2
        have hReceipt := congrArg receipt? hRecords
        have hSame : some m.receipt = some receipt :=
          hReceipt.symm.trans hStored
        exact Or.inr ⟨Option.some.inj hSame, report, rfl⟩
    | error cause =>
        left
        have hAnswers := h.answers_dispatch (.cancel m)
        rcases hDispatch : h.dispatch (.cancel m) with
          ⟨result, after⟩
        rw [hDispatch] at hAnswers hStored
        cases hAnswers with
        | rejected => exact hStored
        | taken log hTakes =>
            cases hTakes with
            | cancel hTaken => simp [hOk] at hTaken
        | givenUp hEnds => cases hEnds
  · have hRecords :
        (h.perform id (.dispatch (.cancel m))).records key =
          h.records key :=
      records_perform_of_ne id fun hSame =>
        hAbout (Option.some.inj hSame)
    have hReceipt := congrArg receipt? hRecords
    exact Or.inl (hReceipt.symm.trans hStored)

/- A receipt that a chain holds after an action was there, is
   that of an error, or was cancelled with. -/
theorem receipt_cases
    {hash : Hash}
    {a : Action}
    {receipt : ErrorReceipt}
    (hStored :
      (h.perform hash a).receipts[key]? = some receipt) :
    h.receipts[key]? = some receipt ∨
      receipt.IsNormal ∨
      ∃ m report,
        a = .dispatch (.cancel m) ∧
          m.receipt = receipt ∧
          h.processCancel m = .ok report := by
  by_cases hCancels : ∃ m, a = .dispatch (.cancel m)
  · rcases hCancels with ⟨m, rfl⟩
    rcases receipt_of_dispatch_cancel hStored with
      hBefore | ⟨hReceipt, report, hOk⟩
    · exact Or.inl hBefore
    · exact Or.inr (Or.inr ⟨m, report, rfl, hReceipt, hOk⟩)
  · have hKeeps :
        (h.records key).KeepsNormal
          ((h.perform hash a).records key) :=
      keepsNormal_perform hash fun m hSame =>
        hCancels ⟨m, hSame⟩
    rcases hKeeps receipt hStored with hBefore | hNormal
    · exact Or.inl hBefore
    · exact Or.inr (Or.inl hNormal)

end Host

end Interchain

------------------------------------------------------------
-- Grounds for Cancelling
------------------------------------------------------------

namespace Interchain

namespace Host

/- The authority gives up an attempt on its own word, before
   the end is done flushing.  Nothing is asked of the text of
   the receipt. -/
structure Withdraws (h : Host) (m : CancelMessage) : Prop where
  authority : h.params.isAuthority m.signer = true
  attempt :
    ∃ c u,
      h.channels[m.key]? = some c ∧
        h.upgrades[m.key]? = some u ∧
        c.state ≠ .flushComplete ∧
        c.upgradeSequence ≤ m.receipt.sequence

/- A chain takes a proof to show a receipt, over the connection
   of some channel end. -/
def Accepts
    (h : Host)
    (receipt : ErrorReceipt)
    (proof : CommitmentProof) : Prop :=
  ∃ c id connection height,
    h.openConnection c = .ok (id, connection) ∧
      h.verifyReceipt c connection receipt proof height =
        .ok ()

variable {h : Host} {m : CancelMessage}

/- An attempt is cancelled on the word of the authority, or for
   a receipt that its proof is taken to show. -/
theorem withdraws_or_accepts
    {report : EventReport CancelStep}
    (hOk : h.processCancel m = .ok report) :
    h.Withdraws m ∨
      ∃ proof,
        m.receiptProof = some proof ∧
          h.Accepts m.receipt proof := by
  rcases processCancel_eq_ok_iff.mp ⟨report, hOk⟩ with
    ⟨c, u, hChannel, hUpgrade, hLe, ⟨hSigner, hState⟩ | hProven⟩
  · exact Or.inl
      ⟨hSigner, c, u, hChannel, hUpgrade, hState, hLe⟩
  · rcases verifyCancel_eq_ok_iff.mp hProven with
      ⟨id, connection, proof, hConnection, hProof, hVerified⟩
    exact Or.inr
      ⟨proof, hProof, c, id, connection, _, hConnection,
        hVerified⟩

/- What the authority withdraws an attempt with is stored as it
   was given. -/
theorem Withdraws.stores
    (hWithdraws : h.Withdraws m) :
    Succeeds (h.dispatch (.cancel m)).1 ∧
      (h.dispatch (.cancel m)).2.receipts[m.key]? =
        some m.receipt := by
  rcases hWithdraws.attempt with
    ⟨c, u, hChannel, hUpgrade, hState, hLe⟩
  have hCancel :=
    processCancel_eq_ok_iff.mpr
      ⟨c, u, hChannel, hUpgrade, hLe,
        Or.inl ⟨hWithdraws.authority, hState⟩⟩
  rcases hCancel with ⟨report, hOk⟩
  rcases dispatch_cancel_succeeds hOk with
    ⟨hSucceeds, hRecords⟩
  exact ⟨hSucceeds, congrArg Records.receipt? hRecords⟩

end Host

end Interchain

------------------------------------------------------------
-- Receipts of a Run
------------------------------------------------------------

namespace Interchain

namespace Link

/- In the course of a run, the authority of a chain withdrew an
   attempt with a receipt. -/
def Given (trace : List Chains) (receipt : ErrorReceipt) : Prop :=
  ∃ newer before older side m,
    trace =
        newer ++
          before.replace side
              ((before.host side).dispatch (.cancel m)).2 ::
            before :: older ∧
      (before.host side).Withdraws m ∧
      m.receipt = receipt

variable {hash : Hash} {link : Link hash}
variable {allowed : Action → Prop}
variable {now : Chains} {past trace : List Chains}
variable {receipt : ErrorReceipt}

theorem Given.cons
    (hGiven : Given trace receipt)
    (c : Chains) :
    Given (c :: trace) receipt := by
  rcases hGiven with ⟨newer, before, older, side, m, rfl, hRest⟩
  exact ⟨c :: newer, before, older, side, m, rfl, hRest⟩

/- What a chain takes to be proven was stored on the other one
   in the course of the run, if that one tells the proof and
   the receipt apart. -/
theorem Run.exists_stored_of_accepts
    (hRun : link.Run allowed trace)
    {c : Chains}
    (hc : c ∈ trace)
    {side : Side}
    {proof : CommitmentProof}
    (hProof : TellsApart hash trace side.other proof.bytes)
    (hReceipt :
      TellsApart hash trace side.other
        (utf8 receipt.committed))
    (hAccepts : (c.host side).Accepts receipt proof) :
    ∃ d ∈ trace, ∃ key : ChannelKey,
      (d.host side.other).receipts[key]? = some receipt := by
  rcases hAccepts with
    ⟨e, id, connection, height, hConnection, hOk⟩
  rcases Host.openConnection_eq_ok.mp hConnection with
    ⟨_, hFound, hOpen⟩
  rcases
      (hRun.follows c hc side).exists_remembers_of_verifyReceipt
        hOk with
    ⟨seen, ⟨d, hd, rfl⟩, hRemembers⟩
  have hPrefix := hRun.storePrefix_eq hc hd hFound hOpen
  exact ⟨d, hd,
    hRemembers.exists_receipt_of_verifyReceipt hPrefix
      (hProof d hd) (hReceipt d hd) hOk⟩

/- Every receipt that is stored in the course of a run is that
   of an error, or the authority of a chain gave it. -/
theorem Run.isNormal_or_given
    (hRun : link.Run allowed trace)
    (hFree : CollisionFree hash allowed trace)
    (hStart :
      ∀ (side : Side) (key : ChannelKey) receipt,
        (link.start.host side).receipts[key]? = some receipt →
          receipt.IsNormal) :
    ∀ c ∈ trace, ∀ (side : Side) (key : ChannelKey) receipt,
      (c.host side).receipts[key]? = some receipt →
        receipt.IsNormal ∨ Given trace receipt := by
  induction hRun with
  | start =>
      intro c hc side key receipt hStored
      rw [List.mem_singleton.mp hc] at hStored
      exact Or.inl (hStart side key receipt hStored)
  | @act now past moved action hRun hAllowed ih =>
      have hBefore
          {c : Chains}
          (hc : c ∈ now :: past)
          {side : Side}
          {key : ChannelKey}
          {receipt : ErrorReceipt}
          (hStored :
            (c.host side).receipts[key]? = some receipt) :=
        (ih hFree.of_cons c hc side key receipt hStored).imp_right
          (·.cons
            (now.replace moved
              ((now.host moved).perform hash action)))
      intro c hc side key receipt hStored
      rcases List.mem_cons.mp hc with rfl | hPast
      · rcases Side.eq_or_eq_other side moved with rfl | rfl
        · rw [Chains.host_replace_self] at hStored
          rcases Host.receipt_cases hStored with
            hKept | hNormal | ⟨m, report, rfl, rfl, hOk⟩
          · exact hBefore List.mem_cons_self hKept
          · exact Or.inl hNormal
          · rcases Host.withdraws_or_accepts hOk with
              hWithdraws | ⟨proof, hProof, hAccepts⟩
            · exact Or.inr
                ⟨[], now, past, side, m, rfl, hWithdraws, rfl⟩
            · have hApart :=
                hFree.of_cons (.cancel m) hAllowed now
                  List.mem_cons_self side
              rcases
                  hRun.exists_stored_of_accepts
                    List.mem_cons_self
                    (hApart _ (Host.mem_weighed_cancel hProof))
                    (hApart _ List.mem_cons_self) hAccepts with
                ⟨d, hd, source, hSource⟩
              exact hBefore hd hSource
        · rw [Chains.host_replace_other] at hStored
          exact hBefore List.mem_cons_self hStored
      · exact hBefore hPast hStored
  | @learn now past moved client seen hRun hSeen ih =>
      intro c hc side key receipt hStored
      have hBefore :
          receipt.IsNormal ∨ Given (now :: past) receipt := by
        rcases List.mem_cons.mp hc with rfl | hPast
        · apply ih hFree.of_cons now List.mem_cons_self side key
            receipt
          rcases Side.eq_or_eq_other side moved with rfl | rfl
          · rw [Chains.host_replace_self] at hStored
            exact hStored
          · rw [Chains.host_replace_other] at hStored
            exact hStored
        · exact ih hFree.of_cons c hPast side key receipt hStored
      exact hBefore.imp_right (·.cons _)

/-
  Whatever the chains of a run do, and whatever messages they
  are given, the receipts that are stored, or taken to be
  proven, are those of errors, unless the authority of a chain
  withdrew an attempt with them.  With any receipt that is not
  of an earlier attempt it can: the text is stored as it is.
  Of the digest only those byte strings are asked not to
  collide that the chains compared in the run, or compare with
  the receipt and its proof.
-/
theorem Run.receipts_of_errors_or_given
    (hRun : link.Run allowed (now :: past))
    (hFree : CollisionFree hash allowed (now :: past))
    (hStart :
      ∀ (side : Side) (key : ChannelKey) receipt,
        (link.start.host side).receipts[key]? = some receipt →
          receipt.IsNormal) :
    (∀ (side : Side) (key : ChannelKey) receipt,
        (now.host side).receipts[key]? = some receipt →
          receipt.IsNormal ∨ Given (now :: past) receipt) ∧
      (∀ side receipt proof,
        TellsApart hash (now :: past) side.other proof.bytes →
        TellsApart hash (now :: past) side.other
          (utf8 receipt.committed) →
        (now.host side).Accepts receipt proof →
          receipt.IsNormal ∨ Given (now :: past) receipt) ∧
      ∀ side m,
        (now.host side).Withdraws m →
          Succeeds ((now.host side).dispatch (.cancel m)).1 ∧
            ((now.host side).dispatch
              (.cancel m)).2.receipts[m.key]? =
                some m.receipt := by
  have hStored := hRun.isNormal_or_given hFree hStart
  refine ⟨hStored now List.mem_cons_self, ?_, ?_⟩
  · intro side receipt proof hProof hReceipt hAccepts
    rcases
        hRun.exists_stored_of_accepts List.mem_cons_self hProof
          hReceipt hAccepts with
      ⟨d, hd, key, hSource⟩
    exact hStored d hd side.other key receipt hSource
  · intro side m hWithdraws
    exact hWithdraws.stores

end Link

end Interchain

------------------------------------------------------------
-- Sample Chains
------------------------------------------------------------

namespace Interchain

namespace Fixture

/- The link starts without receipts. -/
theorem receipts_link
    (side : Side)
    (k : ChannelKey) :
    ((link id).start.host side).receipts[k]? = none := by
  have hNone := receipts_host id side k
  rw [← host_chains] at hNone
  exact hNone

/- The receipt with which B withdraws its first proposal. -/
def forgedReceipt : ErrorReceipt :=
  ⟨Sequence.zero.next, "withdrawn"⟩

/- No error writes it. -/
theorem not_isNormal_forgedReceipt :
    ¬ forgedReceipt.IsNormal := by
  intro hNormal
  have hPrefix := hNormal.start_prefix
  revert hPrefix
  decide

/- B has proposed what it offers, and its authority withdrew
   the proposal. -/
theorem first_attempt_withdrawn :
    ∃ now past,
      (link id).Run Action.IsOrdinary (now :: past) ∧
        (now.host .right).receipts[key .right]? =
          some forgedReceipt := by
  have hStart : Sequence.zero.number ≠ Word.greatest := by decide
  have hLimit : Sequence.zero.next.number ≠ Word.greatest := by
    decide
  have hStands := (offer id).standing_start .right fun _ => hStart
  rcases Link.Offer.proposed hStands hLimit with
    ⟨proposed, hProposed⟩
  have hLe : Sequence.zero.next ≤ forgedReceipt.sequence :=
    le_refl _
  rcases
      hProposed.withdraw (isAuthority_link id) rfl rfl hLe
        hLimit with
    ⟨now, hNow⟩
  have hReceipt := congrArg Records.receipt? hNow.own
  exact ⟨now, _, hNow.run, hReceipt⟩

/- The receipt that B stores then is one that it was given. -/
theorem sample_receipt_given :
    ∃ now past,
      (link id).Run Action.IsOrdinary (now :: past) ∧
        Link.CollisionFree id Action.IsOrdinary (now :: past) ∧
        (∀ (side : Side) (k : ChannelKey) receipt,
          ((link id).start.host side).receipts[k]? =
              some receipt →
            receipt.IsNormal) ∧
        (now.host .right).receipts[key .right]? =
          some forgedReceipt ∧
        Link.Given (now :: past) forgedReceipt := by
  rcases first_attempt_withdrawn with
    ⟨now, past, hRun, hStored⟩
  have hStart :
      ∀ (side : Side) (k : ChannelKey) receipt,
        ((link id).start.host side).receipts[k]? =
            some receipt →
          receipt.IsNormal := by
    intro side k receipt hThere
    rw [receipts_link] at hThere
    cases hThere
  have hFree :
      Link.CollisionFree id Action.IsOrdinary (now :: past) :=
    Link.collisionFree_of_injective Function.injective_id
  have hAuthentic :=
    hRun.receipts_of_errors_or_given hFree hStart
  have hGiven :=
    (hAuthentic.1 .right (key .right) forgedReceipt
      hStored).resolve_left not_isNormal_forgedReceipt
  exact ⟨now, past, hRun, hFree, hStart, hStored, hGiven⟩

/- So a run that begins without upgrades and receipts can lead
   to a receipt that is not of an error. -/
theorem sample_forged_receipt :
    (∀ (side : Side) (k : ChannelKey),
        ((link id).start.host side).upgrades[k]? = none ∧
          ((link id).start.host side).receipts[k]? = none) ∧
      ¬ ∀ trace,
        (link id).Run Action.IsOrdinary trace →
          ∀ c ∈ trace, ∀ (side : Side) (k : ChannelKey) receipt,
            (c.host side).receipts[k]? = some receipt →
              receipt.IsNormal := by
  constructor
  · intro side k
    have hNone := upgrades_host id side k
    rw [← host_chains] at hNone
    exact ⟨hNone, receipts_link side k⟩
  · intro hAll
    rcases first_attempt_withdrawn with
      ⟨now, past, hRun, hStored⟩
    exact not_isNormal_forgedReceipt
      (hAll _ hRun now List.mem_cons_self .right (key .right)
        forgedReceipt hStored)

end Fixture

end Interchain
