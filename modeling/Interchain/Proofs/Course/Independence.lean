import Interchain.Proofs.Course.Receipts
import Interchain.Proofs.Handshake.Locality
import Mathlib.Data.List.Nodup

/-
  Messages for different channels.

  A message reads and writes the records of its own channel
  only.  So messages for different channels do not notice each
  other, and a chain may handle them in any order.

  Main declarations:
    * `Host.Commutes`
    * `Host.dispatchAll`

  Main statements:
    * `Host.dispatch_independent`
    * `Host.dispatchAll_perm`
-/

------------------------------------------------------------
-- Two Messages
------------------------------------------------------------

namespace Interchain

namespace Host

/- Two messages lead to the same chain in either order, and
   each is answered as it would be alone. -/
structure Commutes
    (h : Host)
    (m n : UpgradeMessage) : Prop where
  after :
    ((h.dispatch m).2.dispatch n).2 =
      ((h.dispatch n).2.dispatch m).2
  first : ((h.dispatch n).2.dispatch m).1 = (h.dispatch m).1
  second : ((h.dispatch m).2.dispatch n).1 = (h.dispatch n).1

variable {h : Host} {m n : UpgradeMessage}

/- The first message leaves the same records of its channel
   behind whether or not the other one came before. -/
theorem agreesAt_dispatch_swap
    (hKeys : m.key ≠ n.key) :
    ((h.dispatch m).2.dispatch n).2.AgreesAt m.key
      ((h.dispatch n).2.dispatch m).2 := by
  have hLater :
      ((h.dispatch m).2.dispatch n).2.AgreesAt m.key
        (h.dispatch m).2 :=
    agreesAt_dispatch_of_ne _ hKeys.symm
  have hEarlier : (h.dispatch n).2.AgreesAt m.key h :=
    agreesAt_dispatch_of_ne _ hKeys.symm
  exact hLater.trans hEarlier.dispatch.2.symm

/- Messages for two channels commute. -/
theorem commutes_of_ne
    (hKeys : m.key ≠ n.key) :
    h.Commutes m n where
  after := by
    apply eq_of_agreesAt
    intro key
    by_cases hFirst : m.key = key
    · subst hFirst
      exact agreesAt_dispatch_swap hKeys
    · by_cases hSecond : n.key = key
      · subst hSecond
        exact (agreesAt_dispatch_swap hKeys.symm).symm
      · have hLeft :
            ((h.dispatch m).2.dispatch n).2.AgreesAt key h :=
          (agreesAt_dispatch_of_ne _ hSecond).trans
            (agreesAt_dispatch_of_ne h hFirst)
        have hRight :
            ((h.dispatch n).2.dispatch m).2.AgreesAt key h :=
          (agreesAt_dispatch_of_ne _ hFirst).trans
            (agreesAt_dispatch_of_ne h hSecond)
        exact hLeft.trans hRight.symm
  first := (agreesAt_dispatch_of_ne h hKeys.symm).dispatch.1
  second := (agreesAt_dispatch_of_ne h hKeys).dispatch.1

/-
  Messages for different channels can be handled in either
  order, and a message leaves the setting of the chain and the
  records of every other channel as they were.
-/
theorem dispatch_independent
    (h : Host)
    {m n : UpgradeMessage}
    (hKeys : m.key ≠ n.key) :
    h.Commutes m n ∧
      (h.dispatch m).2.HasSameSetting h ∧
      ∀ key, m.key ≠ key → (h.dispatch m).2.AgreesAt key h :=
  ⟨commutes_of_ne hKeys, h.hasSameSetting_dispatch m,
    fun _ hKey => agreesAt_dispatch_of_ne h hKey⟩

end Host

end Interchain

------------------------------------------------------------
-- Sample Messages
------------------------------------------------------------

namespace Interchain

namespace Fixture

/- A second channel of B. -/
def otherKey : ChannelKey := ⟨.transfer, .numbered 7⟩

/- B with the second channel, which is like the shared one. -/
def twoChannels : Host :=
  (host id .right).apply
    (.channel otherKey ((link id).endAt .right .open .zero))

/- A proposal for a channel of B. -/
def proposeOn (k : ChannelKey) : UpgradeMessage :=
  .init { initMessage with key := k }

/- B can propose on both of its channels. -/
theorem proposes_twoChannels
    {k : ChannelKey}
    (hChannel :
      twoChannels.channels[k]? =
        some ((link id).endAt .right .open .zero)) :
    Succeeds (twoChannels.dispatch (proposeOn k)).1 := by
  have hSetting :
      twoChannels.HasSameSetting (host id .right) :=
    Host.hasSameSetting_apply _ _
  have hSupported :
      twoChannels.checkSupport initMessage.fields = .ok () := by
    rw [hSetting.links.1.checkSupport_eq]
    exact checkSupport_host id .right ⟨"ics20-2"⟩
  have hValid : initMessage.validate = .ok () := by decide
  have hPropose :=
    Host.propose_ok (c := (link id).endAt .right .open .zero) k
      rfl (validate_upgradeFields .right)
      (upgradeFields_ne .right) hSupported none
  exact
    (Host.dispatch_init_succeeds
      (m := { initMessage with key := k }) hValid hChannel
      hPropose).1

/- Proposals for both channels of B are accepted, in either
   order. -/
theorem sample_dispatch_independent :
    Succeeds (twoChannels.dispatch (proposeOn (key .right))).1 ∧
      Succeeds (twoChannels.dispatch (proposeOn otherKey)).1 ∧
      key .right ≠ otherKey ∧
      twoChannels.Commutes (proposeOn (key .right))
        (proposeOn otherKey) ∧
      (twoChannels.dispatch
        (proposeOn (key .right))).2.HasSameSetting twoChannels ∧
      ∀ k, key .right ≠ k →
        (twoChannels.dispatch
          (proposeOn (key .right))).2.AgreesAt k twoChannels := by
  have hKeys : key .right ≠ otherKey := by decide
  refine ⟨proposes_twoChannels ?_, proposes_twoChannels ?_, hKeys,
    Host.dispatch_independent twoChannels
      (m := proposeOn (key .right)) (n := proposeOn otherKey)
      hKeys⟩
  · simp [twoChannels, Host.apply,
      Std.ExtTreeMap.getElem?_insert, hKeys.symm]
    exact (link id).channel .right
  · simp [twoChannels, Host.apply]

end Fixture

end Interchain

------------------------------------------------------------
-- Many Messages
------------------------------------------------------------

namespace Interchain

namespace Host

/- The chain after messages, in their order. -/
def dispatchAll (h : Host) (messages : List UpgradeMessage) : Host :=
  messages.foldl (fun before m => (before.dispatch m).2) h

/- Messages for channels that are all different can be handled
   in any order. -/
theorem dispatchAll_perm
    (h : Host)
    {messages others : List UpgradeMessage}
    (hPerm : messages.Perm others)
    (hKeys : (messages.map UpgradeMessage.key).Nodup) :
    h.dispatchAll messages = h.dispatchAll others := by
  refine hPerm.foldl_eq' ?_ h
  intro m hm n hn before
  by_cases hSame : m.key = n.key
  · rw [List.inj_on_of_nodup_map hKeys hm hn hSame]
  · exact (commutes_of_ne hSame).after

end Host

end Interchain
