import Interchain.Proofs.Host.Records

/-
  Chains that hold the same for one channel.

  Two chains agree at a channel if they hold the same records
  for it, in the same setting.  Writes on both keep them in
  agreement, and writes for other channels are not noticed.
  Chains that agree at every channel are the same chain.

  Main declarations:
    * `Host.AgreesAt`

  Main statements:
    * `Host.AgreesAt.apply`
    * `Host.agreesAt_applyAll_of_ne`
    * `Host.eq_of_agreesAt`
-/

------------------------------------------------------------
-- Agreement at a Channel
------------------------------------------------------------

namespace Interchain

namespace Host

/- The same records of one channel, in the same setting. -/
structure AgreesAt
    (key : ChannelKey)
    (g h : Host) : Prop where
  setting : g.HasSameSetting h
  channel : g.channels[key]? = h.channels[key]?
  upgrade : g.upgrades[key]? = h.upgrades[key]?
  counterpartyUpgrade :
    g.counterpartyUpgrades[key]? = h.counterpartyUpgrades[key]?
  receipt : g.receipts[key]? = h.receipts[key]?
  nextSequence : g.nextSequences[key]? = h.nextSequences[key]?
  commitment :
    ∀ s,
      g.commitments[PacketKey.mk key s]? =
        h.commitments[PacketKey.mk key s]?

/- The same setting is the same the other way round. -/
theorem HasSameSetting.symm
    {g h : Host}
    (hSame : g.HasSameSetting h) :
    h.HasSameSetting g :=
  ⟨hSame.height.symm, hSame.timestamp.symm,
    hSame.storePrefix.symm, hSame.params.symm,
    hSame.clients.symm, hSame.consensusStates.symm,
    hSame.connections.symm⟩

namespace AgreesAt

variable {key : ChannelKey} {f g h : Host}

theorem refl (key : ChannelKey) (h : Host) : h.AgreesAt key h :=
  ⟨.refl h, rfl, rfl, rfl, rfl, rfl, fun _ => rfl⟩

theorem symm (hAgrees : g.AgreesAt key h) : h.AgreesAt key g :=
  ⟨hAgrees.setting.symm, hAgrees.channel.symm,
    hAgrees.upgrade.symm, hAgrees.counterpartyUpgrade.symm,
    hAgrees.receipt.symm, hAgrees.nextSequence.symm,
    fun s => (hAgrees.commitment s).symm⟩

theorem trans
    (hFirst : f.AgreesAt key g)
    (hSecond : g.AgreesAt key h) :
    f.AgreesAt key h where
  setting := hSecond.setting.trans hFirst.setting
  channel := hFirst.channel.trans hSecond.channel
  upgrade := hFirst.upgrade.trans hSecond.upgrade
  counterpartyUpgrade :=
    hFirst.counterpartyUpgrade.trans
      hSecond.counterpartyUpgrade
  receipt := hFirst.receipt.trans hSecond.receipt
  nextSequence :=
    hFirst.nextSequence.trans hSecond.nextSequence
  commitment s :=
    (hFirst.commitment s).trans (hSecond.commitment s)

/- The records are then the same, and so is the answer whether
   packets are in flight. -/
theorem records
    (hAgrees : g.AgreesAt key h) :
    g.records key = h.records key := by
  have hMem (s : Sequence) :
      PacketKey.mk key s ∈ g.commitments ↔
        PacketKey.mk key s ∈ h.commitments := by
    simp only [Std.ExtTreeMap.mem_iff_isSome_getElem?,
      hAgrees.commitment s]
  simp only [Host.records, hAgrees.channel, hAgrees.upgrade,
    hAgrees.counterpartyUpgrade, hAgrees.receipt,
    hAgrees.nextSequence, hMem]

/- Chains that agree at a channel have packets in flight alike. -/
theorem hasInFlight
    (hAgrees : g.AgreesAt key h) :
    g.hasInFlight key = h.hasInFlight key := by
  have hIff :
      g.hasInFlight key = false ↔ h.hasInFlight key = false := by
    rw [hasInFlight_eq_false_iff, hasInFlight_eq_false_iff,
      hAgrees.records]
  cases hFlight : h.hasInFlight key with
  | false => exact hIff.mpr hFlight
  | true =>
      rw [hFlight] at hIff
      simpa using hIff

end AgreesAt

end Host

end Interchain

------------------------------------------------------------
-- Writes
------------------------------------------------------------

namespace Interchain

namespace Host

variable {key : ChannelKey} {g h : Host}

/- A write does the same to chains that agree. -/
theorem AgreesAt.apply
    (hAgrees : g.AgreesAt key h)
    (w : Write) :
    (g.apply w).AgreesAt key (h.apply w) := by
  have hSetting : (g.apply w).HasSameSetting (h.apply w) :=
    ((h.hasSameSetting_apply w).symm.trans
      hAgrees.setting).trans (g.hasSameSetting_apply w)
  have hCommitment := hAgrees.commitment
  cases w <;>
    constructor <;>
    simp [Host.apply, Std.ExtTreeMap.getElem?_insert,
      Std.ExtTreeMap.getElem?_erase, hAgrees.channel,
      hAgrees.upgrade, hAgrees.counterpartyUpgrade,
      hAgrees.receipt, hAgrees.nextSequence, hCommitment]
  all_goals exact hSetting

/- A write for another channel is not noticed. -/
theorem agreesAt_apply_of_ne
    (h : Host)
    {w : Write}
    (hKey : w.channelKey ≠ key) :
    (h.apply w).AgreesAt key h := by
  have hSetting := h.hasSameSetting_apply w
  cases w with
  | commitment p value =>
      refine ⟨hSetting, rfl, rfl, rfl, rfl, rfl, fun s => ?_⟩
      simp [Host.apply, Std.ExtTreeMap.getElem?_insert,
        packetKey_ne hKey s]
  | noCommitment p =>
      refine ⟨hSetting, rfl, rfl, rfl, rfl, rfl, fun s => ?_⟩
      simp [Host.apply, Std.ExtTreeMap.getElem?_erase,
        packetKey_ne hKey s]
  | _ =>
      simp only [Write.channelKey] at hKey
      constructor <;>
        simp [Host.apply, Std.ExtTreeMap.getElem?_insert,
          Std.ExtTreeMap.getElem?_erase, hKey]
      all_goals exact hSetting

/- Writes for other channels keep what is at a channel. -/
theorem agreesAt_applyAll_of_ne
    (h : Host)
    {writes : List Write}
    (hKeys : ∀ w ∈ writes, w.channelKey ≠ key) :
    (h.applyAll writes).AgreesAt key h := by
  induction writes generalizing h with
  | nil => exact .refl key h
  | cons w rest ih =>
      have hFirst : (h.apply w).AgreesAt key h :=
        h.agreesAt_apply_of_ne (hKeys w List.mem_cons_self)
      have hRest :
          ((h.apply w).applyAll rest).AgreesAt key (h.apply w) :=
        ih _ fun x hx => hKeys x (List.mem_cons_of_mem _ hx)
      exact hRest.trans hFirst

end Host

end Interchain

------------------------------------------------------------
-- Agreement Everywhere
------------------------------------------------------------

namespace Interchain

namespace Host

/- A chain has nothing but its setting and the records of its
   channels. -/
theorem eq_of_agreesAt
    {g h : Host}
    (hAgrees : ∀ key, g.AgreesAt key h) :
    g = h := by
  have hSetting := (hAgrees ⟨.transfer, .numbered 0⟩).setting
  have hChannels : g.channels = h.channels :=
    Std.ExtTreeMap.ext_getElem? fun {key} =>
      (hAgrees key).channel
  have hUpgrades : g.upgrades = h.upgrades :=
    Std.ExtTreeMap.ext_getElem? fun {key} =>
      (hAgrees key).upgrade
  have hCounterparties :
      g.counterpartyUpgrades = h.counterpartyUpgrades :=
    Std.ExtTreeMap.ext_getElem? fun {key} =>
      (hAgrees key).counterpartyUpgrade
  have hReceipts : g.receipts = h.receipts :=
    Std.ExtTreeMap.ext_getElem? fun {key} =>
      (hAgrees key).receipt
  have hSequences : g.nextSequences = h.nextSequences :=
    Std.ExtTreeMap.ext_getElem? fun {key} =>
      (hAgrees key).nextSequence
  have hCommitments : g.commitments = h.commitments :=
    Std.ExtTreeMap.ext_getElem? fun {packet} =>
      (hAgrees packet.source).commitment packet.sequence
  rcases g with ⟨⟩
  rcases h with ⟨⟩
  rcases hSetting with ⟨⟩
  simp_all

end Host

end Interchain
