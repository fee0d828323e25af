import Interchain.Host.Session
import Mathlib.Data.Set.Insert
import Mathlib.Order.BooleanAlgebra.Set

/-
  The records of one channel, and what writes do to them.

  A write changes one record of one channel.  Everything else
  of a chain stays as it was: the records of other channels,
  and the chain's block, parameters, clients and connections.

  Main declarations:
    * `Records`
    * `Host.records`
    * `Host.HasSameSetting`

  Main statements:
    * `Host.records_applyAll_of_ne`
    * `Host.hasSameSetting_applyAll`
-/

------------------------------------------------------------
-- Records
------------------------------------------------------------

namespace Interchain

/-
  What a chain holds for one channel: its end, its proposal and
  that of the counterparty, the error receipt, the sequences of
  the packets in flight, and the next sequence to send.
-/
@[ext]
structure Records where
  channel : ChannelEnd
  upgrade? : Option Upgrade
  counterparty? : Option Upgrade
  receipt? : Option ErrorReceipt
  inFlight : Set Sequence
  next? : Option Sequence

/- The records of a channel; a missing end counts as blank. -/
def Host.records (h : Host) (key : ChannelKey) : Records where
  channel := h.channels[key]?.getD .blank
  upgrade? := h.upgrades[key]?
  counterparty? := h.counterpartyUpgrades[key]?
  receipt? := h.receipts[key]?
  inFlight := { s | PacketKey.mk key s ∈ h.commitments }
  next? := h.nextSequences[key]?

namespace Host

variable {h : Host} {key : ChannelKey}

/- The end among the records is the one that is stored. -/
theorem records_channel
    {c : ChannelEnd}
    (hChannel : h.channels[key]? = some c) :
    (h.records key).channel = c := by
  simp [records, hChannel]

/- An end with a history is not the blank one. -/
theorem channels_eq_of_state_ne
    (hState :
      (h.records key).channel.state ≠ .uninitialized) :
    h.channels[key]? = some (h.records key).channel := by
  cases hChannel : h.channels[key]? with
  | none =>
      simp [records, hChannel, ChannelEnd.blank] at hState
  | some c => rw [records_channel hChannel]

/- Nothing is in flight exactly when nothing is listed. -/
theorem hasInFlight_eq_false_iff :
    h.hasInFlight key = false ↔
      (h.records key).inFlight = ∅ := by
  simp only [hasInFlight, inFlight, Bool.not_eq_false',
    List.isEmpty_iff, List.map_eq_nil_iff,
    List.filter_eq_nil_iff, beq_iff_eq, records,
    Set.eq_empty_iff_forall_notMem, Set.mem_ofPred_eq,
    Std.ExtTreeMap.mem_keys]
  constructor
  · intro hKeys s hMember
    exact hKeys _ hMember rfl
  · rintro hEmpty ⟨source, s⟩ hMember rfl
    exact hEmpty s hMember

end Host

end Interchain

------------------------------------------------------------
-- Writes
------------------------------------------------------------

namespace Interchain

namespace Host

variable (h : Host) (key : ChannelKey)

@[simp] theorem records_apply_channel (value : ChannelEnd) :
    (h.apply (.channel key value)).records key =
      { h.records key with channel := value } := by
  simp [apply, records]

@[simp] theorem records_apply_upgrade (value : Upgrade) :
    (h.apply (.upgrade key value)).records key =
      { h.records key with upgrade? := some value } := by
  simp [apply, records]

@[simp] theorem records_apply_noUpgrade :
    (h.apply (.noUpgrade key)).records key =
      { h.records key with upgrade? := none } := by
  simp [apply, records]

@[simp] theorem records_apply_counterpartyUpgrade (value : Upgrade) :
    (h.apply (.counterpartyUpgrade key value)).records key =
      { h.records key with counterparty? := some value } := by
  simp [apply, records]

@[simp] theorem records_apply_noCounterpartyUpgrade :
    (h.apply (.noCounterpartyUpgrade key)).records key =
      { h.records key with counterparty? := none } := by
  simp [apply, records]

@[simp] theorem records_apply_receipt (value : ErrorReceipt) :
    (h.apply (.receipt key value)).records key =
      { h.records key with receipt? := some value } := by
  simp [apply, records]

@[simp] theorem records_apply_noReceipt :
    (h.apply (.noReceipt key)).records key =
      { h.records key with receipt? := none } := by
  simp [apply, records]

@[simp] theorem records_apply_nextSequence (value : Sequence) :
    (h.apply (.nextSequence key value)).records key =
      { h.records key with next? := some value } := by
  simp [apply, records]

/- A commitment that is stored puts its packet in flight. -/
@[simp] theorem records_apply_commitment
    (s : Sequence)
    (value : PacketCommitment) :
    (h.apply (.commitment ⟨key, s⟩ value)).records key =
      { h.records key with
        inFlight := insert s (h.records key).inFlight } := by
  simp only [apply, records, Records.mk.injEq, true_and,
    and_true]
  ext x
  simp [Std.ExtTreeMap.mem_insert, @eq_comm _ s x]

/- A commitment that is deleted takes it out. -/
@[simp] theorem records_apply_noCommitment (s : Sequence) :
    (h.apply (.noCommitment ⟨key, s⟩)).records key =
      { h.records key with
        inFlight := (h.records key).inFlight \ {s} } := by
  simp only [apply, records, Records.mk.injEq, true_and,
    and_true]
  ext x
  simp [Std.ExtTreeMap.mem_erase, @eq_comm _ s x, and_comm]

end Host

end Interchain

------------------------------------------------------------
-- Other Channels
------------------------------------------------------------

namespace Interchain

namespace Host

variable {key : ChannelKey}

/- Packets of different channels are different. -/
theorem packetKey_ne
    {p : PacketKey}
    (hSource : p.source ≠ key)
    (s : Sequence) :
    p ≠ ⟨key, s⟩ := by
  rintro rfl
  exact hSource rfl

/- A write for another channel changes nothing here. -/
theorem records_apply_of_ne
    (h : Host)
    (w : Write)
    (hKey : w.channelKey ≠ key) :
    (h.apply w).records key = h.records key := by
  cases w with
  | commitment p value =>
      simp only [apply, records, Records.mk.injEq, true_and,
        and_true]
      ext s
      simp [Std.ExtTreeMap.mem_insert, packetKey_ne hKey s]
  | noCommitment p =>
      simp only [apply, records, Records.mk.injEq, true_and,
        and_true]
      ext s
      simp [Std.ExtTreeMap.mem_erase, packetKey_ne hKey s]
  | _ =>
      simp only [Write.channelKey] at hKey
      simp [apply, records, Std.ExtTreeMap.getElem?_insert,
        Std.ExtTreeMap.getElem?_erase, hKey]

@[simp] theorem applyAll_nil (h : Host) : h.applyAll [] = h := rfl

@[simp] theorem applyAll_cons
    (h : Host)
    (w : Write)
    (writes : List Write) :
    h.applyAll (w :: writes) = (h.apply w).applyAll writes :=
  rfl

/- Writes for other channels keep the records. -/
theorem records_applyAll_of_ne
    (h : Host)
    {writes : List Write}
    (hKeys : ∀ w ∈ writes, w.channelKey ≠ key) :
    (h.applyAll writes).records key = h.records key := by
  induction writes generalizing h with
  | nil => rfl
  | cons w rest ih =>
      have hFirst := hKeys w List.mem_cons_self
      have hRest : ∀ w ∈ rest, w.channelKey ≠ key :=
        fun x hx => hKeys x (List.mem_cons_of_mem _ hx)
      rw [applyAll_cons, ih _ hRest,
        records_apply_of_ne h w hFirst]

end Host

end Interchain

------------------------------------------------------------
-- Settings
------------------------------------------------------------

namespace Interchain

namespace Host

/- The parts of a chain that no write touches. -/
structure HasSameSetting (h before : Host) : Prop where
  height : h.height = before.height
  timestamp : h.timestamp = before.timestamp
  storePrefix : h.storePrefix = before.storePrefix
  params : h.params = before.params
  clients : h.clients = before.clients
  consensusStates : h.consensusStates = before.consensusStates
  connections : h.connections = before.connections

theorem HasSameSetting.refl (h : Host) : h.HasSameSetting h :=
  ⟨rfl, rfl, rfl, rfl, rfl, rfl, rfl⟩

theorem HasSameSetting.trans
    {a b c : Host}
    (hab : b.HasSameSetting a)
    (hbc : c.HasSameSetting b) :
    c.HasSameSetting a where
  height := hbc.height.trans hab.height
  timestamp := hbc.timestamp.trans hab.timestamp
  storePrefix := hbc.storePrefix.trans hab.storePrefix
  params := hbc.params.trans hab.params
  clients := hbc.clients.trans hab.clients
  consensusStates :=
    hbc.consensusStates.trans hab.consensusStates
  connections := hbc.connections.trans hab.connections

/- A write does not touch the setting. -/
theorem hasSameSetting_apply (h : Host) (w : Write) :
    (h.apply w).HasSameSetting h := by
  cases w <;> exact ⟨rfl, rfl, rfl, rfl, rfl, rfl, rfl⟩

theorem hasSameSetting_applyAll
    (h : Host)
    (writes : List Write) :
    (h.applyAll writes).HasSameSetting h := by
  induction writes generalizing h with
  | nil => exact HasSameSetting.refl h
  | cons w rest ih =>
      exact (h.hasSameSetting_apply w).trans (ih _)

end Host

end Interchain
