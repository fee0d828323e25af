import Interchain.Proofs.Commitment.Reading
import Interchain.Proofs.Commitment.Verification

/-
  A proof of a chain's store pins every record in it.

  Against the root of the chain, and with the chain's own
  proof, a client accepts a record under a key exactly when
  the chain holds that record there.  A proof of other bytes is
  refused.  The digest may have collisions, but none between
  the byte strings that the chain and the claim are made of.

  Main statements:
    * `Host.verifyChannel_proof_iff`
    * `Host.proofs_pin_records`
-/

------------------------------------------------------------
-- Pinned Records
------------------------------------------------------------

namespace Interchain

namespace Host

variable {hash : Hash} {h : Host} {key : ChannelKey}
variable {state : ConsensusState}

/- What proves an end: the store holds just that one. -/
theorem verifyChannel_proof_iff
    (hState : state.root = h.commitmentRoot hash)
    (hKey : key.isSlashFree)
    {expected : ChannelEnd}
    (hApart : h.TellsApart hash (utf8 expected.committed)) :
    (LightClient.ofStores hash).verifyChannel state
        h.storePrefix (h.commitmentProof hash) key expected =
          .ok () ↔
      h.channels[key]? = some expected := by
  rw [LightClient.verifyChannel, hState,
    verifyMember_iff
      (fun _ => Path.eq_channel_of_display_eq hKey)
      (h.mem_committedRecords_channel key) hApart]
  exact
    Option.mem_map_of_injective
      ChannelEnd.utf8_committed_injective

/- What proves an upgrade, if both were built. -/
theorem verifyUpgrade_proof_iff
    (hState : state.root = h.commitmentRoot hash)
    (hKey : key.isSlashFree)
    (hBuilt : ∀ u ∈ h.upgrades[key]?, u.IsBuilt)
    {expected : Upgrade}
    (hExpected : expected.IsBuilt)
    (hApart : h.TellsApart hash (utf8 expected.committed)) :
    (LightClient.ofStores hash).verifyUpgrade state
        h.storePrefix (h.commitmentProof hash) key expected =
          .ok () ↔
      h.upgrades[key]? = some expected := by
  rw [LightClient.verifyUpgrade, hState,
    verifyMember_iff
      (fun _ => Path.eq_upgrade_of_display_eq hKey)
      (h.mem_committedRecords_upgrade key) hApart,
    Option.map_eq_some_iff]
  constructor
  · rintro ⟨u, hStored, hBytes⟩
    rw [hStored,
      (hBuilt u hStored).eq_of_committed_eq hExpected hBytes]
  · intro hStored
    exact ⟨expected, hStored, rfl⟩

/- What proves a receipt. -/
theorem verifyReceipt_proof_iff
    (hState : state.root = h.commitmentRoot hash)
    (hKey : key.isSlashFree)
    {expected : ErrorReceipt}
    (hApart : h.TellsApart hash (utf8 expected.committed)) :
    (LightClient.ofStores hash).verifyReceipt state
        h.storePrefix (h.commitmentProof hash) key expected =
          .ok () ↔
      h.receipts[key]? = some expected := by
  rw [LightClient.verifyReceipt, hState,
    verifyMember_iff
      (fun _ => Path.eq_errorReceipt_of_display_eq hKey)
      (h.mem_committedRecords_receipt key) hApart]
  exact
    Option.mem_map_of_injective
      ErrorReceipt.utf8_committed_injective

/- What proves that there is no receipt. -/
theorem verifyNoReceipt_proof_iff
    (hState : state.root = h.commitmentRoot hash)
    (hKey : key.isSlashFree) :
    (LightClient.ofStores hash).verifyNoReceipt state
        h.storePrefix (h.commitmentProof hash) key = .ok () ↔
      h.receipts[key]? = none := by
  rw [LightClient.verifyNoReceipt, hState,
    verifyAbsence_iff
      (fun _ => Path.eq_errorReceipt_of_display_eq hKey)
      (h.mem_committedRecords_receipt key),
    Option.map_eq_none_iff]

end Host

end Interchain

------------------------------------------------------------
-- Pinning
------------------------------------------------------------

namespace Interchain

namespace Host

/-
  A client that remembers the root of a chain learns from the
  chain's proof just what the chain stores under a checked key,
  and refuses any other proof.  The keys of the chain's records
  may be anything.
-/
theorem proofs_pin_records
    (hash : Hash)
    (h : Host)
    (state : ConsensusState)
    (hState : state.root = h.commitmentRoot hash)
    (hBuilt :
      ∀ (stored : ChannelKey) (u : Upgrade),
        h.upgrades[stored]? = some u → u.IsBuilt)
    (key : ChannelKey)
    (hPort : PortId.ofText key.port.text = .ok key.port)
    (hChannel :
      ChannelId.ofText key.channel.text = .ok key.channel) :
    (∀ c : ChannelEnd,
      h.TellsApart hash (utf8 c.committed) →
        ((LightClient.ofStores hash).verifyChannel state
            h.storePrefix (h.commitmentProof hash) key c =
              .ok () ↔
          h.channels[key]? = some c)) ∧
    (∀ u : Upgrade, u.IsBuilt →
      h.TellsApart hash (utf8 u.committed) →
        ((LightClient.ofStores hash).verifyUpgrade state
            h.storePrefix (h.commitmentProof hash) key u =
              .ok () ↔
          h.upgrades[key]? = some u)) ∧
    (∀ r : ErrorReceipt,
      h.TellsApart hash (utf8 r.committed) →
        ((LightClient.ofStores hash).verifyReceipt state
            h.storePrefix (h.commitmentProof hash) key r =
              .ok () ↔
          h.receipts[key]? = some r)) ∧
    ((LightClient.ofStores hash).verifyNoReceipt state
        h.storePrefix (h.commitmentProof hash) key = .ok () ↔
      h.receipts[key]? = none) ∧
    (∀ proof : CommitmentProof,
      proof ≠ h.commitmentProof hash →
        h.TellsApart hash proof.bytes →
          (∀ c : ChannelEnd,
            (LightClient.ofStores hash).verifyChannel state
                h.storePrefix proof key c =
              .error .rootMismatch) ∧
          (∀ u : Upgrade,
            (LightClient.ofStores hash).verifyUpgrade state
                h.storePrefix proof key u =
              .error .rootMismatch) ∧
          (∀ r : ErrorReceipt,
            (LightClient.ofStores hash).verifyReceipt state
                h.storePrefix proof key r =
              .error .rootMismatch) ∧
          (LightClient.ofStores hash).verifyNoReceipt state
              h.storePrefix proof key =
            .error .rootMismatch) := by
  have hKey := ChannelKey.isSlashFree_of_ofText hPort hChannel
  refine
    ⟨fun c hApart => verifyChannel_proof_iff hState hKey hApart,
      fun u hExpected hApart =>
        verifyUpgrade_proof_iff hState hKey
          (fun v hStored => hBuilt key v hStored) hExpected
          hApart,
      fun r hApart => verifyReceipt_proof_iff hState hKey hApart,
      verifyNoReceipt_proof_iff hState hKey, ?_⟩
  intro proof hOther hApart
  simp only [LightClient.verifyChannel,
    LightClient.verifyUpgrade, LightClient.verifyReceipt,
    LightClient.verifyNoReceipt, hState]
  have hMember :=
    LightClient.verifyMember_eq_rootMismatch hOther hApart
      h.storePrefix
  have hAbsence :=
    LightClient.verifyAbsence_eq_rootMismatch hOther hApart
      h.storePrefix
  exact
    ⟨fun _ => hMember _ _, fun _ => hMember _ _,
      fun _ => hMember _ _, hAbsence _⟩

end Host

namespace Fixture

/- The channel whose records are pinned in the samples. -/
def pinnedKey : ChannelKey := ⟨.transfer, channelA⟩

/- A chain that stores an upgrade and nothing else. -/
def pinned : Host :=
  (Host.create ∅ ⟨0, 5⟩ .unset).apply
    (.upgrade pinnedKey (datedUpgrade 7))

/- The one upgrade that the sample stores was built. -/
theorem isBuilt_pinned
    (key : ChannelKey)
    (u : Upgrade)
    (hUpgrade : pinned.upgrades[key]? = some u) :
    u.IsBuilt := by
  simp only [pinned, Host.apply, Host.create,
    Std.ExtTreeMap.getElem?_insert] at hUpgrade
  split at hUpgrade
  case isTrue =>
    cases hUpgrade
    exact isBuilt_datedUpgrade 7
  case isFalse => simp at hUpgrade

/- SHA-256 tells apart what the chain is asked about. -/
theorem tellsApart_pinned :
    proof ≠ pinned.commitmentProof sha256 ∧
      pinned.TellsApart sha256
        (utf8 (datedUpgrade 7).committed) ∧
      pinned.TellsApart sha256
        (utf8 (datedUpgrade 8).committed) ∧
      pinned.TellsApart sha256 proof.bytes := by
  decide +kernel

/- Its proof shows the upgrade that is stored, and no other;
   and that there is no receipt. -/
theorem sample_proofs_pin_records :
    (LightClient.ofStores sha256).verifyUpgrade
        (pinned.snapshot sha256) pinned.storePrefix
        (pinned.commitmentProof sha256) pinnedKey
        (datedUpgrade 7) = .ok () ∧
      (LightClient.ofStores sha256).verifyUpgrade
          (pinned.snapshot sha256) pinned.storePrefix
          (pinned.commitmentProof sha256) pinnedKey
          (datedUpgrade 8) ≠ .ok () ∧
      (LightClient.ofStores sha256).verifyNoReceipt
          (pinned.snapshot sha256) pinned.storePrefix
          (pinned.commitmentProof sha256) pinnedKey =
        .ok () ∧
      (LightClient.ofStores sha256).verifyNoReceipt
          (pinned.snapshot sha256) pinned.storePrefix proof
          pinnedKey =
        .error .rootMismatch := by
  rcases Host.proofs_pin_records sha256 pinned
      (pinned.snapshot sha256) rfl isBuilt_pinned pinnedKey
      (by decide +kernel) (by decide +kernel) with
    ⟨-, hUpgrade, -, hNoReceipt, hRefused⟩
  rcases tellsApart_pinned with
    ⟨hForged, hStored, hOther, hProof⟩
  have hHeld :
      pinned.upgrades[pinnedKey]? = some (datedUpgrade 7) := by
    simp [pinned, Host.apply]
  refine
    ⟨(hUpgrade _ (isBuilt_datedUpgrade 7) hStored).mpr hHeld,
      ?_, hNoReceipt.mpr (by decide),
      (hRefused _ hForged hProof).2.2.2⟩
  intro hOk
  have hFound :=
    (hUpgrade _ (isBuilt_datedUpgrade 8) hOther).mp hOk
  rw [hHeld] at hFound
  revert hFound
  decide

end Fixture

end Interchain
