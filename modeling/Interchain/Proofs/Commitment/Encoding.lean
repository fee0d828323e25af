import Interchain.Client.LightClient
import Interchain.Proofs.Json.Parsing
import Interchain.Proofs.Json.Record

/-
  The written forms of records and stores lose nothing.

  A record is found again from its JSON value, and the value
  from its text, since every value that is written is plain.

  Main statements:
    * `ChannelEnd.committed_injective`
    * `ErrorReceipt.committed_injective`
    * `Upgrade.fields_eq_of_committed_eq`
    * `CommittedStore.ofProof?_proof`
-/

------------------------------------------------------------
-- Text and Bytes
------------------------------------------------------------

namespace Interchain

/- A text is told by its octets. -/
theorem utf8_injective : Function.Injective utf8 := by
  intro a b h
  have hData : a.toUTF8.data = b.toUTF8.data :=
    Array.toList_inj.mp h
  have hBytes : a.toUTF8 = b.toUTF8 := ByteArray.ext hData
  rw [String.toUTF8_eq_toByteArray,
    String.toUTF8_eq_toByteArray] at hBytes
  exact String.toByteArray_inj.mp hBytes

/- Text is read back from its encoding. -/
theorem Bytes.text?_utf8 (s : String) :
    Bytes.text? (utf8 s) = some s := by
  have hArray : (⟨(utf8 s).toArray⟩ : ByteArray) =
      s.toByteArray := by
    simp [utf8]
  unfold Bytes.text?
  rw [hArray, String.fromUTF8?, dif_pos s.isValidUTF8]
  rfl

end Interchain

------------------------------------------------------------
-- Plain Values
------------------------------------------------------------

namespace Interchain

namespace Json

@[simp] theorem isPlain_ofWord (w : UInt64) :
    isPlain (ofWord w) = true := rfl

/- A list is plain if each of its items is. -/
theorem isPlain_array_map
    {α : Type}
    (write : α → Json)
    (items : List α)
    (h : ∀ a, isPlain (write a) = true) :
    isPlain (.array (items.map write)) = true := by
  rw [isPlain, arePlain_iff]
  intro item hItem
  rcases List.mem_map.mp hItem with ⟨a, _, rfl⟩
  exact h a

@[simp] theorem isPlain_ofBytes (bytes : Bytes) :
    isPlain (ofBytes bytes) = true :=
  isPlain_array_map _ bytes fun _ => rfl

/- A value that may be missing is plain if it is when present. -/
theorem isPlain_ofOption
    {α : Type}
    (write : α → Json)
    (a : Option α)
    (h : ∀ a, isPlain (write a) = true) :
    isPlain (ofOption write a) = true := by
  cases a with
  | none => rfl
  | some a => exact h a

/- Members are plain if each of their values is. -/
theorem arePlainMembers_iff
    (members : List (String × Json)) :
    arePlainMembers members = true ↔
      ∀ member ∈ members, isPlain member.2 = true := by
  induction members with
  | nil => simp [arePlainMembers]
  | cons member rest ih =>
      simp [arePlainMembers, ih]

end Json

theorem ChannelPeer.isPlain_toJson (p : ChannelPeer) :
    p.toJson.isPlain = true := by
  have hChannel :=
    Json.isPlain_ofOption ChannelId.toJson p.channel
      fun _ => rfl
  simp [toJson, Json.isPlain, Json.arePlainMembers,
    PortId.toJson, hChannel]

/- The record of an end is plain. -/
theorem ChannelEnd.isPlain_toJson (c : ChannelEnd) :
    c.toJson.isPlain = true := by
  have hPeer := c.peer.isPlain_toJson
  have hHops :=
    Json.isPlain_array_map ConnectionId.toJson c.hops
      fun _ => rfl
  simp [toJson, Json.isPlain, Json.arePlainMembers,
    ChannelState.toJson, ChannelOrder.toJson,
    ChannelVersion.toJson, Sequence.toJson, hPeer] at hHops ⊢
  exact hHops

theorem ErrorReceipt.isPlain_toJson (r : ErrorReceipt) :
    r.toJson.isPlain = true := by
  simp [toJson, Json.isPlain, Json.arePlainMembers,
    Sequence.toJson]

theorem UpgradeFields.isPlain_toJson (f : UpgradeFields) :
    f.toJson.isPlain = true := by
  have hHops :=
    Json.isPlain_array_map ConnectionId.toJson f.hops
      fun _ => rfl
  simp [toJson, Json.isPlain, Json.arePlainMembers,
    ChannelOrder.toJson, ChannelVersion.toJson] at hHops ⊢
  exact hHops

theorem UpgradeTimeout.isPlain_toJson (t : UpgradeTimeout) :
    t.toJson.isPlain = true := by
  have hTime :=
    Json.isPlain_ofOption (fun i => .text i.zulu)
      t.timestamp.time fun _ => rfl
  simp [toJson, Json.isPlain, Json.arePlainMembers,
    TimeoutHeight.toJson, Height.toJson, Timestamp.toJson,
    hTime]

/- The record of an upgrade is plain. -/
theorem Upgrade.isPlain_toJson (u : Upgrade) :
    u.toJson.isPlain = true := by
  have hFields := u.fields.isPlain_toJson
  have hTimeout :=
    Json.isPlain_ofOption UpgradeTimeout.toJson u.timeout
      UpgradeTimeout.isPlain_toJson
  simp [toJson, Json.isPlain, Json.arePlainMembers,
    Sequence.toJson, hFields, hTimeout]

end Interchain

------------------------------------------------------------
-- Values of Records
------------------------------------------------------------

namespace Interchain

/- A number is told by its record. -/
theorem Json.ofWord_injective :
    Function.Injective Json.ofWord := by
  intro a b h
  rw [Json.ofWord, Json.ofWord, Json.natural.injEq] at h
  exact UInt64.toNat_inj.mp h

theorem Sequence.toJson_injective :
    Function.Injective Sequence.toJson := by
  intro a b h
  have hNumber : a.number = b.number :=
    Json.ofWord_injective h
  cases a
  cases b
  simp_all

theorem ConnectionId.toJson_injective :
    Function.Injective ConnectionId.toJson := by
  rintro ⟨a⟩ ⟨b⟩ h
  simpa [toJson] using h

theorem ChannelVersion.toJson_injective :
    Function.Injective ChannelVersion.toJson := by
  rintro ⟨a⟩ ⟨b⟩ h
  simpa [toJson] using h

theorem ChannelState.toJson_injective :
    Function.Injective ChannelState.toJson := by
  intro a b h
  cases a <;> cases b <;> simp_all [toJson, tag]

theorem ChannelOrder.toJson_injective :
    Function.Injective ChannelOrder.toJson := by
  intro a b h
  cases a <;> cases b <;> simp_all [toJson, tag]

/- A peer is told by its record. -/
theorem ChannelPeer.toJson_injective :
    Function.Injective ChannelPeer.toJson := by
  rintro ⟨⟨a⟩, channel⟩ ⟨⟨b⟩, channel'⟩ h
  rcases channel with _ | ⟨⟨c⟩⟩ <;>
    rcases channel' with _ | ⟨⟨c'⟩⟩ <;>
    simp_all [toJson, PortId.toJson, Json.ofOption,
      ChannelId.toJson]

theorem ConnectionId.map_toJson_injective :
    Function.Injective (List.map ConnectionId.toJson) :=
  List.map_injective_iff.mpr toJson_injective

/- An end is told by its record. -/
theorem ChannelEnd.toJson_injective :
    Function.Injective ChannelEnd.toJson := by
  intro a b h
  simp only [toJson, Json.object.injEq, List.cons.injEq,
    Prod.mk.injEq, Json.array.injEq, true_and, and_true] at h
  rcases h with
    ⟨hState, hOrder, hPeer, hHops, hVersion, hSequence⟩
  have hState := ChannelState.toJson_injective hState
  have hOrder := ChannelOrder.toJson_injective hOrder
  have hPeer := ChannelPeer.toJson_injective hPeer
  have hHops := ConnectionId.map_toJson_injective hHops
  have hVersion := ChannelVersion.toJson_injective hVersion
  have hSequence := Sequence.toJson_injective hSequence
  cases a
  cases b
  simp_all

/- A receipt is told by its record. -/
theorem ErrorReceipt.toJson_injective :
    Function.Injective ErrorReceipt.toJson := by
  intro a b h
  simp only [toJson, Json.object.injEq, List.cons.injEq,
    Prod.mk.injEq, Json.text.injEq, true_and, and_true] at h
  have hSequence := Sequence.toJson_injective h.1
  cases a
  cases b
  simp_all

/- Fields are told by their record. -/
theorem UpgradeFields.toJson_injective :
    Function.Injective UpgradeFields.toJson := by
  intro a b h
  simp only [toJson, Json.object.injEq, List.cons.injEq,
    Prod.mk.injEq, Json.array.injEq, true_and, and_true] at h
  rcases h with ⟨hOrder, hHops, hVersion⟩
  have hOrder := ChannelOrder.toJson_injective hOrder
  have hHops := ConnectionId.map_toJson_injective hHops
  have hVersion := ChannelVersion.toJson_injective hVersion
  cases a
  cases b
  simp_all

end Interchain

------------------------------------------------------------
-- Committed Forms
------------------------------------------------------------

namespace Interchain

/- Ends that are committed alike are the same. -/
theorem ChannelEnd.committed_injective :
    Function.Injective ChannelEnd.committed := by
  intro a b h
  apply toJson_injective
  exact Json.render_injective a.isPlain_toJson
    b.isPlain_toJson h

/- A receipt is told by the text that is committed for it. -/
theorem ErrorReceipt.committed_injective :
    Function.Injective ErrorReceipt.committed := by
  intro a b h
  apply toJson_injective
  exact Json.render_injective a.isPlain_toJson
    b.isPlain_toJson h

/- An end is told by the octets that are committed for it. -/
theorem ChannelEnd.utf8_committed_injective :
    Function.Injective fun c : ChannelEnd => utf8 c.committed :=
  utf8_injective.comp committed_injective

theorem ErrorReceipt.utf8_committed_injective :
    Function.Injective fun r : ErrorReceipt => utf8 r.committed :=
  utf8_injective.comp committed_injective

/- Upgrades that are committed alike propose the same. -/
theorem Upgrade.fields_eq_of_committed_eq
    {a b : Upgrade}
    (h : a.committed = b.committed) :
    a.fields = b.fields := by
  have hJson : a.toJson = b.toJson :=
    Json.render_injective a.isPlain_toJson b.isPlain_toJson h
  simp only [toJson, Json.object.injEq, List.cons.injEq,
    Prod.mk.injEq, true_and, and_true] at hJson
  exact UpgradeFields.toJson_injective hJson.1

end Interchain

------------------------------------------------------------
-- Written Stores
------------------------------------------------------------

namespace Interchain

theorem Json.bytes?_ofBytes (bytes : Bytes) :
    (Json.ofBytes bytes).bytes? = some bytes := by
  refine Json.list?_map ?_ bytes
  intro b
  simp [Json.below?, b.toNat_lt]

namespace CommittedStore

/- The record of a store is plain. -/
theorem isPlain_toJson (store : CommittedStore) :
    store.toJson.isPlain = true := by
  rw [toJson, Json.isPlain, Json.arePlainMembers_iff]
  intro member hMember
  rcases List.mem_map.mp hMember with ⟨entry, _, rfl⟩
  exact Json.isPlain_ofBytes entry.2

/- A store is filled member by member as it is read. -/
theorem ofMembers?_map
    (entries : List (String × Bytes))
    (store : CommittedStore) :
    ofMembers?
        (entries.map fun (key, digest) =>
          (key, .ofBytes digest)) store =
      some (store.insertMany entries) := by
  rw [Std.ExtTreeMap.insertMany_list_eq_foldl]
  induction entries generalizing store with
  | nil => rfl
  | cons entry rest ih =>
      rw [List.map_cons, ofMembers?, Json.bytes?_ofBytes]
      exact ih _

/- A store is the same once it was listed. -/
theorem ofList_toList (store : CommittedStore) :
    Std.ExtTreeMap.ofList store.toList compare = store := by
  apply Std.ExtTreeMap.ext_getElem?
  intro key
  cases hStore : store[key]? with
  | none =>
      apply Std.ExtTreeMap.getElem?_ofList_of_contains_eq_false
      have hKey : key ∉ store := by
        rw [Std.ExtTreeMap.mem_iff_isSome_getElem?, hStore]
        simp
      rw [Std.ExtTreeMap.map_fst_toList_eq_keys]
      simpa using hKey
  | some digest =>
      apply Std.ExtTreeMap.getElem?_ofList_of_mem
      · exact Std.ReflCmp.compare_self
      · exact Std.ExtTreeMap.distinct_keys_toList
      · exact Std.ExtTreeMap.mem_toList_iff_getElem?_eq_some.mpr
          hStore

/- The proof of a store is read as that store. -/
theorem ofProof?_proof (store : CommittedStore) :
    ofProof? store.proof = some store := by
  have hMembers := ofMembers?_map store.toList ∅
  have hStore := ofList_toList store
  rw [Std.ExtTreeMap.ofList_eq_insertMany_empty] at hStore
  rw [hStore] at hMembers
  have hText : Json.ofText? store.toJson.render =
      some store.toJson :=
    Json.ofText?_render store.isPlain_toJson
  simp only [ofProof?, proof, encoding, Bytes.text?_utf8,
    Option.bind_some, Recorded.ofText?, hText]
  exact hMembers

end CommittedStore

end Interchain
