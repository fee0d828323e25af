import Interchain.Host.Commitment
import Interchain.Proofs.Commitment.Location

/-
  Looking a record up in the committed store.

  The store holds, under the path of a record, the digest of
  that record and of no other.

  Main statements:
    * `Host.committedStore_channel`
    * `Host.committedStore_upgrade`
    * `Host.committedStore_receipt`
-/

------------------------------------------------------------
-- Repeated Insertion
------------------------------------------------------------

namespace Interchain

section InsertAll

variable {α : Type} (name : α → String) (value : α → Bytes)

/- Whatever is found was inserted, or there before. -/
theorem mem_of_getElem?_foldl_insert
    {records : List α}
    {store : CommittedStore}
    {key : String}
    {digest : Bytes}
    (h :
      (records.foldl
        (fun s r => s.insert (name r) (value r))
        store)[key]? = some digest) :
    (∃ r ∈ records, name r = key ∧ value r = digest) ∨
      store[key]? = some digest := by
  induction records generalizing store with
  | nil => exact Or.inr h
  | cons r rest ih =>
      rcases ih h with ⟨x, hx, hName, hValue⟩ | hStore
      · exact Or.inl
          ⟨x, List.mem_cons_of_mem _ hx, hName, hValue⟩
      · rw [Std.ExtTreeMap.getElem?_insert] at hStore
        split at hStore
        case isTrue hName =>
          have hName : name r = key :=
            Std.LawfulEqCmp.eq_of_compare hName
          exact Or.inl ⟨r, List.mem_cons_self, hName,
            Option.some.inj hStore⟩
        case isFalse => exact Or.inr hStore

/- What was inserted stays, if not as it was. -/
theorem isSome_getElem?_foldl_insert
    {records : List α}
    (store : CommittedStore)
    {key : String}
    (h :
      (∃ r ∈ records, name r = key) ∨ store[key]?.isSome) :
    (records.foldl
      (fun s r => s.insert (name r) (value r))
      store)[key]?.isSome := by
  induction records generalizing store with
  | nil => simpa using h
  | cons r rest ih =>
      apply ih
      rw [Std.ExtTreeMap.getElem?_insert]
      split
      case isTrue => exact Or.inr rfl
      case isFalse hName =>
        rcases h with ⟨x, hx, hKey⟩ | hStore
        · rcases List.mem_cons.mp hx with rfl | hRest
          · rw [hKey] at hName
            exact (hName Std.ReflCmp.compare_self).elim
          · exact Or.inl ⟨x, hRest, hKey⟩
        · exact Or.inr hStore

end InsertAll

end Interchain

------------------------------------------------------------
-- Committed Records
------------------------------------------------------------

namespace Interchain

namespace Host

/- The end that is stored is committed to, and no other. -/
theorem mem_committedRecords_channel
    (h : Host)
    (key : ChannelKey)
    (bytes : Bytes) :
    (Path.channel key, bytes) ∈ h.committedRecords ↔
      (h.channels[key]?.map fun c => utf8 c.committed) =
        some bytes := by
  simp [committedRecords,
    Std.ExtTreeMap.mem_toList_iff_getElem?_eq_some]

theorem mem_committedRecords_upgrade
    (h : Host)
    (key : ChannelKey)
    (bytes : Bytes) :
    (Path.upgrade key, bytes) ∈ h.committedRecords ↔
      (h.upgrades[key]?.map fun u => utf8 u.committed) =
        some bytes := by
  simp [committedRecords,
    Std.ExtTreeMap.mem_toList_iff_getElem?_eq_some]

theorem mem_committedRecords_receipt
    (h : Host)
    (key : ChannelKey)
    (bytes : Bytes) :
    (Path.errorReceipt key, bytes) ∈ h.committedRecords ↔
      (h.receipts[key]?.map fun r => utf8 r.committed) =
        some bytes := by
  simp [committedRecords,
    Std.ExtTreeMap.mem_toList_iff_getElem?_eq_some]

end Host

end Interchain

------------------------------------------------------------
-- Lookups
------------------------------------------------------------

namespace Interchain

namespace Host

variable (hash : Hash)

/- Whatever is found under a path is the digest of a record
   whose path is written alike. -/
theorem exists_of_committedStore
    (h : Host)
    {path : Path}
    {digest : Bytes}
    (hLookup :
      (h.committedStore hash)[
        h.storePrefix.apply path.display]? = some digest) :
    ∃ other bytes,
      (other, bytes) ∈ h.committedRecords ∧
        other.display = path.display ∧
        hash bytes = digest := by
  let name : Path × Bytes → String := fun r =>
    h.storePrefix.apply r.1.display
  let value : Path × Bytes → Bytes := fun r => hash r.2
  rcases mem_of_getElem?_foldl_insert name value hLookup with
    ⟨⟨other, bytes⟩, hMember, hName, hValue⟩ | hEmpty
  · exact ⟨other, bytes, hMember,
      h.storePrefix.apply_injective hName, hValue⟩
  · simp at hEmpty

/- A path that no other path is written like leads to the
   digest of its record. -/
theorem committedStore_path
    (h : Host)
    {path : Path}
    {record : Option Bytes}
    (hPath :
      ∀ other : Path, other.display = path.display →
        other = path)
    (hRecord :
      ∀ bytes, (path, bytes) ∈ h.committedRecords ↔
        record = some bytes) :
    (h.committedStore hash)[
        h.storePrefix.apply path.display]? =
      record.map hash := by
  let name : Path × Bytes → String := fun r =>
    h.storePrefix.apply r.1.display
  let value : Path × Bytes → Bytes := fun r => hash r.2
  have hFound
      {digest : Bytes}
      (hLookup :
        (h.committedStore hash)[
          h.storePrefix.apply path.display]? =
            some digest) :
      record.map hash = some digest := by
    rcases h.exists_of_committedStore hash hLookup with
      ⟨other, bytes, hMember, hDisplay, hValue⟩
    rw [hPath other hDisplay] at hMember
    rw [(hRecord bytes).mp hMember]
    exact congrArg some hValue
  cases hLookup :
      (h.committedStore hash)[
        h.storePrefix.apply path.display]? with
  | some digest => exact (hFound hLookup).symm
  | none =>
      cases record with
      | none => rfl
      | some bytes =>
          have hMember := (hRecord bytes).mpr rfl
          have hSome :=
            isSome_getElem?_foldl_insert name value ∅
              (Or.inl ⟨(path, bytes), hMember, rfl⟩)
          change
            ((h.committedStore hash)[
              h.storePrefix.apply path.display]?).isSome =
                true at hSome
          rw [hLookup] at hSome
          simp at hSome

/- The digest that is found for an end. -/
theorem committedStore_channel
    (h : Host)
    {key : ChannelKey}
    (hKey : key.isSlashFree) :
    (h.committedStore hash)[
        h.storePrefix.apply (Path.channel key).display]? =
      (h.channels[key]?.map fun c => utf8 c.committed).map
        hash :=
  h.committedStore_path hash
    (fun _ => Path.eq_channel_of_display_eq hKey)
    (h.mem_committedRecords_channel key)

theorem committedStore_upgrade
    (h : Host)
    {key : ChannelKey}
    (hKey : key.isSlashFree) :
    (h.committedStore hash)[
        h.storePrefix.apply (Path.upgrade key).display]? =
      (h.upgrades[key]?.map fun u => utf8 u.committed).map
        hash :=
  h.committedStore_path hash
    (fun _ => Path.eq_upgrade_of_display_eq hKey)
    (h.mem_committedRecords_upgrade key)

theorem committedStore_receipt
    (h : Host)
    {key : ChannelKey}
    (hKey : key.isSlashFree) :
    (h.committedStore hash)[
        h.storePrefix.apply
          (Path.errorReceipt key).display]? =
      (h.receipts[key]?.map fun r => utf8 r.committed).map
        hash :=
  h.committedStore_path hash
    (fun _ => Path.eq_errorReceipt_of_display_eq hKey)
    (h.mem_committedRecords_receipt key)

end Host

end Interchain
