import Interchain.Proofs.Commitment.Encoding
import Interchain.Proofs.Commitment.Store
import Interchain.Proofs.Handshake.Result
import Mathlib.Data.Option.Basic

/-
  What digests tell of the store behind them.

  A proof is checked against the digest of a whole store, and a
  record against its own.  The digest may have collisions, but
  none between the byte strings that a chain is made of and
  those that it is compared with.  Then only the chain's own
  proof has its root, and what a client accepts with it is what
  the chain holds.

  Main declarations:
    * `Host.hashed`
    * `Host.TellsApart`

  Main statements:
    * `LightClient.provenStore_eq_rootMismatch`
    * `Host.verifyMember_iff`
    * `Host.eq_some_of_verifyMember`
-/

------------------------------------------------------------
-- Stores behind Roots
------------------------------------------------------------

namespace Interchain

/- A proof is its bytes. -/
theorem CommitmentProof.eq_of_bytes_eq
    {a b : CommitmentProof}
    (h : a.bytes = b.bytes) :
    a = b := by
  cases a
  cases b
  exact congrArg mk h

namespace LightClient

variable {hash : Hash}

/- The written store has its own root, and is read back. -/
theorem provenStore_proof
    (hash : Hash)
    (store : CommittedStore) :
    provenStore hash store.proof (store.root hash) =
      .ok store := by
  unfold provenStore
  rw [CommittedStore.ofProof?_proof]
  exact if_pos rfl

/- Membership by the written store itself is a matter of the
   digest that it holds. -/
theorem verifyMember_proof_iff
    {start : CommitmentPrefix}
    {store : CommittedStore}
    {path : Path}
    {value : Bytes} :
    (ofStores hash).verifyMember start store.proof
        (store.root hash) path value = .ok () ↔
      store[start.apply path.display]? =
        some (hash value) := by
  simp [ofStores, provenStore_proof]

/- So is absence. -/
theorem verifyAbsence_proof_iff
    {start : CommitmentPrefix}
    {store : CommittedStore}
    {path : Path} :
    (ofStores hash).verifyAbsence start store.proof
        (store.root hash) path = .ok () ↔
      store[start.apply path.display]? = none := by
  simp [ofStores, provenStore_proof]

end LightClient

end Interchain

------------------------------------------------------------
-- Digests without Collisions
------------------------------------------------------------

namespace Interchain

namespace Host

/- The byte strings that a chain takes digests of: its written
   store, and its committed records. -/
def hashed (hash : Hash) (h : Host) : List Bytes :=
  (h.commitmentProof hash).bytes ::
    h.committedRecords.map Prod.snd

/- The root of a chain is the digest of its written store. -/
theorem bytes_commitmentRoot (hash : Hash) (h : Host) :
    (h.commitmentRoot hash).bytes =
      hash (h.commitmentProof hash).bytes := by
  rw [commitmentRoot, CommittedStore.root, commitmentProof,
    CommittedStore.proof]

/- Of the byte strings of a chain, none but the given one has
   its digest. -/
def TellsApart
    (hash : Hash)
    (h : Host)
    (bytes : Bytes) : Prop :=
  ∀ held ∈ h.hashed hash,
    hash held = hash bytes → held = bytes

instance (hash : Hash) (h : Host) (bytes : Bytes) :
    Decidable (h.TellsApart hash bytes) :=
  inferInstanceAs
    (Decidable
      (∀ held ∈ h.hashed hash,
        hash held = hash bytes → held = bytes))

variable {hash : Hash} {h : Host} {bytes : Bytes}

/- A digest without any collision tells everything apart. -/
theorem tellsApart_of_injective
    (hHash : Function.Injective hash) :
    h.TellsApart hash bytes :=
  fun _ _ hDigest => hHash hDigest

/- A committed record is told by its digest. -/
theorem TellsApart.eq_of_record
    (hApart : h.TellsApart hash bytes)
    {path : Path}
    {record : Bytes}
    (hRecord : (path, record) ∈ h.committedRecords)
    (hDigest : hash record = hash bytes) :
    record = bytes := by
  have hMember : record ∈ h.committedRecords.map Prod.snd :=
    List.mem_map.mpr ⟨_, hRecord, rfl⟩
  exact hApart _ (List.mem_cons_of_mem _ hMember) hDigest

/- The chain's own proof is told by the root. -/
theorem TellsApart.eq_of_proof
    {proof : CommitmentProof}
    (hApart : h.TellsApart hash proof.bytes)
    (hDigest :
      hash proof.bytes =
        hash (h.commitmentProof hash).bytes) :
    proof = h.commitmentProof hash := by
  have hBytes : (h.commitmentProof hash).bytes = proof.bytes :=
    hApart _ List.mem_cons_self hDigest.symm
  exact CommitmentProof.eq_of_bytes_eq hBytes.symm

end Host

end Interchain

------------------------------------------------------------
-- Other Proofs
------------------------------------------------------------

namespace Interchain

namespace LightClient

variable {hash : Hash} {h : Host} {proof : CommitmentProof}

/- Other bytes than the written store of the chain do not have
   its root. -/
theorem provenStore_eq_rootMismatch
    (hOther : proof ≠ h.commitmentProof hash)
    (hApart : h.TellsApart hash proof.bytes) :
    provenStore hash proof (h.commitmentRoot hash) =
      .error .rootMismatch := by
  apply if_neg
  rw [Host.bytes_commitmentRoot]
  exact fun hRoot => hOther (hApart.eq_of_proof hRoot)

/- So they prove no membership. -/
theorem verifyMember_eq_rootMismatch
    (hOther : proof ≠ h.commitmentProof hash)
    (hApart : h.TellsApart hash proof.bytes)
    (start : CommitmentPrefix)
    (path : Path)
    (value : Bytes) :
    (ofStores hash).verifyMember start proof
        (h.commitmentRoot hash) path value =
      .error .rootMismatch := by
  simp [ofStores, provenStore_eq_rootMismatch hOther hApart]

/- They prove no absence either. -/
theorem verifyAbsence_eq_rootMismatch
    (hOther : proof ≠ h.commitmentProof hash)
    (hApart : h.TellsApart hash proof.bytes)
    (start : CommitmentPrefix)
    (path : Path) :
    (ofStores hash).verifyAbsence start proof
        (h.commitmentRoot hash) path =
      .error .rootMismatch := by
  simp [ofStores, provenStore_eq_rootMismatch hOther hApart]

end LightClient

namespace Host

variable {hash : Hash} {h : Host} {proof : CommitmentProof}

/- A proof of membership that is accepted is the chain's own. -/
theorem eq_commitmentProof_of_verifyMember
    {start : CommitmentPrefix}
    {path : Path}
    {value : Bytes}
    (hApart : h.TellsApart hash proof.bytes)
    (hOk :
      (LightClient.ofStores hash).verifyMember start proof
        (h.commitmentRoot hash) path value = .ok ()) :
    proof = h.commitmentProof hash := by
  by_contra hOther
  rw [LightClient.verifyMember_eq_rootMismatch hOther hApart]
    at hOk
  cases hOk

end Host

end Interchain

------------------------------------------------------------
-- The Chain's Own Proof
------------------------------------------------------------

namespace Interchain

namespace Host

variable {hash : Hash} {h : Host}
variable {path : Path} {record : Option Bytes} {value : Bytes}

/- Under a path that no other path is written like, what the
   client accepts is the record. -/
theorem verifyMember_iff
    (hPath :
      ∀ other : Path, other.display = path.display →
        other = path)
    (hRecord :
      ∀ bytes, (path, bytes) ∈ h.committedRecords ↔
        record = some bytes)
    (hApart : h.TellsApart hash value) :
    (LightClient.ofStores hash).verifyMember h.storePrefix
        (h.commitmentProof hash) (h.commitmentRoot hash) path
        value = .ok () ↔
      record = some value := by
  rw [commitmentProof, commitmentRoot,
    LightClient.verifyMember_proof_iff,
    h.committedStore_path hash hPath hRecord,
    Option.map_eq_some_iff]
  constructor
  · rintro ⟨bytes, hBytes, hDigest⟩
    rw [hBytes, hApart.eq_of_record
      ((hRecord bytes).mpr hBytes) hDigest]
  · intro hValue
    exact ⟨value, hValue, rfl⟩

/- Under such a path, absence is accepted exactly if there is
   no record. -/
theorem verifyAbsence_iff
    (hPath :
      ∀ other : Path, other.display = path.display →
        other = path)
    (hRecord :
      ∀ bytes, (path, bytes) ∈ h.committedRecords ↔
        record = some bytes) :
    (LightClient.ofStores hash).verifyAbsence h.storePrefix
        (h.commitmentProof hash) (h.commitmentRoot hash)
        path = .ok () ↔
      record = none := by
  rw [commitmentProof, commitmentRoot,
    LightClient.verifyAbsence_proof_iff,
    h.committedStore_path hash hPath hRecord,
    Option.map_eq_none_iff]

/- With whatever proof, what the client accepts is the
   record. -/
theorem eq_some_of_verifyMember
    {proof : CommitmentProof}
    (hPath :
      ∀ other : Path, other.display = path.display →
        other = path)
    (hRecord :
      ∀ bytes, (path, bytes) ∈ h.committedRecords ↔
        record = some bytes)
    (hProof : h.TellsApart hash proof.bytes)
    (hValue : h.TellsApart hash value)
    (hOk :
      (LightClient.ofStores hash).verifyMember h.storePrefix
        proof (h.commitmentRoot hash) path value = .ok ()) :
    record = some value := by
  rw [eq_commitmentProof_of_verifyMember hProof hOk] at hOk
  exact (verifyMember_iff hPath hRecord hValue).mp hOk

end Host

end Interchain
