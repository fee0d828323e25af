import Interchain.Commitment.Material
import Interchain.Digest
import Interchain.Json.Recorded
import Std.Data.ExtTreeMap

/-
  The committed part of a chain's store.

  Every key maps to the digest of the value written under it.
  The store is written as a JSON object in the order of its
  keys; that text is a proof of everything in the store, and
  its digest is the root.

  Main declarations:
    * `CommittedStore`
    * `CommittedStore.encoding`
    * `CommittedStore.root`
    * `CommittedStore.ofProof?`
-/

------------------------------------------------------------
-- Stores
------------------------------------------------------------

namespace Interchain

/- What a chain commits to: each key with the digest of its
   value. -/
abbrev CommittedStore := Std.ExtTreeMap String Bytes

namespace CommittedStore

/- The record of a store, with its keys in order. -/
def toJson (store : CommittedStore) : Json :=
  .object
    (store.toList.map fun (key, digest) =>
      (key, .ofBytes digest))

/- The written store, in bytes. -/
def encoding (store : CommittedStore) : Bytes :=
  utf8 store.toJson.render

/- The root that a proof of the store is checked against. -/
def root
    (hash : Hash)
    (store : CommittedStore) :
    CommitmentRoot :=
  ⟨hash store.encoding⟩

/- The proof of the store as a whole. -/
def proof (store : CommittedStore) : CommitmentProof :=
  ⟨store.encoding⟩

end CommittedStore

end Interchain

------------------------------------------------------------
-- Reading Proofs
------------------------------------------------------------

namespace Interchain

namespace CommittedStore

/- Of two members with one key the later counts. -/
def ofMembers? :
    List (String × Json) → CommittedStore →
      Option CommittedStore
  | [], store => some store
  | (key, value) :: rest, store =>
      match value.bytes? with
      | some digest => ofMembers? rest (store.insert key digest)
      | none => none

/- The store that a record describes. -/
def ofJson? : Json → Option CommittedStore
  | .object members => ofMembers? members ∅
  | _ => none

instance : Recorded CommittedStore := ⟨toJson, ofJson?⟩

/- The store that a proof writes out. -/
def ofProof? (proof : CommitmentProof) : Option CommittedStore :=
  proof.bytes.text?.bind Recorded.ofText?

end CommittedStore

end Interchain
