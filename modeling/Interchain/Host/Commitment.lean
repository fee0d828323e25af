import Interchain.Host.State

/-
  What a chain commits to.

  The committed store holds the digests of channel ends,
  upgrades, error receipts and packet commitments, each under
  the path of the record behind the prefix of the chain.

  Main declarations:
    * `Host.committedStore`
    * `Host.commitmentRoot`
    * `Host.commitmentProof`
    * `Host.updateClient`
-/

------------------------------------------------------------
-- Committed Store
------------------------------------------------------------

namespace Interchain

namespace Host

/- The paths of the records, and the bytes under them. -/
def committedRecords (h : Host) : List (Path × Bytes) :=
  (h.channels.toList.map fun (key, c) =>
    (.channel key, utf8 c.committed)) ++
  (h.upgrades.toList.map fun (key, u) =>
    (.upgrade key, utf8 u.committed)) ++
  (h.receipts.toList.map fun (key, r) =>
    (.errorReceipt key, utf8 r.committed)) ++
  (h.commitments.toList.map fun (key, c) =>
    (.packet key.source key.sequence, c.bytes))

/- The digests of the records, by key. -/
def committedStore (hash : Hash) (h : Host) : CommittedStore :=
  h.committedRecords.foldl
    (fun store (path, bytes) =>
      store.insert (h.storePrefix.apply path.display)
        (hash bytes))
    ∅

/- The root that proofs of the chain are checked against. -/
def commitmentRoot (hash : Hash) (h : Host) : CommitmentRoot :=
  (h.committedStore hash).root hash

/- The proof of the chain's store as it is now. -/
def commitmentProof (hash : Hash) (h : Host) : CommitmentProof :=
  (h.committedStore hash).proof

end Host

end Interchain

------------------------------------------------------------
-- Client Updates
------------------------------------------------------------

namespace Interchain

namespace Host

/- What a client that follows the chain remembers of it. -/
def snapshot (hash : Hash) (h : Host) : ConsensusState :=
  ⟨h.commitmentRoot hash, h.timestamp⟩

/- Have a client remember a state at a height. -/
def remember
    (h : Host)
    (client : ClientId)
    (height : Height)
    (state : ConsensusState) :
    Host :=
  { h with consensusStates :=
      h.consensusStates.insert ⟨client, height⟩ state }

/- Have a client remember the other chain as it is now. -/
def updateClient
    (hash : Hash)
    (h : Host)
    (client : ClientId)
    (other : Host) :
    Host :=
  h.remember client other.height (other.snapshot hash)

end Host

end Interchain
