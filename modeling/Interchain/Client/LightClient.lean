import Interchain.Channel.End
import Interchain.Client.ConsensusState
import Interchain.Commitment.Path
import Interchain.Commitment.Store
import Interchain.Upgrade.Proposal

/-
  Light clients.

  A light client checks proofs that a value is, or that none
  is, committed at a path of the other chain's store.  The
  records of channels are committed in their compact JSON
  form.

  The client of `LightClient.ofStores` takes the whole written
  store of the other chain for a proof.

  Main declarations:
    * `LightClient`
    * `LightClient.ofStores`
    * `ClientRegistry`
-/

------------------------------------------------------------
-- Committed Records
------------------------------------------------------------

namespace Interchain

/- The committed form of a channel end. -/
def ChannelEnd.committed (c : ChannelEnd) : String :=
  Recorded.written c

/- The committed form of an upgrade. -/
def Upgrade.committed (u : Upgrade) : String :=
  Recorded.written u

/- The committed form of an error receipt. -/
def ErrorReceipt.committed (r : ErrorReceipt) : String :=
  Recorded.written r

end Interchain

------------------------------------------------------------
-- Light Clients
------------------------------------------------------------

namespace Interchain

/- A light client answers whether a proof shows that a path
   holds a value below a root, or that it holds none. -/
structure LightClient where
  kind : ClientKind
  verifyMember :
    CommitmentPrefix → CommitmentProof → CommitmentRoot →
      Path → Bytes → Except ClientError Unit
  verifyAbsence :
    CommitmentPrefix → CommitmentProof → CommitmentRoot →
      Path → Except ClientError Unit

namespace LightClient

/- A channel end is committed under a key. -/
def verifyChannel
    (client : LightClient)
    (state : ConsensusState)
    (start : CommitmentPrefix)
    (proof : CommitmentProof)
    (key : ChannelKey)
    (expected : ChannelEnd) :
    Except ClientError Unit :=
  client.verifyMember start proof state.root (.channel key)
    (utf8 expected.committed)

/- An upgrade is committed under a key. -/
def verifyUpgrade
    (client : LightClient)
    (state : ConsensusState)
    (start : CommitmentPrefix)
    (proof : CommitmentProof)
    (key : ChannelKey)
    (expected : Upgrade) :
    Except ClientError Unit :=
  client.verifyMember start proof state.root (.upgrade key)
    (utf8 expected.committed)

/- An error receipt is committed under a key. -/
def verifyReceipt
    (client : LightClient)
    (state : ConsensusState)
    (start : CommitmentPrefix)
    (proof : CommitmentProof)
    (key : ChannelKey)
    (expected : ErrorReceipt) :
    Except ClientError Unit :=
  client.verifyMember start proof state.root
    (.errorReceipt key) (utf8 expected.committed)

/- No error receipt is committed under a key. -/
def verifyNoReceipt
    (client : LightClient)
    (state : ConsensusState)
    (start : CommitmentPrefix)
    (proof : CommitmentProof)
    (key : ChannelKey) :
    Except ClientError Unit :=
  client.verifyAbsence start proof state.root
    (.errorReceipt key)

end LightClient

end Interchain

------------------------------------------------------------
-- Store Proofs
------------------------------------------------------------

namespace Interchain

namespace LightClient

/- The store that a proof writes out, if it has the root. -/
def provenStore
    (hash : Hash)
    (proof : CommitmentProof)
    (root : CommitmentRoot) :
    Except ClientError CommittedStore :=
  if hash proof.bytes = root.bytes then
    match CommittedStore.ofProof? proof with
    | some store => .ok store
    | none => .error .proofEncoding
  else
    .error .rootMismatch

/- The client of chains whose proofs are their stores. -/
def ofStores (hash : Hash) : LightClient where
  kind := .mock
  verifyMember start proof root path value := do
    let store ← provenStore hash proof root
    let key := start.apply path.display
    if store[key]? = some (hash value) then .ok ()
    else .error (.notMember key)
  verifyAbsence start proof root path := do
    let store ← provenStore hash proof root
    let key := start.apply path.display
    if store[key]?.isNone then .ok ()
    else .error (.member key)

end LightClient

end Interchain

------------------------------------------------------------
-- Registries
------------------------------------------------------------

namespace Interchain

/- The light clients that a chain has, by kind. -/
abbrev ClientRegistry := Std.ExtTreeMap ClientKind LightClient

namespace ClientRegistry

/- The client takes the place of any other of its kind. -/
def register
    (registry : ClientRegistry)
    (client : LightClient) :
    ClientRegistry :=
  registry.insert client.kind client

/- The light client of a kind. -/
def find
    (registry : ClientRegistry)
    (kind : ClientKind) :
    Except ClientError LightClient :=
  match registry[kind]? with
  | some client => .ok client
  | none => .error (.noImplementation kind)

/- The listing of the kinds. -/
def inspect (registry : ClientRegistry) : String :=
  Text.listing (registry.keys.map ClientKind.tag)

end ClientRegistry

end Interchain
