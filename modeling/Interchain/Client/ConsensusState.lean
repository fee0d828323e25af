import Interchain.Client.Error
import Interchain.Commitment.Material
import Interchain.Timestamp

/-
  What a light client remembers of the other chain at a height.

  Main declarations:
    * `ConsensusState`
    * `ConsensusState.blockTime`
-/

------------------------------------------------------------
-- Consensus States
------------------------------------------------------------

namespace Interchain

/- What a client remembers of the other chain at a height: the
   root of its store, and its time. -/
structure ConsensusState where
  root : CommitmentRoot
  timestamp : Timestamp
  deriving DecidableEq

namespace ConsensusState

/- The time of the block, which must be set. -/
def blockTime
    (s : ConsensusState) :
    Except ClientError Timestamp :=
  if s.timestamp.isSet then .ok s.timestamp
  else .error .noTimestamp

/- The record of a consensus state. -/
def toJson (s : ConsensusState) : Json :=
  .object
    [ ("root", s.root.toJson),
      ("timestamp", s.timestamp.toJson) ]

/- The consensus state that a record describes. -/
def ofJson? (value : Json) : Option ConsensusState := do
  match ← value.slots? .lenient ["root", "timestamp"] with
  | [root, timestamp] =>
      let root ← Json.required? CommitmentRoot.ofJson? root
      let timestamp ← Json.required? Timestamp.ofJson? timestamp
      return ⟨root, timestamp⟩
  | _ => none

instance : Recorded ConsensusState := ⟨toJson, ofJson?⟩

end ConsensusState

end Interchain
