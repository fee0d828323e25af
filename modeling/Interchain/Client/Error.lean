import Interchain.Client.Identifier
import Interchain.Height

/-
  Errors of light clients.

  Main declarations:
    * `ClientError`
    * `ClientError.message`
    * `ClientError.name`
-/

------------------------------------------------------------
-- Errors
------------------------------------------------------------

namespace Interchain

/- Why a client cannot be named, found, or asked. -/
inductive ClientError where
  | unknownKind (name : String)
  | noImplementation (kind : ClientKind)
  | noConsensusState (client : ClientId) (height : Height)
  | invalidHeight
  | invalidIdentifier (cause : IdentifierError)
  | noTimestamp
  | proofEncoding
  | rootMismatch
  | notMember (key : String)
  | member (key : String)
  deriving DecidableEq

namespace ClientError

/- What is reported of an error. -/
def message : ClientError → String
  | .unknownKind name => "unknown client type: " ++ name
  | .noImplementation kind =>
      "no light client implementation registered for " ++
        kind.display
  | .noConsensusState client height =>
      "consensus state not found at: " ++ client.text ++
        " at height " ++ height.display
  | .invalidHeight => "height cannot end up zero or negative"
  | .invalidIdentifier _ => "invalid client identifier"
  | .noTimestamp =>
      "the consensus state does not carry a timestamp"
  | .proofEncoding =>
      "the commitment proof could not be decoded"
  | .rootMismatch =>
      "the commitment proof does not hash to the consensus " ++
        "state root"
  | .notMember key =>
      "the proof does not commit to the expected value at " ++
        "path " ++ key
  | .member key =>
      "the proof shows a value is committed at path " ++ key

/- The name of an error, without what it is about. -/
def name : ClientError → String
  | .unknownKind _ => "UnknownClientType"
  | .noImplementation _ => "ClientImplementationNotFound"
  | .noConsensusState _ _ => "ConsensusStateNotFound"
  | .invalidHeight => "InvalidHeight"
  | .invalidIdentifier _ => "InvalidClientIdentifier"
  | .noTimestamp => "MissingConsensusTimestamp"
  | .proofEncoding => "InvalidProofEncoding"
  | .rootMismatch => "ProofRootMismatch"
  | .notMember _ => "MembershipVerificationFailed"
  | .member _ => "NonMembershipVerificationFailed"

/- What a client error wraps. -/
def source : ClientError → List Cause
  | .invalidIdentifier cause => trace cause
  | _ => []

instance : Traced ClientError where
  trace e := ⟨e.name, e.message⟩ :: e.source

end ClientError

/- The kind of client with a name. -/
def ClientKind.ofName
    (name : String) :
    Except ClientError ClientKind :=
  match ClientKind.ofName? name with
  | some kind => .ok kind
  | none => .error (.unknownKind name)

/- A height that is not zero. -/
def Height.make
    (revision block : UInt64) :
    Except ClientError Height :=
  match Height.make? revision block with
  | some height => .ok height
  | none => .error .invalidHeight

end Interchain
